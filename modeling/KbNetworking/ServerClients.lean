/-
# The client table of the only server

A connection is *held* when the server accepted it and has not closed it since.  The table
should list held connections only; then `get_client_info` and `broadcast` never concern a
closed one.  Every member function keeps it so: `disconnect` and `stop` close what they
forget, and the accept path enters what it has just accepted.

The connection status event of a lost connection does not: it closes the connection and
leaves the entry.  `noStaleClients_iff` proves that the table is right in every state of a
run exactly when no such event reaches the server for a connection in the table.
-/
import KbNetworking.Lib.Ledger
import KbNetworking.ServerSteps

namespace KbNetworking

open Cpp

/-! ## Held connections -/

/-- The call accepts the connection. -/
def ServerEffect.accepts : ServerEffect → Connection → Bool
  | .acceptConnection conn true, k => conn == k
  | _, _ => false

/-- The sites that close a connection the server had accepted; at the two others the server
refuses a connection. -/
def CloseSite.endsClient : CloseSite → Bool
  | .disconnect _ => true
  | .stop => true
  | .closedOrProblem => true
  | .acceptFailed => false
  | .pollGroupFailed => false

/-- The call closes the connection. -/
def ServerEffect.closes : ServerEffect → Connection → Bool
  | .closeConnection site conn, k => site.endsClient && conn == k
  | _, _ => false

/-- The connection was accepted and has not been closed since. -/
def Held (trace : List ServerEffect) (conn : Connection) : Prop :=
  Ledger.live ServerEffect.accepts ServerEffect.closes trace conn = true

instance (trace : List ServerEffect) (conn : Connection) : Decidable (Held trace conn) :=
  inferInstanceAs (Decidable (_ = true))

theorem Held.append {trace xs : List ServerEffect} {conn : Connection} (h : Held trace conn)
    (hxs : ∀ x ∈ xs, x.closes conn = false) : Held (trace ++ xs) conn :=
  Ledger.live_append_of_not_released hxs h

/-- An accepted connection is held. -/
theorem held_concat_accept (trace : List ServerEffect) (conn : Connection) :
    Held (trace ++ [.acceptConnection conn true]) conn :=
  Ledger.live_concat_of_acquires rfl (by simp [ServerEffect.accepts])

/-- A connection that was closed because it had ended is not held. -/
theorem not_held_concat_close (trace : List ServerEffect) (conn : Connection) :
    ¬ Held (trace ++ [.closeConnection .closedOrProblem conn]) conn := by
  have hreleased : Ledger.live ServerEffect.accepts ServerEffect.closes
      (trace ++ [.closeConnection .closedOrProblem conn]) conn = false :=
    Ledger.live_concat_of_releases (by simp [ServerEffect.closes, CloseSite.endsClient])
  rw [Held, hreleased]
  decide

/-! ## What the member functions keep -/

namespace UdpServer

variable {ι : Type}

/-- The table lists held connections only. -/
def Stocked (c : ServerContext ι) : Prop := ∀ conn ∈ c.self.clients.keys, Held c.trace conn

/-- From `c` to `c'` the table stays the same and no connection is closed. -/
def Quiet (c c' : ServerContext ι) : Prop :=
  c'.self.clients = c.self.clients
    ∧ ∃ xs, c'.trace = c.trace ++ xs ∧ ∀ x ∈ xs, ∀ conn, x.closes conn = false

/-- A quiet stretch keeps the table right. -/
theorem Stocked.quiet {c c' : ServerContext ι} (h : Stocked c) (hq : Quiet c c') :
    Stocked c' := by
  obtain ⟨hclients, xs, htrace, hxs⟩ := hq
  intro conn hconn
  rw [hclients] at hconn
  rw [htrace]
  exact (h conn hconn).append fun x hx => hxs x hx conn

/-- A stretch that only moves data and sets callbacks is quiet. -/
theorem SameBut.quiet {c c' : ServerContext ι} (h : SameBut c c') : Quiet c c' := by
  obtain ⟨xs, htrace, hxs⟩ := h.trace
  refine ⟨h.clients, xs, htrace, fun x hx conn => ?_⟩
  have htraffic := hxs x hx
  cases x <;> first | rfl | cases htraffic

/-- A start opens, and closes nothing. -/
theorem closes_startCalls {port : UInt16} {reply : StartReply} {x : ServerEffect}
    (hx : x ∈ startCalls port reply) (conn : Connection) : x.closes conn = false := by
  rcases List.mem_cons.mp hx with rfl | hx
  · rfl
  · split at hx
    · cases hx
    · rw [List.mem_singleton.mp hx]
      rfl

/-- `disconnect` forgets the connection it closes. -/
theorem stocked_disconnect {c : ServerContext ι} (h : Stocked c) (conn : Connection)
    (reason : Int) : Stocked (disconnect conn reason c) := by
  intro k hk
  obtain ⟨hne, hk⟩ := ClientTable.mem_keys_erase.mp hk
  refine (h k hk).append ?_
  intro x hx
  rw [List.mem_singleton.mp hx]
  simp [ServerEffect.closes, hne]

/-- `stop` forgets every connection, or does nothing to the table and the transport. -/
theorem stocked_stop {c : ServerContext ι} (h : Stocked c) : Stocked (stop c) := by
  rw [stop_eq]
  intro k hk
  cases hrunning : c.self.isRunning with
  | true =>
      simp only [afterStop, hrunning, if_true, ClientTable.keys_empty] at hk
      cases hk
  | false =>
      simp only [afterStop, stopCalls, hrunning, Bool.false_eq_true, if_false,
        List.append_nil] at hk ⊢
      exact h k hk

/-- A status event closes a client's connection only when it reports its end. -/
theorem closes_eventCalls {event : StatusEvent} {reply : AcceptReply} {self : UdpServer}
    {x : ServerEffect} (hx : x ∈ eventCalls event reply self) {conn : Connection}
    (hne : event.state.isClosed = true → event.conn ≠ conn) : x.closes conn = false := by
  rcases mem_eventCalls hx with ⟨client, -, rfl⟩ | ⟨hclosed, rfl⟩ | ⟨accepted, rfl⟩
      | ⟨assigned, rfl, -⟩ | rfl | rfl | ⟨client, -, rfl⟩
  · rfl
  · simp [ServerEffect.closes, hne hclosed]
  · rfl
  · rfl
  · rfl
  · rfl
  · rfl

/-- An admitted connection is held. -/
theorem held_of_admits {event : StatusEvent} {reply : AcceptReply}
    (hadmits : admits event reply = true) (trace : List ServerEffect) (self : UdpServer) :
    Held (trace ++ eventCalls event reply self) event.conn := by
  have hopen : event.state.isClosed = false := by
    simp only [admits, Bool.and_eq_true, beq_iff_eq] at hadmits
    rw [hadmits.1.1]
    rfl
  have hcalls := eventCalls_of_admits hadmits self
  have hrest : ∀ x ∈ ServerEffect.setConnectionPollGroup event.conn self.pollGroup true
      :: admittedCalls event reply self, x.closes event.conn = false := by
    intro x hx
    have hmem : x ∈ eventCalls event reply self := by
      rw [hcalls]
      exact List.mem_cons_of_mem _ hx
    refine closes_eventCalls hmem fun hclosed => ?_
    cases hopen.symm.trans hclosed
  rw [hcalls, List.cons_append, List.append_cons]
  exact (held_concat_accept trace event.conn).append hrest

/-- A status event keeps the table right unless it reports the end of a connection in it. -/
theorem stocked_onConnectionStatusChanged {c : ServerContext ι} (h : Stocked c)
    {event : StatusEvent} (reply : AcceptReply)
    (hopen : event.state.isClosed = true → event.conn ∉ c.self.clients.keys) :
    Stocked (onConnectionStatusChanged event reply c) := by
  rw [onConnectionStatusChanged_eq]
  have hold : ∀ k ∈ c.self.clients.keys,
      Held (c.trace ++ eventCalls event reply c.self) k := by
    intro k hk
    refine (h k hk).append fun x hx => closes_eventCalls hx fun hclosed => ?_
    rintro rfl
    exact hopen hclosed hk
  intro k hk
  cases hadmits : admits event reply with
  | false =>
      simp only [afterEvent, hadmits, Bool.false_eq_true, if_false] at hk
      exact hold k hk
  | true =>
      simp only [afterEvent, hadmits, if_true] at hk
      rcases ClientTable.mem_keys_set.mp hk with heq | hk
      · exact heq ▸ held_of_admits hadmits c.trace c.self
      · exact hold k hk

/-- A member call keeps the table right. -/
theorem stocked_run {me : ι} {operation : ServerOperation} {c c' : ServerContext ι}
    (h : Stocked c) (hrun : operation.run me c = .ok c') : Stocked c' := by
  rcases ServerOperation.run_cases hrun with ⟨port, reply, thread, -, -, rfl⟩ | ⟨-, rfl⟩
      | ⟨conn, reason, -, rfl⟩ | ⟨hsame, -⟩
  · exact h.quiet ⟨rfl, _, rfl, fun x hx conn => closes_startCalls hx conn⟩
  · exact stocked_stop h
  · exact stocked_disconnect h conn reason
  · exact h.quiet hsame.quiet

end UdpServer

/-! ## Runs of the only server -/

/-- No closed connection is a client: none is in the table, `get_client_info` returns none
and `broadcast` sends to none. -/
structure NoStaleClients (p : ServerProcess Unit) : Prop where
  keys : ∀ self, p.objects () = some self → ∀ conn ∈ self.clients.keys, Held p.trace conn
  getClientInfo : ∀ self conn info, p.objects () = some self →
    self.getClientInfo conn = some info → info.conn = conn ∧ Held p.trace conn
  broadcast : ∀ self data size reliable sent, p.objects () = some self →
    ∃ sends, (UdpServer.broadcast data size reliable sent (p.context self)).1.trace
        = p.trace ++ sends
      ∧ ∀ x ∈ sends, ∃ conn, Held p.trace conn
        ∧ x = .sendMessageToConnection conn (data.take size.toNat) reliable (sent conn)

/-- The table decides the other two. -/
theorem noStaleClients_of_keys {p : ServerProcess Unit}
    (h : ∀ self, p.objects () = some self → UdpServer.Stocked (p.context self)) :
    NoStaleClients p where
  keys := h
  getClientInfo := by
    intro self conn info hself hinfo
    refine ⟨ClientTable.conn_of_find hinfo, h self hself conn ?_⟩
    exact ClientTable.mem_keys.mpr (Option.isSome_of_eq_some hinfo)
  broadcast := by
    intro self data size reliable sent hself
    unfold UdpServer.broadcast
    split
    · exact ⟨[], by simp [Process.context], by simp⟩
    · rw [UdpServer.broadcastLoop_eq]
      refine ⟨_, rfl, ?_⟩
      intro x hx
      obtain ⟨conn, hconn, rfl⟩ := List.mem_map.mp hx
      exact ⟨conn, h self hself conn hconn, rfl⟩

/-- The step does not hand the server the end of a connection in its table. -/
def KeepsClients (p : ServerProcess Unit) : ServerAction Unit → Prop
  | .event (event, _) => event.state.isClosed = true → p.sInstance = some () →
      ∀ self, p.objects () = some self → event.conn ∉ self.clients.keys
  | _ => True

theorem noStaleClients_step {p p' : ServerProcess Unit} {a : ServerAction Unit}
    (hstep : (serverClass Unit).step p a = some p') (h : NoStaleClients p)
    (hok : KeepsClients p a) : NoStaleClients p' := by
  have hstocked : ∀ self, p.objects () = some self → UdpServer.Stocked (p.context self) := h.keys
  -- the only object after a member function is the one the function ran on
  have hput : ∀ c : ServerContext Unit, UdpServer.Stocked c → NoStaleClients (p.put () c) := by
    intro c hc
    refine noStaleClients_of_keys ?_
    intro self hself
    rw [Process.put_objects_self, Option.some.injEq] at hself
    exact hself ▸ hc
  have hfail : ∀ e, NoStaleClients (p.fail e) := fun e => noStaleClients_of_keys hstocked
  rcases ObjectClass.step_cases hstep with
      ⟨-, ⟨⟨⟩, rfl, -, rfl⟩ | ⟨⟨⟩, self, c, rfl, hself, hc, rfl⟩ | ⟨⟨⟩, self, e, rfl, -, -, rfl⟩
      | ⟨⟨⟩, operation, self, c, rfl, hself, hc, rfl⟩ | ⟨⟨⟩, operation, self, e, rfl, -, -, rfl⟩
      | ⟨e, rfl, rfl⟩⟩
  -- a new server has an empty table
  · refine hput _ ?_
    intro conn hconn
    rw [Process.context_self] at hconn
    simp [serverClass] at hconn
  -- after a destruction there is no server
  · refine noStaleClients_of_keys ?_
    intro self hself
    simp at hself
  · exact hfail e
  -- a member call, which returns or runs into a fault
  · exact hput c (UdpServer.stocked_run (hstocked self hself) hc)
  · exact hfail e
  -- an event, for nobody or for the server
  · rcases Process.throughInstance_cases p ((serverClass Unit).handle e) with
        heq | ⟨⟨⟩, self, hinstance, hself, heq⟩ | heq
    · rw [heq]
      exact h
    · rw [heq]
      refine hput _ ?_
      refine UdpServer.stocked_onConnectionStatusChanged (hstocked self hself) e.2 ?_
      intro hclosed
      exact hok hclosed hinstance self hself
    · rw [heq]
      exact hfail _

/-- The end of a connection in the table leaves its entry behind. -/
theorem not_noStaleClients_of_end {p : ServerProcess Unit} {self : UdpServer}
    {event : StatusEvent} (reply : AcceptReply) (hinstance : p.sInstance = some ())
    (hself : p.objects () = some self) (hclosed : event.state.isClosed = true)
    (hconn : event.conn ∈ self.clients.keys) :
    ¬ NoStaleClients (connectionStatusChangedCallback p event reply) := by
  have hnot : UdpServer.admits event reply = false := by
    unfold UdpServer.admits
    cases hstate : event.state <;> rw [hstate] at hclosed <;> first | rfl | cases hclosed
  have hcalls : UdpServer.eventCalls event reply self
      = UdpServer.lostCalls event self ++ [.closeConnection .closedOrProblem event.conn] := by
    unfold UdpServer.eventCalls
    cases hstate : event.state <;> rw [hstate] at hclosed <;> first | rfl | cases hclosed
  intro h
  rw [connectionStatusChangedCallback, Process.throughInstance_of_some hinstance hself,
    UdpServer.onConnectionStatusChanged_eq] at h
  have hheld := h.keys _ (Process.put_objects_self p () _) event.conn
  rw [Process.put_trace, Process.context_self, hcalls, ← List.append_assoc] at hheld
  refine not_held_concat_close (p.trace ++ UdpServer.lostCalls event self) event.conn (hheld ?_)
  simp only [UdpServer.afterEvent, hnot, Bool.false_eq_true, if_false]
  exact hconn

/-- **No stale clients**: in every run of the only server, the table lists held connections
in every state exactly when no step of the run hands the server the end of a connection in
its table. -/
theorem noStaleClients_iff (as : List (ServerAction Unit)) :
    (serverProcess Unit).Always NoStaleClients (serverProcess Unit).init as
      ↔ (serverProcess Unit).EachStep (fun p a _ => KeepsClients p a)
          (serverProcess Unit).init as := by
  refine Machine.always_iff_eachStep (fun _ h => h)
    (fun p a p' hstep h hok => noStaleClients_step hstep h hok) ?_ ?_ as
  · intro p a p' hstep h hno
    cases a with
    | construct i => exact absurd trivial hno
    | destroy i => exact absurd trivial hno
    | call i operation => exact absurd trivial hno
    | event e =>
        simp only [KeepsClients, not_forall, not_not] at hno
        obtain ⟨hclosed, hinstance, self, hself, hconn⟩ := hno
        rw [ObjectClass.step_event hstep]
        exact not_noStaleClients_of_end e.2 hinstance hself hclosed hconn
  · refine noStaleClients_of_keys ?_
    intro self hself
    cases hself

/-- A client connects and goes away: its entry stays. -/
theorem not_noStaleClients_closedByPeer :
    ¬ ∀ as, (serverProcess Unit).Always NoStaleClients (serverProcess Unit).init as := by
  intro h
  have hrun := h [.construct (), .call () (.startManual 7000 { listenSocket := 1, pollGroup := 1 }),
    .event ({ conn := 5, listenSocket := 1, state := .connecting, oldState := .none },
      { accepted := true, assigned := true, addrRemote := { ip := .replicate 16 0, port := 9 } }),
    .event ({ conn := 5, listenSocket := 1, state := .closedByPeer, oldState := .connected },
      { accepted := true, assigned := true, addrRemote := { ip := .replicate 16 0, port := 9 } })]
  obtain ⟨-, hrun⟩ := hrun
  obtain ⟨-, hrun⟩ := hrun _ rfl
  obtain ⟨-, hrun⟩ := hrun _ rfl
  obtain ⟨-, hrun⟩ := hrun _ rfl
  have hlast : NoStaleClients (connectionStatusChangedCallback _ ⟨5, 1, .closedByPeer, .connected⟩
      ⟨true, true, ⟨.replicate 16 0, 9⟩⟩) := hrun _ rfl
  refine not_noStaleClients_of_end _ rfl rfl rfl ?_ hlast
  exact (ClientTable.mem_keys_set (t := .empty)).mpr (.inl rfl)

end KbNetworking
