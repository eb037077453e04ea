/-
# Connect and disconnect notifications of the only server

The server announces a connection when it accepts it, in the event that reports the state
`Connecting`.  It announces the end of a connection only when the previous state was
`Connected`.  A connection that ends before it reaches `Connected` has been announced, and
its end is not.

`notificationsPair_iff` proves that this is all that goes wrong: along a run in which every
connection follows the order of the transport, announcements pair up exactly when every
connection in the table that ends was `Connected` before.
-/
import KbNetworking.ServerLiveClients

namespace KbNetworking

open Cpp

/-! ## The order of the transport -/

/-- The states a connection can go to: `Connecting`, then `Connected` or its end, and from
`Connected` its end. -/
def ConnectionState.next : ConnectionState → ConnectionState → Bool
  | .none, state => state == .connecting
  | .connecting, state => state == .connected || state.isClosed
  | .connected, state => state.isClosed
  | _, _ => false

/-- The transport keeps a state for every connection.  An event reports the next one together
with the true previous one; the events without a state, which follow the destruction of a
connection, may come at any time. -/
def transportOrder : Machine.Monitor (Connection → ConnectionState) (ServerAction Unit) where
  allowed := fun state a =>
    match a with
    | .event (event, _) => event.state = .none
        ∨ (event.oldState = state event.conn ∧ (state event.conn).next event.state = true)
    | _ => True
  note := fun state a =>
    match a with
    | .event (event, _) =>
        if event.state = .none then state else Function.update state event.conn event.state
    | _ => state

/-- Only a connection that has not ended goes on. -/
theorem isClosed_of_next {state state' : ConnectionState} (h : state.next state' = true) :
    state.isClosed = false := by
  cases state <;> first | rfl | cases h

/-- What the transport notes does not bring an ended connection back. -/
theorem isClosed_note {state : Connection → ConnectionState} {a : ServerAction Unit}
    (hallowed : transportOrder.allowed state a) {conn : Connection}
    (h : (transportOrder.note state a conn).isClosed = false) :
    (state conn).isClosed = false := by
  cases a with
  | event e =>
      unfold transportOrder at h hallowed
      dsimp only at h hallowed
      split at h
      · exact h
      · rename_i hstate
        by_cases hconn : conn = e.1.conn
        · subst hconn
          exact isClosed_of_next (hallowed.resolve_left hstate).2
        · rwa [Function.update_of_ne hconn] at h
  | _ => exact h

/-! ## Announcements -/

/-- The call announces the connection. -/
def ServerEffect.announces : ServerEffect → Connection → Bool
  | .clientConnected client, k => client.conn == k
  | _, _ => false

/-- The call removes the connection at the wish of the user. -/
def ServerEffect.removes : ServerEffect → Connection → Bool
  | .closeConnection (.disconnect _) conn, k => conn == k
  | .closeConnection .stop conn, k => conn == k
  | _, _ => false

/-- The call announces the end of the connection. -/
def ServerEffect.announcesEnd : ServerEffect → Connection → Bool
  | .clientDisconnected client, k => client.conn == k
  | _, _ => false

/-- The connection was announced, and not removed by `disconnect` or `stop` since. -/
def Announced (trace : List ServerEffect) (conn : Connection) : Bool :=
  Ledger.live ServerEffect.announces ServerEffect.removes trace conn

/-- How often the end of the connection was announced. -/
def endsAnnounced (trace : List ServerEffect) (conn : Connection) : ℕ :=
  trace.countP (·.announcesEnd conn)

/-- The end of a connection is announced after the connection. -/
def EndAfterConnected (before : List ServerEffect) (x : ServerEffect) : Prop :=
  ∀ client, x = .clientDisconnected client →
    ∃ client', .clientConnected client' ∈ before ∧ client'.conn = client.conn

/-- The entry announces nothing and removes nothing. -/
def ServerEffect.isSilent : ServerEffect → Bool
  | .clientConnected _ => false
  | .clientDisconnected _ => false
  | .closeConnection (.disconnect _) _ => false
  | .closeConnection .stop _ => false
  | _ => true

theorem ServerEffect.silent {x : ServerEffect} (h : x.isSilent = true) (k : Connection) :
    x.announces k = false ∧ x.removes k = false ∧ x.announcesEnd k = false := by
  cases x with
  | closeConnection site conn => cases site <;> first | exact ⟨rfl, rfl, rfl⟩ | cases h
  | clientConnected client => cases h
  | clientDisconnected client => cases h
  | _ => exact ⟨rfl, rfl, rfl⟩

theorem announced_append_of_silent {trace xs : List ServerEffect}
    (h : ∀ x ∈ xs, x.isSilent = true) (conn : Connection) :
    Announced (trace ++ xs) conn = Announced trace conn :=
  Ledger.live_append_of_unrelated fun x hx =>
    ⟨(ServerEffect.silent (h x hx) conn).1, (ServerEffect.silent (h x hx) conn).2.1⟩

theorem announced_concat (trace : List ServerEffect) (x : ServerEffect) (conn : Connection) :
    Announced (trace ++ [x]) conn
      = if x.removes conn then false else Announced trace conn || x.announces conn :=
  Ledger.live_concat trace x conn

/-- What the trace tells about the announced ends, given the states of the connections. -/
structure EndsMatch (state : Connection → ConnectionState) (trace : List ServerEffect) :
    Prop where
  notYet : ∀ conn, (state conn).isClosed = false → endsAnnounced trace conn = 0
  atMostOnce : ∀ conn, endsAnnounced trace conn ≤ 1
  afterConnected : Ledger.EachEntry EndAfterConnected trace

/-- Entries that announce no end. -/
theorem EndsMatch.append {state state' : Connection → ConnectionState}
    {trace xs : List ServerEffect} (h : EndsMatch state trace)
    (hstate : ∀ conn, (state' conn).isClosed = false → (state conn).isClosed = false)
    (hxs : ∀ x ∈ xs, ∀ client, x ≠ .clientDisconnected client) :
    EndsMatch state' (trace ++ xs) := by
  have hcount : ∀ conn, endsAnnounced (trace ++ xs) conn = endsAnnounced trace conn := by
    intro conn
    have hnone : xs.countP (·.announcesEnd conn) = 0 := by
      refine List.countP_eq_zero.mpr fun x hx => ?_
      cases x with
      | clientDisconnected client => exact absurd rfl (hxs _ hx client)
      | _ => exact Bool.false_ne_true
    rw [endsAnnounced, List.countP_append, hnone, Nat.add_zero, endsAnnounced]
  refine ⟨?_, ?_, h.afterConnected.append fun x hx before client heq => ?_⟩
  · intro conn hopen
    rw [hcount]
    exact h.notYet conn (hstate conn hopen)
  · intro conn
    rw [hcount]
    exact h.atMostOnce conn
  · exact absurd heq (hxs x hx client)

/-- The announcement of an end that was not announced yet, for an announced connection. -/
theorem EndsMatch.concat_end {state state' : Connection → ConnectionState}
    {trace : List ServerEffect} {client : ClientInfo} (h : EndsMatch state trace)
    (hopen : (state client.conn).isClosed = false)
    (hclosed : (state' client.conn).isClosed = true)
    (hstate : ∀ conn, (state' conn).isClosed = false → (state conn).isClosed = false)
    (hannounced : Announced trace client.conn = true) :
    EndsMatch state' (trace ++ [.clientDisconnected client]) := by
  have hcount : ∀ conn, endsAnnounced (trace ++ [.clientDisconnected client]) conn
      = endsAnnounced trace conn + if client.conn = conn then 1 else 0 := by
    intro conn
    simp [endsAnnounced, List.countP_append, List.countP_cons, ServerEffect.announcesEnd]
  refine ⟨?_, ?_, h.afterConnected.concat ?_⟩
  · intro conn hconn
    have hne : client.conn ≠ conn := by
      rintro rfl
      rw [hclosed] at hconn
      cases hconn
    rw [hcount, if_neg hne, h.notYet conn (hstate conn hconn)]
  · intro conn
    rw [hcount]
    split
    · rename_i heq
      rw [← heq, h.notYet client.conn hopen]
    · exact h.atMostOnce conn
  · intro client' heq
    obtain rfl := ServerEffect.clientDisconnected.inj heq
    obtain ⟨x, hx, hannounces⟩ := Ledger.exists_of_live hannounced
    cases x with
    | clientConnected client' =>
        exact ⟨client', hx, by simpa [ServerEffect.announces] using hannounces⟩
    | _ => cases hannounces

/-- A change of states that brings no ended connection back. -/
theorem EndsMatch.mono {state state' : Connection → ConnectionState} {trace : List ServerEffect}
    (h : EndsMatch state trace)
    (hstate : ∀ conn, (state' conn).isClosed = false → (state conn).isClosed = false) :
    EndsMatch state' trace := by
  have happend : EndsMatch state' (trace ++ []) :=
    h.append hstate fun x hx => absurd hx List.not_mem_nil
  rwa [List.append_nil] at happend

namespace UdpServer

/-! ## What the member functions keep -/

/-- The table lists the announced connections, and the pointer points to a running server. -/
structure Tabled (c : ServerContext Unit) : Prop where
  keys : ∀ conn, Announced c.trace conn = true ↔ conn ∈ c.self.clients.keys
  running : c.self.isRunning = true → c.sInstance = some ()

theorem Tabled.of_silent {c c' : ServerContext Unit} (h : Tabled c) {xs : List ServerEffect}
    (htrace : c'.trace = c.trace ++ xs) (hxs : ∀ x ∈ xs, x.isSilent = true)
    (hclients : c'.self.clients = c.self.clients)
    (hrunning : c'.self.isRunning = true → c'.sInstance = some ()) : Tabled c' where
  keys := by
    intro conn
    rw [htrace, announced_append_of_silent hxs, hclients]
    exact h.keys conn
  running := hrunning

theorem silent_startCalls (port : UInt16) (reply : StartReply) :
    ∀ x ∈ startCalls port reply, x.isSilent = true := by
  unfold startCalls
  split <;> simp [ServerEffect.isSilent]

theorem silent_shutCalls (self : UdpServer) : ∀ x ∈ shutCalls self, x.isSilent = true := by
  unfold shutCalls
  split_ifs <;> simp [ServerEffect.isSilent]

theorem silent_of_isTraffic {x : ServerEffect} (h : x.isTraffic = true) : x.isSilent = true := by
  cases x <;> first | rfl | cases h

/-- `stop` announces no end. -/
theorem not_clientDisconnected_stopCalls (self : UdpServer) :
    ∀ x ∈ stopCalls self, ∀ client, x ≠ .clientDisconnected client := by
  rintro x hx client rfl
  unfold stopCalls at hx
  split at hx
  · rcases List.mem_append.mp hx with hx | hx
    · obtain ⟨conn, -, heq⟩ := List.mem_map.mp hx
      cases heq
    · cases silent_shutCalls self _ hx
  · cases hx

/-- `stop` removes every announced connection. -/
theorem announced_stop {c : ServerContext Unit} (h : Tabled c) (hregistered : Registered c)
    (conn : Connection) : Announced (stop c).trace conn = false := by
  have hkeys := h.keys conn
  rw [stop_eq]
  unfold stopCalls
  dsimp only
  split
  · rw [← List.append_assoc, announced_append_of_silent (silent_shutCalls c.self)]
    have hnew : ∀ x ∈ c.self.clients.keys.map (ServerEffect.closeConnection .stop),
        x.announces conn = false := by
      intro x hx
      obtain ⟨k, -, rfl⟩ := List.mem_map.mp hx
      rfl
    unfold Announced at hkeys ⊢
    rw [Ledger.live_append_of_not_acquired hnew]
    cases hannounced : Ledger.live ServerEffect.announces ServerEffect.removes c.trace conn with
    | false => rfl
    | true =>
        have hmem : ServerEffect.closeConnection .stop conn
            ∈ c.self.clients.keys.map (ServerEffect.closeConnection .stop) :=
          List.mem_map.mpr ⟨conn, hkeys.mp hannounced, rfl⟩
        have hany : (c.self.clients.keys.map (ServerEffect.closeConnection .stop)).any
            (fun x => x.removes conn) = true :=
          List.any_eq_true.mpr ⟨_, hmem, by simp [ServerEffect.removes]⟩
        rw [hany]
        rfl
  · rename_i hrunning
    rw [hregistered.idle (by simpa using hrunning)] at hkeys
    rw [List.append_nil]
    simpa using hkeys

theorem tabled_stop {c : ServerContext Unit} (h : Tabled c) (hregistered : Registered c) :
    Tabled (stop c) where
  keys := by
    intro conn
    have hnone : (stop c).self.clients.keys = [] :=
      (registered_stop hregistered).idle (by rw [stop_eq]; exact isRunning_afterStop c.self)
    rw [announced_stop h hregistered, hnone]
    simp
  running := by
    intro hrunning
    rw [stop_eq] at hrunning
    rw [isRunning_afterStop] at hrunning
    cases hrunning

theorem tabled_disconnect {c : ServerContext Unit} (h : Tabled c) (conn : Connection)
    (reason : Int) : Tabled (disconnect conn reason c) where
  keys := by
    intro k
    have hannounced : Announced (disconnect conn reason c).trace k
        = if conn == k then false else Announced c.trace k || false :=
      announced_concat c.trace (.closeConnection (.disconnect reason) conn) k
    have hkeys : k ∈ (disconnect conn reason c).self.clients.keys
        ↔ conn ≠ k ∧ k ∈ c.self.clients.keys := ClientTable.mem_keys_erase
    rw [hannounced, hkeys, ← h.keys k]
    by_cases hk : conn = k <;> simp [hk]
  running := h.running

/-- A status event that admits no connection announces and removes none. -/
theorem announced_of_refused {event : StatusEvent} {reply : AcceptReply}
    (hrefused : admits event reply = false) (self : UdpServer) (conn : Connection) :
    ∀ x ∈ eventCalls event reply self, x.announces conn = false ∧ x.removes conn = false := by
  intro x hx
  rcases mem_eventCalls hx with ⟨client, -, rfl⟩ | ⟨-, rfl⟩ | ⟨accepted, rfl⟩ | ⟨assigned, rfl, -⟩
      | rfl | rfl | ⟨client, hadmits, -⟩
  all_goals first | exact ⟨rfl, rfl⟩ | cases hrefused.symm.trans hadmits

/-- A status event, when the callback for new connections is set. -/
theorem tabled_onConnectionStatusChanged {c : ServerContext Unit} (h : Tabled c)
    (hset : c.self.clientConnectedCallback = true) (event : StatusEvent) (reply : AcceptReply) :
    Tabled (onConnectionStatusChanged event reply c) := by
  rw [onConnectionStatusChanged_eq]
  cases hadmits : admits event reply with
  | false =>
      rw [afterEvent, hadmits]
      refine ⟨fun conn => ?_, h.running⟩
      have hsame : Announced (c.trace ++ eventCalls event reply c.self) conn
          = Announced c.trace conn :=
        Ledger.live_append_of_unrelated (announced_of_refused hadmits c.self conn)
      dsimp only
      rw [hsame]
      exact h.keys conn
  | true =>
      rw [afterEvent, hadmits, if_pos rfl, eventCalls_of_admits hadmits, admittedCalls, if_pos hset]
      refine ⟨fun conn => ?_, h.running⟩
      dsimp only
      have hsilent : ∀ x ∈ [ServerEffect.acceptConnection event.conn true,
          .setConnectionPollGroup event.conn c.self.pollGroup true], x.isSilent = true := by
        simp [ServerEffect.isSilent]
      rw [← List.append_assoc, announced_concat, announced_append_of_silent hsilent,
        ClientTable.mem_keys_set, ← h.keys conn]
      by_cases hconn : event.conn = conn <;>
        simp [ServerEffect.removes, ServerEffect.announces, hconn]

/-- The end of a connection in the table is announced when it was `Connected`. -/
theorem lostCalls_of_key {self : UdpServer} {event : StatusEvent}
    (hkey : event.conn ∈ self.clients.keys) (hset : self.clientDisconnectedCallback = true) :
    ∃ client, client.conn = event.conn
      ∧ lostCalls event self
        = if event.oldState = .connected then [.clientDisconnected client] else [] := by
  obtain ⟨client, hclient⟩ := Option.isSome_iff_exists.mp (ClientTable.mem_keys.mp hkey)
  refine ⟨client, ClientTable.conn_of_find hclient, ?_⟩
  have hinfo : self.getClientInfo event.conn = some client := hclient
  simp [lostCalls, hinfo, hset]

/-- The end of a connection outside the table is not announced. -/
theorem lostCalls_of_not_key {self : UdpServer} {event : StatusEvent}
    (hkey : event.conn ∉ self.clients.keys) : lostCalls event self = [] := by
  have hinfo : self.getClientInfo event.conn = none := by
    rw [ClientTable.mem_keys] at hkey
    exact Option.not_isSome_iff_eq_none.mp hkey
  rw [lostCalls, hinfo]

/-- The calls of the end of a connection. -/
theorem eventCalls_of_closed {event : StatusEvent} (hclosed : event.state.isClosed = true)
    (reply : AcceptReply) (self : UdpServer) :
    eventCalls event reply self
      = lostCalls event self ++ [.closeConnection .closedOrProblem event.conn] := by
  unfold eventCalls
  cases hstate : event.state <;> rw [hstate] at hclosed <;> first | rfl | cases hclosed

/-- A status event that follows the order of the transport, when the callback for lost
connections is set. -/
theorem endsMatch_eventCalls {state : Connection → ConnectionState} {c : ServerContext Unit}
    (htabled : Tabled c) (h : EndsMatch state c.trace)
    (hset : c.self.clientDisconnectedCallback = true) {event : StatusEvent} {reply : AcceptReply}
    (hallowed : transportOrder.allowed state (.event (event, reply))) :
    EndsMatch (transportOrder.note state (.event (event, reply)))
      (c.trace ++ eventCalls event reply c.self) := by
  have hstate : ∀ conn, (transportOrder.note state (.event (event, reply)) conn).isClosed = false →
      (state conn).isClosed = false := fun conn => isClosed_note hallowed
  cases hclosed : event.state.isClosed with
  | false =>
      refine h.append hstate fun x hx client heq => ?_
      rcases mem_eventCalls hx with ⟨-, hends, -⟩ | ⟨-, rfl⟩ | ⟨accepted, rfl⟩ | ⟨assigned, rfl, -⟩
          | rfl | rfl | ⟨other, -, rfl⟩
      · cases hclosed.symm.trans hends
      all_goals cases heq
  | true =>
      have hnone : event.state ≠ .none := by
        intro heq
        rw [heq] at hclosed
        cases hclosed
      have hopen : (state event.conn).isClosed = false :=
        isClosed_of_next (hallowed.resolve_left hnone).2
      have hnow : transportOrder.note state (.event (event, reply)) event.conn = event.state := by
        simp [transportOrder, hnone]
      have hlost : EndsMatch (transportOrder.note state (.event (event, reply)))
          (c.trace ++ lostCalls event c.self) := by
        by_cases hkey : event.conn ∈ c.self.clients.keys
        · obtain ⟨client, hconn, hcalls⟩ := lostCalls_of_key hkey hset
          rw [hcalls]
          split
          · rw [← hconn] at hopen hnow hkey
            exact h.concat_end hopen (hnow ▸ hclosed) hstate ((htabled.keys client.conn).mpr hkey)
          · rw [List.append_nil]
            exact h.mono hstate
        · rw [lostCalls_of_not_key hkey, List.append_nil]
          exact h.mono hstate
      rw [eventCalls_of_closed hclosed, ← List.append_assoc]
      exact hlost.append (fun _ => id) (by simp)

end UdpServer

/-! ## Runs of the only server -/

/-- Announcements pair up: no end is announced twice, and none before its connection. -/
def AnnouncementsPair (p : ServerProcess Unit) : Prop :=
  (∀ conn, endsAnnounced p.trace conn ≤ 1) ∧ Ledger.EachEntry EndAfterConnected p.trace

/-- When an announced connection that was not removed ends, its end has been announced
exactly once after the step. -/
def AnnouncesEnd (p : ServerProcess Unit) (a : ServerAction Unit) (p' : ServerProcess Unit) :
    Prop :=
  ∀ event reply, a = .event (event, reply) → event.state.isClosed = true →
    Announced p.trace event.conn = true → endsAnnounced p'.trace event.conn = 1

/-- The step does not hand the server the end of a connection in its table that was not
`Connected`. -/
def EndsConnected (p : ServerProcess Unit) : ServerAction Unit → Prop
  | .event (event, _) => event.state.isClosed = true → p.sInstance = some () →
      ∀ self, p.objects () = some self → event.conn ∈ self.clients.keys →
        event.oldState = .connected
  | _ => True

/-- Both client callbacks are set when the server handles a status event. -/
def CallbacksSet (p : ServerProcess Unit) : ServerAction Unit → Prop
  | .event _ => ∀ self, p.objects () = some self →
      self.clientConnectedCallback = true ∧ self.clientDisconnectedCallback = true
  | _ => True

/-- What the steps keep about the announcements, given the states of the connections. -/
structure Notified (state : Connection → ConnectionState) (p : ServerProcess Unit) : Prop where
  registered : ClientsRegistered p
  tabled : p.Sole UdpServer.Tabled fun _ trace => ∀ conn, Announced trace conn = false
  ends : EndsMatch state p.trace

variable {state : Connection → ConnectionState} {p p' : ServerProcess Unit}
  {a : ServerAction Unit}

theorem tabled_step (hstep : (serverClass Unit).step p a = some p') (h : Notified state p)
    (hset : CallbacksSet p a) :
    p'.Sole UdpServer.Tabled fun _ trace => ∀ conn, Announced trace conn = false := by
  refine ObjectClass.sole_step hstep h.tabled ?_ ?_ ?_ ?_
  · intro hnone
    refine ⟨fun conn => ?_, nofun⟩
    rw [show (p.context _).trace = p.trace from rfl, hnone conn]
    simp [serverClass]
  · intro self c _ hself htabled hc
    rw [UdpServer.destroy_eq_ok hc]
    exact UdpServer.announced_stop htabled (h.registered.of_some hself)
  · intro operation self c _ hself htabled hc
    have hregistered : UdpServer.Registered (p.context self) := h.registered.of_some hself
    rcases ServerOperation.run_cases hc with ⟨port, reply, thread, -, hrest, rfl⟩
        | ⟨-, rfl⟩ | ⟨conn, reason, -, rfl⟩ | ⟨hsame, -⟩
    · refine htabled.of_silent rfl (UdpServer.silent_startCalls port reply) rfl fun hrunning => ?_
      have hsucceeds : UdpServer.startSucceeds reply = true := hrunning
      rw [hsucceeds]
      rfl
    · exact UdpServer.tabled_stop htabled hregistered
    · exact UdpServer.tabled_disconnect htabled conn reason
    · obtain ⟨xs, htrace, hxs⟩ := hsame.trace
      refine htabled.of_silent htrace (fun x hx => UdpServer.silent_of_isTraffic (hxs x hx))
        hsame.clients fun hrunning => ?_
      rw [hsame.isRunning] at hrunning
      rw [hsame.sInstance]
      exact htabled.running hrunning
  · rintro e self rfl _ hself htabled
    exact UdpServer.tabled_onConnectionStatusChanged htabled (hset self hself).1 e.1 e.2

/-- A member call announces no end. -/
theorem exists_trace_run {operation : ServerOperation} {c c' : ServerContext Unit}
    (hrun : operation.run () c = .ok c') :
    ∃ xs, c'.trace = c.trace ++ xs ∧ ∀ x ∈ xs, ∀ client, x ≠ .clientDisconnected client := by
  have hsilent : ∀ x : ServerEffect, x.isSilent = true →
      ∀ client, x ≠ .clientDisconnected client := by
    rintro x hx client rfl
    cases hx
  rcases ServerOperation.run_cases hrun with ⟨port, reply, thread, -, -, rfl⟩ | ⟨-, rfl⟩
      | ⟨conn, reason, -, rfl⟩ | ⟨hsame, -⟩
  · exact ⟨_, rfl, fun x hx => hsilent x (UdpServer.silent_startCalls port reply x hx)⟩
  · rw [UdpServer.stop_eq]
    exact ⟨_, rfl, UdpServer.not_clientDisconnected_stopCalls c.self⟩
  · exact ⟨_, rfl, by simp⟩
  · obtain ⟨xs, htrace, hxs⟩ := hsame.trace
    exact ⟨xs, htrace, fun x hx => hsilent x (UdpServer.silent_of_isTraffic (hxs x hx))⟩

/-- A step that the transport allows keeps the announced ends matched to the states. -/
theorem endsMatch_step (hstep : (serverClass Unit).step p a = some p') (h : Notified state p)
    (hallowed : transportOrder.allowed state a) (hset : CallbacksSet p a) :
    EndsMatch (transportOrder.note state a) p'.trace := by
  have hstate : ∀ conn, (transportOrder.note state a conn).isClosed = false →
      (state conn).isClosed = false := fun conn => isClosed_note hallowed
  rcases ObjectClass.step_cases hstep with
      ⟨-, ⟨⟨⟩, rfl, -, rfl⟩ | ⟨⟨⟩, self, c, rfl, -, hc, rfl⟩ | ⟨⟨⟩, self, e, rfl, -, -, rfl⟩
      | ⟨⟨⟩, operation, self, c, rfl, -, hc, rfl⟩ | ⟨⟨⟩, operation, self, e, rfl, -, -, rfl⟩
      | ⟨e, rfl, rfl⟩⟩
  · exact h.ends
  · rw [UdpServer.destroy_eq_ok hc, UdpServer.stop_eq]
    exact h.ends.append hstate (UdpServer.not_clientDisconnected_stopCalls self)
  · exact h.ends
  · obtain ⟨xs, htrace, hxs⟩ := exists_trace_run hc
    rw [Process.put_trace, htrace]
    exact h.ends.append hstate hxs
  · exact h.ends
  · rcases Process.throughInstance_cases p ((serverClass Unit).handle e) with
        heq | ⟨⟨⟩, self, -, hself, heq⟩ | heq
    · rw [heq]
      exact h.ends.mono hstate
    · have htabled : UdpServer.Tabled (p.context self) := h.tabled.of_some hself
      rw [heq, Process.put_trace]
      show EndsMatch _ (UdpServer.onConnectionStatusChanged e.1 e.2 (p.context self)).trace
      rw [UdpServer.onConnectionStatusChanged_eq]
      exact UdpServer.endsMatch_eventCalls htabled h.ends (hset self hself).2 hallowed
    · rw [heq]
      exact h.ends.mono hstate

/-- The end of an announced connection reaches the server, which has it in its table. -/
theorem Notified.exists_server (h : Notified state p) {conn : Connection}
    (hannounced : Announced p.trace conn = true) :
    ∃ self, p.objects () = some self ∧ conn ∈ self.clients.keys ∧ p.sInstance = some () := by
  cases hself : p.objects () with
  | none => cases hannounced.symm.trans (h.tabled.of_none hself conn)
  | some self =>
      have htabled : UdpServer.Tabled (p.context self) := h.tabled.of_some hself
      have hregistered : UdpServer.Registered (p.context self) := h.registered.of_some hself
      have hkey : conn ∈ self.clients.keys := (htabled.keys conn).mp hannounced
      refine ⟨self, rfl, hkey, htabled.running ?_⟩
      by_contra hrest
      have hempty : self.clients.keys = [] := hregistered.idle (by simpa using hrest)
      rw [hempty] at hkey
      cases hkey

/-- How often the end of a connection in the table is announced by the event that reports
it: once if it was `Connected`, and not at all otherwise. -/
theorem endsAnnounced_of_closed {event : StatusEvent} {reply : AcceptReply} {self : UdpServer}
    (hstep : (serverClass Unit).step p (.event (event, reply)) = some p') (h : Notified state p)
    (hallowed : transportOrder.allowed state (.event (event, reply)))
    (hset : CallbacksSet p (.event (event, reply))) (hclosed : event.state.isClosed = true)
    (hinstance : p.sInstance = some ()) (hself : p.objects () = some self)
    (hkey : event.conn ∈ self.clients.keys) :
    endsAnnounced p'.trace event.conn = if event.oldState = .connected then 1 else 0 := by
  have hnone : event.state ≠ .none := by
    intro heq
    rw [heq] at hclosed
    cases hclosed
  have hbefore : endsAnnounced p.trace event.conn = 0 :=
    h.ends.notYet event.conn (isClosed_of_next (hallowed.resolve_left hnone).2)
  obtain ⟨client, hconn, hcalls⟩ := UdpServer.lostCalls_of_key hkey (hset self hself).2
  have htrace : p'.trace = p.trace ++ (UdpServer.lostCalls event self
      ++ [.closeConnection .closedOrProblem event.conn]) := by
    rw [ObjectClass.step_event hstep, Process.throughInstance_of_some hinstance hself,
      ← UdpServer.eventCalls_of_closed hclosed reply]
    exact congrArg Context.trace (UdpServer.onConnectionStatusChanged_eq event reply _)
  rw [htrace, hcalls, endsAnnounced, List.countP_append, ← endsAnnounced, hbefore]
  split <;> simp [ServerEffect.announcesEnd, hconn]

/-- **Connect and disconnect notifications pair up**: in a run of the only server with both
callbacks set and the events in the order of the transport, every announced connection that
ends is announced lost exactly once, after its connection, exactly when every connection in
the table that ends was `Connected` before. -/
theorem notificationsPair_iff (as : List (ServerAction Unit))
    (hset : (serverProcess Unit).EachStep (fun p a _ => CallbacksSet p a)
      (serverProcess Unit).init as)
    (horder : transportOrder.Admits (fun _ => .none) as) :
    ((serverProcess Unit).Always AnnouncementsPair (serverProcess Unit).init as
        ∧ (serverProcess Unit).EachStep AnnouncesEnd (serverProcess Unit).init as)
      ↔ (serverProcess Unit).EachStep (fun p a _ => EndsConnected p a)
          (serverProcess Unit).init as := by
  have hinit : Notified (fun _ => .none) (serverProcess Unit).init := by
    refine ⟨⟨rfl, not_liveClient_nil⟩, fun _ => rfl, fun _ _ => rfl, fun _ => ?_,
      Ledger.eachEntry_nil _⟩
    exact Nat.zero_le 1
  refine Machine.always_and_eachStep_iff_of_admits (M := serverProcess Unit)
    (fun _ p h => ⟨h.ends.atMostOnce, h.ends.afterConnected⟩) ?_ ?_ hinit horder hset
  · intro state p a p' hstep h hallowed hset hok
    refine ⟨⟨clientsRegistered_step hstep h.registered, tabled_step hstep h hset,
      endsMatch_step hstep h hallowed hset⟩, ?_⟩
    rintro event reply rfl hclosed hannounced
    obtain ⟨self, hself, hkey, hinstance⟩ := h.exists_server hannounced
    rw [endsAnnounced_of_closed hstep h hallowed hset hclosed hinstance hself hkey,
      if_pos (hok hclosed hinstance self hself hkey)]
  · intro state p a p' hstep h hallowed hset _ hends
    cases a with
    | event e =>
        intro hclosed hinstance self hself hkey
        have htabled : UdpServer.Tabled (p.context self) := h.tabled.of_some hself
        have hone := hends e.1 e.2 rfl hclosed ((htabled.keys e.1.conn).mpr hkey)
        rw [endsAnnounced_of_closed hstep h hallowed hset hclosed hinstance hself hkey] at hone
        by_contra hold
        rw [if_neg hold] at hone
        cases hone
    | _ => trivial

/-- A connection that is set up before it ends. -/
theorem notificationsPair_iff_connected :
    (serverProcess Unit).EachStep AnnouncesEnd (serverProcess Unit).init
      [.construct (), .call () (.setClientConnectedCallback true),
        .call () (.setClientDisconnectedCallback true),
        .call () (.startManual 7000 { listenSocket := 1, pollGroup := 1 }),
        .event (⟨5, 1, .connecting, .none⟩, ⟨true, true, ⟨.replicate 16 0, 9⟩⟩),
        .event (⟨5, 1, .connected, .connecting⟩, ⟨true, true, ⟨.replicate 16 0, 9⟩⟩),
        .event (⟨5, 1, .closedByPeer, .connected⟩, ⟨true, true, ⟨.replicate 16 0, 9⟩⟩)] := by
  refine ((notificationsPair_iff _ ?_ ?_).mpr ?_).2
  · iterate 4 refine Machine.eachStep_cons_of_step rfl trivial ?_
    iterate 3
      refine Machine.eachStep_cons_of_step rfl (fun self hself => ?_) ?_
      · obtain rfl := Option.some.inj hself
        exact ⟨rfl, rfl⟩
    trivial
  · exact ⟨trivial, trivial, trivial, trivial, .inr ⟨rfl, rfl⟩, .inr ⟨rfl, rfl⟩, .inr ⟨rfl, rfl⟩,
      trivial⟩
  · iterate 4 refine Machine.eachStep_cons_of_step rfl trivial ?_
    refine Machine.eachStep_cons_of_step rfl nofun ?_
    refine Machine.eachStep_cons_of_step rfl nofun ?_
    exact Machine.eachStep_cons_of_step rfl (fun _ _ _ _ _ => rfl) trivial

/-- A connection that ends before it is set up: it is announced, and its end is not. -/
theorem not_notificationsPair_connecting :
    ¬ ∀ as, (serverProcess Unit).EachStep (fun p a _ => CallbacksSet p a)
        (serverProcess Unit).init as → transportOrder.Admits (fun _ => .none) as →
      (serverProcess Unit).Always AnnouncementsPair (serverProcess Unit).init as
        ∧ (serverProcess Unit).EachStep AnnouncesEnd (serverProcess Unit).init as := by
  intro h
  have hrun := h [.construct (), .call () (.setClientConnectedCallback true),
    .call () (.setClientDisconnectedCallback true),
    .call () (.startManual 7000 { listenSocket := 1, pollGroup := 1 }),
    .event (⟨5, 1, .connecting, .none⟩, ⟨true, true, ⟨.replicate 16 0, 9⟩⟩),
    .event (⟨5, 1, .problemDetectedLocally, .connecting⟩, ⟨true, true, ⟨.replicate 16 0, 9⟩⟩)]
    ?_ ?_
  · obtain ⟨-, hrun⟩ := hrun.2 _ rfl
    obtain ⟨-, hrun⟩ := hrun _ rfl
    obtain ⟨-, hrun⟩ := hrun _ rfl
    obtain ⟨-, hrun⟩ := hrun _ rfl
    obtain ⟨-, hrun⟩ := hrun _ rfl
    obtain ⟨hends, -⟩ := hrun _ rfl
    have hone := hends _ _ rfl rfl rfl
    cases hone
  · iterate 4 refine Machine.eachStep_cons_of_step rfl trivial ?_
    iterate 2
      refine Machine.eachStep_cons_of_step rfl (fun self hself => ?_) ?_
      · obtain rfl := Option.some.inj hself
        exact ⟨rfl, rfl⟩
    trivial
  · exact ⟨trivial, trivial, trivial, trivial, .inr ⟨rfl, rfl⟩, .inr ⟨rfl, rfl⟩, trivial⟩

end KbNetworking
