/-
# No live client of the only server is missing

`poll` drops a message whose sender is not in the client table, so an entry that is missing
would go unnoticed.  A connection is *live* when it was accepted and assigned to the poll
group and not closed since.  Every live connection has an entry: the accept path writes it
right after the assignment, and `disconnect` and `stop`, which remove entries, close what
they remove.  A refused connection gets no entry and no announcement.

The connection status events of a server reach it through `s_instance` only, and that
pointer points to a running server: this is why a server at rest has an empty table.
-/
import KbNetworking.Lib.Ledger
import KbNetworking.ServerPolling

namespace KbNetworking

open Cpp

/-! ## Live connections -/

/-- The call assigns the connection, which was accepted just before, to the poll group. -/
def ServerEffect.assigns : ServerEffect → Connection → Bool
  | .setConnectionPollGroup conn _ true, k => conn == k
  | _, _ => false

/-- The call closes the connection. -/
def ServerEffect.ends : ServerEffect → Connection → Bool
  | .closeConnection _ conn, k => conn == k
  | _, _ => false

/-- The connection was accepted and assigned to the poll group, and not closed since. -/
def LiveClient (trace : List ServerEffect) (conn : Connection) : Prop :=
  Ledger.live ServerEffect.assigns ServerEffect.ends trace conn = true

theorem not_liveClient_nil (conn : Connection) : ¬ LiveClient [] conn := by
  unfold LiveClient Ledger.live
  exact Bool.false_ne_true

/-- Entries that assign nothing bring no connection to life, and end those they close. -/
theorem LiveClient.of_append {trace xs : List ServerEffect} {conn : Connection}
    (hxs : ∀ x ∈ xs, x.assigns conn = false) (h : LiveClient (trace ++ xs) conn) :
    LiveClient trace conn ∧ ∀ x ∈ xs, x.ends conn = false := by
  unfold LiveClient at h ⊢
  rw [Ledger.live_append_of_not_acquired hxs, Bool.and_eq_true, Bool.not_eq_true',
    List.any_eq_false] at h
  exact ⟨h.1, fun x hx => by simpa using h.2 x hx⟩

namespace UdpServer

/-! ## What the member functions keep -/

/-- Every live connection is in the table, a server at rest has an empty table, and the
pointer points to a running server. -/
structure Registered (c : ServerContext Unit) : Prop where
  live : ∀ conn, LiveClient c.trace conn → conn ∈ c.self.clients.keys
  idle : c.self.isRunning = false → c.self.clients.keys = []
  pointer : c.sInstance = some () → c.self.isRunning = true
  group : c.self.GroupMatches

/-- A step that assigns no connection and keeps the table. -/
theorem Registered.of_append {c c' : ServerContext Unit} (h : Registered c)
    {xs : List ServerEffect} (htrace : c'.trace = c.trace ++ xs)
    (hxs : ∀ x ∈ xs, ∀ conn, x.assigns conn = false) (hclients : c'.self.clients = c.self.clients)
    (hidle : c'.self.isRunning = false → c.self.isRunning = false)
    (hpointer : c'.sInstance = some () → c'.self.isRunning = true)
    (hgroup : c'.self.GroupMatches) : Registered c' where
  live := by
    intro conn hlive
    rw [htrace] at hlive
    rw [hclients]
    exact h.live conn (hlive.of_append fun x hx => hxs x hx conn).1
  idle := by
    intro hrest
    rw [hclients]
    exact h.idle (hidle hrest)
  pointer := hpointer
  group := hgroup

theorem assigns_startCalls (port : UInt16) (reply : StartReply) :
    ∀ x ∈ startCalls port reply, ∀ conn, x.assigns conn = false := by
  unfold startCalls
  split <;> simp [ServerEffect.assigns]

theorem assigns_stopCalls (self : UdpServer) :
    ∀ x ∈ stopCalls self, ∀ conn, x.assigns conn = false := by
  unfold stopCalls shutCalls
  split_ifs <;> simp +contextual [ServerEffect.assigns, or_imp]

/-- `stop` closes every live connection. -/
theorem closeConnection_mem_stopCalls {c : ServerContext Unit} (h : Registered c)
    {conn : Connection} (hlive : LiveClient c.trace conn) :
    c.self.isRunning = true ∧ .closeConnection .stop conn ∈ stopCalls c.self := by
  have hkey := h.live conn hlive
  have hrunning : c.self.isRunning = true := by
    by_contra hrest
    rw [h.idle (by simpa using hrest)] at hkey
    cases hkey
  refine ⟨hrunning, ?_⟩
  rw [stopCalls, if_pos hrunning]
  exact List.mem_append_left _ (List.mem_map.mpr ⟨conn, hkey, rfl⟩)

/-- After `stop` no connection is live. -/
theorem not_liveClient_stop {c : ServerContext Unit} (h : Registered c) (conn : Connection) :
    ¬ LiveClient (stop c).trace conn := by
  rw [stop_eq]
  intro hlive
  obtain ⟨hbefore, hends⟩ := hlive.of_append fun x hx => assigns_stopCalls c.self x hx conn
  have hclosed := hends _ (closeConnection_mem_stopCalls h hbefore).2
  simp [ServerEffect.ends] at hclosed

theorem registered_stop {c : ServerContext Unit} (h : Registered c) : Registered (stop c) where
  live := fun conn hlive => absurd hlive (not_liveClient_stop h conn)
  idle := by
    intro _
    rw [stop_eq]
    unfold afterStop
    dsimp only
    split
    · exact ClientTable.keys_empty
    · rename_i hrunning
      exact h.idle (by simpa using hrunning)
  pointer := by
    rw [stop_eq]
    exact nofun
  group := by
    rw [stop_eq]
    exact groupMatches_afterStop h.group

/-- An attempt to start a server at rest; only a start that succeeds writes the pointer. -/
theorem registered_start {c : ServerContext Unit} (h : Registered c)
    (hrest : c.self.isRunning = false) (port : UInt16) (reply : StartReply) (thread : Thread) :
    Registered { sInstance := if startSucceeds reply then some () else c.sInstance
                 self := { afterStart port reply c.self with networkThread := thread }
                 trace := c.trace ++ startCalls port reply } := by
  refine h.of_append rfl (assigns_startCalls port reply) rfl (fun _ => hrest) ?_
    (@groupMatches_congr (afterStart port reply c.self) _ rfl rfl
      (groupMatches_afterStart h.group hrest port reply))
  dsimp only [afterStart]
  intro hpointer
  cases hsucceeds : startSucceeds reply with
  | true => rfl
  | false =>
      rw [hsucceeds] at hpointer
      rw [h.pointer hpointer] at hrest
      cases hrest

/-- `disconnect` closes the connection that it forgets. -/
theorem registered_disconnect {c : ServerContext Unit} (h : Registered c) (conn : Connection)
    (reason : Int) : Registered (disconnect conn reason c) where
  live := by
    intro k hlive
    have happend : LiveClient (c.trace ++ [.closeConnection (.disconnect reason) conn]) k := hlive
    obtain ⟨hbefore, hends⟩ := happend.of_append (by simp [ServerEffect.assigns])
    have hne : conn ≠ k := by simpa [ServerEffect.ends] using hends _ List.mem_cons_self
    exact ClientTable.mem_keys_erase.mpr ⟨hne, h.live k hbefore⟩
  idle := by
    intro hrest
    refine List.eq_nil_iff_forall_not_mem.mpr fun k hk => ?_
    have hkey : k ∈ c.self.clients.keys := (ClientTable.mem_keys_erase.mp hk).2
    rw [h.idle hrest] at hkey
    cases hkey
  pointer := h.pointer
  group := h.group

/-- A status event that admits no connection assigns and announces none. -/
theorem eventCalls_of_refused {event : StatusEvent} {reply : AcceptReply}
    (hrefused : admits event reply = false) (self : UdpServer) :
    ∀ x ∈ eventCalls event reply self,
      (∀ conn, x.assigns conn = false) ∧ ∀ client, .clientConnected client ≠ x := by
  intro x hx
  rcases mem_eventCalls hx with ⟨client, -, rfl⟩ | ⟨-, rfl⟩ | ⟨accepted, rfl⟩
      | ⟨assigned, rfl, hadmits⟩ | rfl | rfl | ⟨client, hadmits, -⟩
  · exact ⟨fun _ => rfl, nofun⟩
  · exact ⟨fun _ => rfl, nofun⟩
  · exact ⟨fun _ => rfl, nofun⟩
  · cases assigned with
    | false => exact ⟨fun _ => rfl, nofun⟩
    | true => cases hrefused.symm.trans (hadmits rfl)
  · exact ⟨fun _ => rfl, nofun⟩
  · exact ⟨fun _ => rfl, nofun⟩
  · cases hrefused.symm.trans hadmits

/-- A connection that is live after an admission was live before, or is the admitted one. -/
theorem liveClient_of_admits {trace : List ServerEffect} {event : StatusEvent}
    {reply : AcceptReply} {self : UdpServer} (hadmits : admits event reply = true)
    {conn : Connection} (h : LiveClient (trace ++ eventCalls event reply self) conn) :
    event.conn = conn ∨ LiveClient trace conn := by
  by_cases hconn : event.conn = conn
  · exact .inl hconn
  · right
    refine (h.of_append ?_).1
    rw [eventCalls_of_admits hadmits]
    unfold admittedCalls
    split <;> simp [ServerEffect.assigns, hconn]

/-- A status event handled by a running server. -/
theorem registered_onConnectionStatusChanged {c : ServerContext Unit} (h : Registered c)
    (hrunning : c.self.isRunning = true) (event : StatusEvent) (reply : AcceptReply) :
    Registered (onConnectionStatusChanged event reply c) := by
  have hgroup := groupMatches_onConnectionStatusChanged h.group event reply
  rw [onConnectionStatusChanged_eq] at hgroup ⊢
  cases hadmits : admits event reply with
  | false =>
      refine h.of_append rfl (fun x hx => (eventCalls_of_refused hadmits c.self x hx).1)
        ?_ ?_ ?_ hgroup <;>
        rw [afterEvent, hadmits]
      · rfl
      · exact id
      · exact h.pointer
  | true =>
      refine ⟨?_, ?_, ?_, hgroup⟩ <;> rw [afterEvent, hadmits, if_pos rfl]
      · intro conn hlive
        refine ClientTable.mem_keys_set.mpr ?_
        exact (liveClient_of_admits hadmits hlive).imp id (h.live conn)
      · intro hrest
        rw [hrunning] at hrest
        cases hrest
      · exact fun _ => hrunning

/-! ## Polling -/

/-- What the data callback gets for a message. -/
def handedOver (self : UdpServer) (message : Message) : Option ServerEffect :=
  (self.getClientInfo message.conn).map fun client => .dataReceived client message.data

/-- A poll of a running server hands every message whose sender is in the table to the data
callback, once and in order, with the entry of its sender. -/
theorem pollBatch_eq {c : ServerContext Unit} (h : Registered c)
    (hrunning : c.self.isRunning = true) (hset : c.self.dataReceivedCallback = true)
    (batch : Batch) :
    pollBatch batch c
      = .ok { c with trace := c.trace ++ batch.messages.filterMap (handedOver c.self) } := by
  have hdispatch : ∀ message, dispatchMessage c.self.clients c.self.userDataCallback message
      = .ok (handedOver c.self message).toList := by
    intro message
    unfold dispatchMessage userDataCallback handedOver getClientInfo
    rw [if_pos hset]
    cases c.self.clients.find message.conn <;> rfl
  have hgroup : c.self.pollGroup ≠ kInvalidPollGroup := h.group.mp hrunning
  rw [pollBatch, receiveMessagesOnPollGroup, if_neg hgroup, poll_batch c.self hdispatch,
    List.filterMap_eq_flatMap_toList]
  rfl

end UdpServer

/-! ## Runs of the only server -/

/-- No live client is missing: every live connection is a key of the table of a running
server, under an entry that names it; a server at rest has no clients; and a poll with a data
callback hands over every message of a sender with an entry. -/
structure NoLiveClientMissing (p : ServerProcess Unit) : Prop where
  registered : ∀ conn, LiveClient p.trace conn → ∃ self client, p.objects () = some self
    ∧ self.isRunning = true ∧ self.getClientInfo conn = some client ∧ client.conn = conn
  entry : ∀ self conn client, p.objects () = some self →
    self.getClientInfo conn = some client → client.conn = conn
  idle : ∀ self, p.objects () = some self → self.isRunning = false → self.clients.keys = []
  poll : ∀ self, p.objects () = some self → self.isRunning = true →
    self.dataReceivedCallback = true → ∀ batch,
      UdpServer.pollBatch batch (p.context self)
        = .ok { p.context self with
            trace := p.trace ++ batch.messages.filterMap self.handedOver }

/-- A connection that is not accepted or not assigned gets no entry and no announcement. -/
def RefusalIsSilent (p : ServerProcess Unit) (a : ServerAction Unit) (p' : ServerProcess Unit) :
    Prop :=
  ∀ event reply, a = .event (event, reply) → UdpServer.admits event reply = false →
    (∀ self', p'.objects () = some self' → ∃ self, p.objects () = some self
      ∧ self'.clients = self.clients)
    ∧ ∃ xs, p'.trace = p.trace ++ xs ∧ ∀ client, .clientConnected client ∉ xs

/-- `stop` and the destructor close every live connection. -/
def StopClosesLive (p : ServerProcess Unit) (a : ServerAction Unit) (p' : ServerProcess Unit) :
    Prop :=
  a = .call () .stop ∨ a = .destroy () → ∀ conn, LiveClient p.trace conn →
    ∃ xs, p'.trace = p.trace ++ xs ∧ .closeConnection .stop conn ∈ xs

/-- `Registered` of the only server; without a server no connection is live. -/
def ClientsRegistered (p : ServerProcess Unit) : Prop :=
  p.Sole UdpServer.Registered fun sInstance trace =>
    sInstance = none ∧ ∀ conn, ¬ LiveClient trace conn

variable {p p' : ServerProcess Unit} {a : ServerAction Unit}

/-- A live connection is in the table of a server that exists. -/
theorem ClientsRegistered.exists_server (h : ClientsRegistered p) {conn : Connection}
    (hlive : LiveClient p.trace conn) :
    ∃ self, p.objects () = some self ∧ UdpServer.Registered (p.context self) := by
  cases hself : p.objects () with
  | none => exact absurd hlive ((h.of_none hself).2 conn)
  | some self => exact ⟨self, rfl, h.of_some hself⟩

theorem ClientsRegistered.clientsListed (h : ClientsRegistered p) :
    NoLiveClientMissing p where
  registered := by
    intro conn hlive
    obtain ⟨self, hself, hregistered⟩ := h.exists_server hlive
    obtain ⟨client, hclient⟩ :=
      Option.isSome_iff_exists.mp (ClientTable.mem_keys.mp (hregistered.live conn hlive))
    refine ⟨self, client, hself, ?_, hclient, ClientTable.conn_of_find hclient⟩
    exact (UdpServer.closeConnection_mem_stopCalls hregistered hlive).1
  entry := fun _ _ _ _ hclient => ClientTable.conn_of_find hclient
  idle := fun _ hself => UdpServer.Registered.idle (h.of_some hself)
  poll := fun _ hself hrunning hset batch =>
    UdpServer.pollBatch_eq (h.of_some hself) hrunning hset batch

theorem clientsRegistered_step (hstep : (serverClass Unit).step p a = some p')
    (h : ClientsRegistered p) : ClientsRegistered p' := by
  refine ObjectClass.sole_step hstep h ?_ ?_ ?_ ?_
  · rintro ⟨hpointer, hnone⟩
    refine ⟨fun conn hlive => absurd hlive (hnone conn), fun _ => ClientTable.keys_empty, ?_, ?_⟩
    · intro hself
      rw [show (p.context _).sInstance = none from hpointer] at hself
      cases hself
    · simp [UdpServer.GroupMatches, serverClass]
  · intro self c _ _ hregistered hc
    rw [UdpServer.destroy_eq_ok hc]
    refine ⟨?_, UdpServer.not_liveClient_stop hregistered⟩
    rw [UdpServer.stop_eq]
  · intro operation self c _ _ hregistered hc
    rcases ServerOperation.run_cases hc with ⟨port, reply, thread, -, hrest, rfl⟩
        | ⟨-, rfl⟩ | ⟨conn, reason, -, rfl⟩ | ⟨hsame, -⟩
    · exact UdpServer.registered_start hregistered hrest port reply thread
    · exact UdpServer.registered_stop hregistered
    · exact UdpServer.registered_disconnect hregistered conn reason
    · obtain ⟨xs, htrace, hxs⟩ := hsame.trace
      refine hregistered.of_append htrace ?_ hsame.clients (fun hrest => ?_) (fun hpointer => ?_)
        (UdpServer.groupMatches_congr hsame.isRunning hsame.pollGroup hregistered.group)
      · intro x hx conn
        have htraffic := hxs x hx
        cases x <;> first | rfl | cases htraffic
      · rwa [hsame.isRunning] at hrest
      · rw [hsame.sInstance] at hpointer
        rw [hsame.isRunning]
        exact hregistered.pointer hpointer
  -- the pointer leads events to a running server
  · intro e self _ hinstance _ hregistered
    exact UdpServer.registered_onConnectionStatusChanged hregistered
      (hregistered.pointer hinstance) e.1 e.2

theorem refusalIsSilent_step (hstep : (serverClass Unit).step p a = some p') :
    RefusalIsSilent p a p' := by
  rintro event reply rfl hrefused
  rw [ObjectClass.step_event hstep]
  rcases Process.throughInstance_cases p ((serverClass Unit).handle (event, reply)) with
      heq | ⟨⟨⟩, self, -, hself, heq⟩ | heq
  · rw [heq]
    exact ⟨fun self hself => ⟨self, hself, rfl⟩, [], by simp, by simp⟩
  · rw [heq]
    show (∀ self', (p.put () (UdpServer.onConnectionStatusChanged event reply _)).objects ()
      = some self' → _) ∧ ∃ xs, (UdpServer.onConnectionStatusChanged event reply _).trace = _ ∧ _
    rw [UdpServer.onConnectionStatusChanged_eq]
    refine ⟨?_, _, rfl, ?_⟩
    · intro self' hself'
      rw [Process.put_objects_self, Option.some.injEq, UdpServer.afterEvent, hrefused] at hself'
      exact ⟨self, hself, by rw [← hself']; rfl⟩
    · intro client hmem
      exact (UdpServer.eventCalls_of_refused hrefused self _ hmem).2 client rfl
  · rw [heq]
    exact ⟨fun self hself => ⟨self, hself, rfl⟩, [], by simp [Process.fail], by simp⟩

theorem stopClosesLive_step (hstep : (serverClass Unit).step p a = some p')
    (h : ClientsRegistered p) : StopClosesLive p a p' := by
  intro ha conn hlive
  obtain ⟨self, hself, hregistered⟩ := h.exists_server hlive
  obtain ⟨hrunning, hmem⟩ := UdpServer.closeConnection_mem_stopCalls hregistered hlive
  exact ⟨UdpServer.stopCalls self, trace_of_stop hstep ha hself hrunning, hmem⟩

/-- **No live client is missing**: in every state of every run of the only server, every live
connection has an entry that names it and its messages are handed over; refusals leave no
trace in the table, and a stop closes every live connection. -/
theorem noLiveClientMissing (as : List (ServerAction Unit)) :
    (serverProcess Unit).Always NoLiveClientMissing (serverProcess Unit).init as
      ∧ (serverProcess Unit).EachStep
          (fun p a p' => RefusalIsSilent p a p' ∧ StopClosesLive p a p')
          (serverProcess Unit).init as := by
  have hinit : ClientsRegistered (serverProcess Unit).init := ⟨rfl, not_liveClient_nil⟩
  constructor
  · exact (Machine.always_of_step (M := serverProcess Unit)
      (fun p a p' hstep h => clientsRegistered_step hstep h) hinit as).mono
        fun p h => h.clientsListed
  · exact Machine.eachStep_of_step (M := serverProcess Unit)
      (fun p a p' hstep h => ⟨clientsRegistered_step hstep h,
        refusalIsSilent_step hstep, stopClosesLive_step hstep h⟩) hinit as

end KbNetworking
