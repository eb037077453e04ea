/-
# What a step of a server can do

Every member function of `UdpServer` as one equation: the object afterwards and the entries
it adds to the trace.  `ServerOperation.run_cases` puts them together: a member call that
returns starts the server, stops it, forgets a client, or only moves data and sets
callbacks.  The invariants of the server are proved from these, not from the bodies.
-/
import KbNetworking.ServerProcess

namespace KbNetworking

open Cpp

namespace UdpServer

variable {ι : Type}

/-! ## Starting -/

/-- The transport creates both the listen socket and the poll group. -/
def startSucceeds (reply : StartReply) : Bool :=
  reply.listenSocket != kInvalidListenSocket && reply.pollGroup != kInvalidPollGroup

/-- The calls of a start: no poll group is asked for without a listen socket. -/
def startCalls (port : UInt16) (reply : StartReply) : List ServerEffect :=
  .createListenSocketIP port reply.listenSocket ::
    if reply.listenSocket = kInvalidListenSocket then [] else [.createPollGroup reply.pollGroup]

/-- A server at rest after a start: the two handles are kept whether or not it succeeds. -/
def afterStart (port : UInt16) (reply : StartReply) (self : UdpServer) : UdpServer :=
  { self with
    isRunning := startSucceeds reply
    port := if startSucceeds reply then port else self.port
    listenSocket := reply.listenSocket
    pollGroup :=
      if reply.listenSocket = kInvalidListenSocket then self.pollGroup else reply.pollGroup }

/-- `start_manual`: nothing while the server runs, else an attempt. -/
theorem startManual_eq (me : ι) (port : UInt16) (reply : StartReply) (c : ServerContext ι) :
    startManual me port reply c
      = if c.self.isRunning then (c, false)
        else ({ sInstance := if startSucceeds reply then some me else c.sInstance
                self := afterStart port reply c.self
                trace := c.trace ++ startCalls port reply }, startSucceeds reply) := by
  unfold startManual
  split
  · rfl
  · unfold startSucceeds startCalls afterStart onFatalMessage startSucceeds
    by_cases hlisten : reply.listenSocket = kInvalidListenSocket
    · simp [hlisten, Context.record]
    · by_cases hgroup : reply.pollGroup = kInvalidPollGroup
      · simp [hlisten, hgroup, Context.record]
      · simp [hlisten, hgroup, Context.record]

/-- `start_async`: a start that succeeds ends with a thread, unless the server has one. -/
theorem startAsync_eq (me : ι) (port : UInt16) (reply : StartReply) (c : ServerContext ι) :
    startAsync me port reply c
      = if c.self.isRunning then .ok (c, false)
        else if startSucceeds reply then
          c.self.networkThread.assign.map fun thread =>
            ({ sInstance := some me
               self := { afterStart port reply c.self with networkThread := thread }
               trace := c.trace ++ startCalls port reply }, true)
        else .ok ({ sInstance := c.sInstance
                    self := afterStart port reply c.self
                    trace := c.trace ++ startCalls port reply }, false) := by
  unfold startAsync
  rw [startManual_eq]
  cases hrunning : c.self.isRunning with
  | true => rfl
  | false =>
      cases hsucceeds : startSucceeds reply with
      | false => rfl
      | true =>
          have hthread : (afterStart port reply c.self).networkThread = c.self.networkThread := rfl
          simp only [Bool.false_eq_true, if_false, if_true, hthread]
          cases c.self.networkThread.assign <;> rfl

/-! ## Stopping -/

/-- The calls that close what a server has opened for itself. -/
def shutCalls (self : UdpServer) : List ServerEffect :=
  (if self.listenSocket = kInvalidListenSocket then []
    else [.closeListenSocket self.listenSocket])
  ++ if self.pollGroup = kInvalidPollGroup then [] else [.destroyPollGroup self.pollGroup]

/-- The calls of `stop`: a server at rest makes none. -/
def stopCalls (self : UdpServer) : List ServerEffect :=
  if self.isRunning then self.clients.keys.map (.closeConnection .stop) ++ shutCalls self
  else []

/-- The server after `stop`: only a running one is changed. -/
def afterStop (self : UdpServer) : UdpServer :=
  if self.isRunning then
    { self with
      isRunning := false
      networkThread := self.networkThread.joinIfJoinable
      clients := .empty
      listenSocket := kInvalidListenSocket
      pollGroup := kInvalidPollGroup }
  else self

/-- `stop`: the pointer is cleared whether or not the server runs. -/
theorem stop_eq (c : ServerContext ι) :
    stop c = { sInstance := none
               self := afterStop c.self
               trace := c.trace ++ stopCalls c.self } := by
  unfold stop afterStop stopCalls
  cases hrunning : c.self.isRunning with
  | false => simp [hrunning]
  | true =>
      unfold destroyPollGroup closeListenSocket closeClients shutCalls
      by_cases hlisten : c.self.listenSocket = kInvalidListenSocket <;>
        by_cases hgroup : c.self.pollGroup = kInvalidPollGroup <;>
          simp [hrunning, hlisten, hgroup, Context.record]

@[simp] theorem isRunning_afterStop (self : UdpServer) : (afterStop self).isRunning = false := by
  unfold afterStop
  split
  · rfl
  · simp_all

/-- A destructor that returns has stopped the server. -/
theorem destroy_eq_ok {c c' : ServerContext ι} (h : destroy c = .ok c') : c' = stop c := by
  obtain ⟨-, -, h⟩ := bind_eq_ok.mp h
  exact (Except.ok.inj h).symm

/-- The destructor returns when `stop` leaves no thread behind. -/
theorem destroy_of_not_joinable {c : ServerContext ι}
    (h : (stop c).self.networkThread.joinable = false) : destroy c = .ok (stop c) := by
  unfold destroy
  dsimp only
  rw [Thread.destroy_of_not_joinable h]
  rfl

/-- The destructor of a running server joins its thread, so it returns. -/
theorem destroy_of_running {c : ServerContext ι} (h : c.self.isRunning = true) :
    destroy c = .ok (stop c) := by
  refine destroy_of_not_joinable ?_
  rw [stop_eq, afterStop, if_pos h]
  exact Thread.joinable_joinIfJoinable _

/-! ## Status events -/

/-- The connection is accepted and assigned to the poll group. -/
def admits (event : StatusEvent) (reply : AcceptReply) : Bool :=
  event.state == .connecting && reply.accepted && reply.assigned

/-- The server after a status event: only an admitted connection changes it. -/
def afterEvent (event : StatusEvent) (reply : AcceptReply) (self : UdpServer) : UdpServer :=
  if admits event reply then
    { self with clients := self.clients.set event.conn (copySteamToIpAddress reply.addrRemote) }
  else self

/-- The announcement of the end of a connection. -/
def lostCalls (event : StatusEvent) (self : UdpServer) : List ServerEffect :=
  match self.getClientInfo event.conn with
  | none => []
  | some client =>
      if event.oldState = .connected ∧ self.clientDisconnectedCallback = true then
        [.clientDisconnected client]
      else []

/-- The announcement of an admitted connection. -/
def admittedCalls (event : StatusEvent) (reply : AcceptReply) (self : UdpServer) :
    List ServerEffect :=
  if self.clientConnectedCallback then
    [.clientConnected
      { conn := event.conn, addr := copySteamToIpAddress reply.addrRemote }]
  else []

/-- What happens to a connection that asks to be accepted. -/
def acceptCalls (event : StatusEvent) (reply : AcceptReply) (self : UdpServer) :
    List ServerEffect :=
  .acceptConnection event.conn reply.accepted ::
    if reply.accepted then
      .setConnectionPollGroup event.conn self.pollGroup reply.assigned ::
        if reply.assigned then admittedCalls event reply self
        else [.closeConnection .pollGroupFailed event.conn]
    else [.closeConnection .acceptFailed event.conn]

/-- The calls of a status event. -/
def eventCalls (event : StatusEvent) (reply : AcceptReply) (self : UdpServer) :
    List ServerEffect :=
  match event.state with
  | .closedByPeer | .problemDetectedLocally =>
      lostCalls event self ++ [.closeConnection .closedOrProblem event.conn]
  | .connecting => acceptCalls event reply self
  | _ => []

theorem announceDisconnected_eq (event : StatusEvent) (c : ServerContext ι) :
    announceDisconnected event c = { c with trace := c.trace ++ lostCalls event c.self } := by
  unfold announceDisconnected lostCalls
  by_cases hold : event.oldState = .connected
  · cases hfind : c.self.getClientInfo event.conn with
    | none => simp [hold]
    | some client =>
        cases hset : c.self.clientDisconnectedCallback <;> simp [hold, Context.record]
  · cases hfind : c.self.getClientInfo event.conn <;> simp [hold]

/-- `on_connection_status_changed`. -/
theorem onConnectionStatusChanged_eq (event : StatusEvent) (reply : AcceptReply)
    (c : ServerContext ι) :
    onConnectionStatusChanged event reply c
      = { c with self := afterEvent event reply c.self
                 trace := c.trace ++ eventCalls event reply c.self } := by
  unfold onConnectionStatusChanged afterEvent eventCalls admits
  cases hstate : event.state with
  | connecting =>
      unfold acceptCalls admittedCalls
      cases haccepted : reply.accepted with
      | false => simp [Context.record]
      | true =>
          cases hassigned : reply.assigned with
          | false => simp [Context.record]
          | true =>
              cases hset : c.self.clientConnectedCallback <;> simp [hset, Context.record]
  | closedByPeer => simp [announceDisconnected_eq, Context.record]
  | problemDetectedLocally => simp [announceDisconnected_eq, Context.record]
  | _ => simp

/-- What an admitted connection adds to the trace. -/
theorem eventCalls_of_admits {event : StatusEvent} {reply : AcceptReply}
    (hadmits : admits event reply = true) (self : UdpServer) :
    eventCalls event reply self
      = [.acceptConnection event.conn true,
          .setConnectionPollGroup event.conn self.pollGroup true]
        ++ admittedCalls event reply self := by
  simp only [admits, Bool.and_eq_true, beq_iff_eq] at hadmits
  obtain ⟨⟨hstate, haccepted⟩, hassigned⟩ := hadmits
  unfold eventCalls acceptCalls
  rw [hstate, haccepted, hassigned]
  rfl

/-- What the calls of a status event can be. -/
theorem mem_eventCalls {event : StatusEvent} {reply : AcceptReply} {self : UdpServer}
    {x : ServerEffect} (h : x ∈ eventCalls event reply self) :
    (∃ client, event.state.isClosed = true ∧ x = .clientDisconnected client)
    ∨ (event.state.isClosed = true ∧ x = .closeConnection .closedOrProblem event.conn)
    ∨ (∃ accepted, x = .acceptConnection event.conn accepted)
    ∨ (∃ assigned, x = .setConnectionPollGroup event.conn self.pollGroup assigned
      ∧ (assigned = true → admits event reply = true))
    ∨ x = .closeConnection .pollGroupFailed event.conn
    ∨ x = .closeConnection .acceptFailed event.conn
    ∨ ∃ client, admits event reply = true ∧ x = .clientConnected client := by
  have hclosed : x ∈ lostCalls event self ++ [.closeConnection .closedOrProblem event.conn] →
      (∃ client, x = .clientDisconnected client)
        ∨ x = .closeConnection .closedOrProblem event.conn := by
    intro hx
    rcases List.mem_append.mp hx with hx | hx
    · unfold lostCalls at hx
      split at hx
      · cases hx
      · split at hx
        · exact .inl ⟨_, List.mem_singleton.mp hx⟩
        · cases hx
    · exact .inr (List.mem_singleton.mp hx)
  unfold eventCalls at h
  cases hstate : event.state with
  | connecting =>
      rw [hstate] at h
      rcases List.mem_cons.mp h with rfl | h
      · exact .inr (.inr (.inl ⟨_, rfl⟩))
      · split at h
        · rename_i haccepted
          rcases List.mem_cons.mp h with rfl | h
          · refine .inr (.inr (.inr (.inl ⟨_, rfl, fun hassigned => ?_⟩)))
            simp [admits, hstate, haccepted, hassigned]
          · split at h
            · rename_i hassigned
              unfold admittedCalls at h
              split at h
              · refine .inr (.inr (.inr (.inr (.inr (.inr ⟨_, ?_, List.mem_singleton.mp h⟩)))))
                simp [admits, hstate, haccepted, hassigned]
              · cases h
            · exact .inr (.inr (.inr (.inr (.inl (List.mem_singleton.mp h)))))
        · exact .inr (.inr (.inr (.inr (.inr (.inl (List.mem_singleton.mp h))))))
  | closedByPeer =>
      rw [hstate] at h
      exact (hclosed h).imp (fun ⟨client, hx⟩ => ⟨client, rfl, hx⟩) fun hx => .inl ⟨rfl, hx⟩
  | problemDetectedLocally =>
      rw [hstate] at h
      exact (hclosed h).imp (fun ⟨client, hx⟩ => ⟨client, rfl, hx⟩) fun hx => .inl ⟨rfl, hx⟩
  | _ =>
      rw [hstate] at h
      cases h

end UdpServer

/-! ## Member calls -/

/-- The call moves data: a send, or a message handed to the user. -/
def ServerEffect.isTraffic : ServerEffect → Bool
  | .sendMessageToConnection .. => true
  | .dataReceived .. => true
  | _ => false

namespace UdpServer

variable {ι : Type}

/-- From `c` to `c'` only data was moved and callbacks were set. -/
structure SameBut (c c' : ServerContext ι) : Prop where
  sInstance : c'.sInstance = c.sInstance
  isRunning : c'.self.isRunning = c.self.isRunning
  clients : c'.self.clients = c.self.clients
  listenSocket : c'.self.listenSocket = c.self.listenSocket
  pollGroup : c'.self.pollGroup = c.self.pollGroup
  trace : ∃ xs, c'.trace = c.trace ++ xs ∧ ∀ x ∈ xs, x.isTraffic = true

theorem SameBut.refl (c : ServerContext ι) : SameBut c c :=
  ⟨rfl, rfl, rfl, rfl, rfl, [], by simp⟩

/-- A poll hands out messages. -/
theorem sameBut_pollBatch {batch : Batch} {c c' : ServerContext ι}
    (h : pollBatch batch c = .ok c') : SameBut c c' := by
  obtain ⟨xs, rfl, hxs⟩ := pollBatch_cases h
  refine ⟨rfl, rfl, rfl, rfl, rfl, xs, rfl, ?_⟩
  intro x hx
  obtain ⟨client, data, rfl⟩ := hxs x hx
  rfl

theorem sameBut_broadcast (data : List UInt8) (size : UInt32) (reliable : Bool)
    (sent : Connection → Bool) (c : ServerContext ι) :
    SameBut c (broadcast data size reliable sent c).1 := by
  unfold broadcast
  split
  · exact .refl c
  · rw [broadcastLoop_eq]
    refine ⟨rfl, rfl, rfl, rfl, rfl, _, rfl, ?_⟩
    intro x hx
    obtain ⟨conn, -, rfl⟩ := List.mem_map.mp hx
    rfl

end UdpServer

/-- The answers of the transport to an operation that starts the server. -/
def ServerOperation.startReply : ServerOperation → Option StartReply
  | .startManual _ reply => some reply
  | .startAsync _ reply => some reply
  | _ => none

/-- A start that fails does not touch the thread, so it returns. -/
theorem ServerOperation.run_of_start_fails {ι : Type} (me : ι) {operation : ServerOperation}
    {reply : StartReply} (c : ServerContext ι) (hreply : operation.startReply = some reply)
    (hfails : UdpServer.startSucceeds reply = false) :
    ∃ c', operation.run me c = .ok c' := by
  cases operation with
  | startManual port reply' => exact ⟨_, rfl⟩
  | startAsync port reply' =>
      obtain rfl := Option.some.inj hreply
      have hmanual : ∃ d, UdpServer.startManual me port reply' c = (d, false) := by
        rw [UdpServer.startManual_eq, hfails]
        split <;> exact ⟨_, rfl⟩
      obtain ⟨d, hd⟩ := hmanual
      refine ⟨d, ?_⟩
      rw [run, UdpServer.startAsync, hd]
      rfl
  | _ => cases hreply

/-- **What a member call can do.**  It attempts to start a server at rest, stops it, closes
and forgets a client, or leaves all but the traffic and the callbacks as it was. -/
theorem ServerOperation.run_cases {ι : Type} {me : ι} {operation : ServerOperation}
    {c c' : ServerContext ι} (h : operation.run me c = .ok c') :
    (∃ port reply thread, operation.startReply = some reply ∧ c.self.isRunning = false
      ∧ c' = { sInstance := if UdpServer.startSucceeds reply then some me else c.sInstance
               self := { UdpServer.afterStart port reply c.self with networkThread := thread }
               trace := c.trace ++ UdpServer.startCalls port reply })
    ∨ (operation = .stop ∧ c' = UdpServer.stop c)
    ∨ (∃ conn reason, operation = .disconnect conn reason
      ∧ c' = UdpServer.disconnect conn reason c)
    ∨ (UdpServer.SameBut c c'
      ∧ ∀ reply, operation.startReply = some reply → c.self.isRunning = true) := by
  cases operation with
  | startManual port reply =>
      obtain rfl := Except.ok.inj h
      rw [UdpServer.startManual_eq]
      split
      · rename_i hrunning
        exact .inr (.inr (.inr ⟨.refl c, fun _ _ => hrunning⟩))
      · rename_i hrunning
        exact .inl ⟨port, reply, c.self.networkThread, rfl, by simpa using hrunning, rfl⟩
  | startAsync port reply =>
      obtain ⟨started, hstart⟩ := run_startAsync h
      obtain ⟨d, hd, hc'⟩ := UdpServer.startAsync_cases hstart
      rw [UdpServer.startManual_eq] at hd
      split at hd
      · rename_i hrunning
        obtain ⟨rfl, rfl⟩ := Prod.mk.inj hd
        rcases hc' with ⟨-, rfl⟩ | ⟨hstarted, -⟩
        · exact .inr (.inr (.inr ⟨.refl _, fun _ _ => hrunning⟩))
        · cases hstarted
      · rename_i hrunning
        obtain ⟨rfl, -⟩ := Prod.mk.inj hd
        have hidle : c.self.isRunning = false := by simpa using hrunning
        rcases hc' with ⟨-, rfl⟩ | ⟨-, -, rfl⟩
        · exact .inl ⟨port, reply, c.self.networkThread, rfl, hidle, rfl⟩
        · exact .inl ⟨port, reply, { joinable := true }, rfl, hidle, rfl⟩
  | stop =>
      obtain rfl := Except.ok.inj h
      exact .inr (.inl ⟨rfl, rfl⟩)
  | disconnect conn reason =>
      obtain rfl := Except.ok.inj h
      exact .inr (.inr (.inl ⟨conn, reason, rfl, rfl⟩))
  | poll batch => exact .inr (.inr (.inr ⟨UdpServer.sameBut_pollBatch h, nofun⟩))
  | send conn data size reliable sent =>
      obtain rfl := Except.ok.inj h
      refine .inr (.inr (.inr ⟨⟨rfl, rfl, rfl, rfl, rfl, _, rfl, ?_⟩, nofun⟩))
      intro x hx
      rw [List.mem_singleton.mp hx]
      rfl
  | broadcast data size reliable sent =>
      obtain rfl := Except.ok.inj h
      exact .inr (.inr (.inr ⟨UdpServer.sameBut_broadcast data size reliable sent c, nofun⟩))
  | setDataReceivedCallback isSet =>
      obtain rfl := Except.ok.inj h
      exact .inr (.inr (.inr ⟨⟨rfl, rfl, rfl, rfl, rfl, [], by simp, by simp⟩, nofun⟩))
  | setClientConnectedCallback isSet =>
      obtain rfl := Except.ok.inj h
      exact .inr (.inr (.inr ⟨⟨rfl, rfl, rfl, rfl, rfl, [], by simp, by simp⟩, nofun⟩))
  | setClientDisconnectedCallback isSet =>
      obtain rfl := Except.ok.inj h
      exact .inr (.inr (.inr ⟨⟨rfl, rfl, rfl, rfl, rfl, [], by simp, by simp⟩, nofun⟩))

/-- A `stop` or a destructor of a running server makes the calls of `stop`. -/
theorem trace_of_stop {ι : Type} [DecidableEq ι] {p p' : ServerProcess ι} {a : ServerAction ι}
    {i : ι} {self : UdpServer} (hstep : (serverClass ι).step p a = some p')
    (ha : a = .call i .stop ∨ a = .destroy i) (hself : p.objects i = some self)
    (hrunning : self.isRunning = true) : p'.trace = p.trace ++ UdpServer.stopCalls self := by
  have htrace : p'.trace = (UdpServer.stop (p.context self)).trace := by
    rcases ha with rfl | rfl
    · obtain ⟨self', hself', ⟨c, hc, rfl⟩ | ⟨e, he, -⟩⟩ := ObjectClass.step_call hstep
      · obtain rfl := Option.some.inj (hself.symm.trans hself')
        rw [← Except.ok.inj hc]
        rfl
      · cases he
    · have hdestroy : (serverClass ι).destroy i (p.context self)
          = .ok (UdpServer.stop (p.context self)) := UdpServer.destroy_of_running hrunning
      have hdone := ObjectClass.step_destroy_of_ok (ObjectClass.step_cases hstep).1 hself hdestroy
      rw [Option.some.inj (hstep.symm.trans hdone)]
      rfl
  rw [htrace, UdpServer.stop_eq]
  rfl

end KbNetworking
