/-
# The calls of a server as its threads make them

The members of `UdpServer` for several threads: the network thread of the server, and any
number of threads of the application, which may call any member at any time.  A member is the
code of `udp_server.cpp` in the order of its source, cut where another thread may come in
between: at the lock of `m_client_mutex` and at its end, at the exchange of `m_is_running`, at
the join of the thread, at every message and every event of a poll, and before and after every
user callback.  A callback may call members itself.

`poll` and `on_connection_status_changed` keep the pointer that `get_client_info` returned,
or the reference that `m_clients[conn]` returned, in a local variable after the mutex is
free; `EntryRef` is such a pointer, with the number of entries of its connection that had been
erased before.

`serverCalls_atomic`: what is one step in the atomic model of a server (`ServerProcess.lean`)
is a run of one thread here, with the same effect.
-/
import KbNetworking.Lib.Threads
import KbNetworking.ServerProcess
import KbNetworking.ServerSteps

namespace KbNetworking

open Cpp

/-- The threads of the program. -/
inductive ThreadId (κ : Type) : Type where
  | network
  | application (k : κ)
  deriving DecidableEq, Fintype

/-- The user callback that an entry is handed to. -/
inductive Callback : Type where
  | dataReceived (data : List UInt8)
  | clientConnected
  | clientDisconnected

/-- A call of a member function. -/
inductive ServerCall : Type where
  | startManual (port : UInt16) (reply : StartReply)
  | startAsync (port : UInt16) (reply : StartReply)
  | stop
  | poll
  | send (conn : Connection) (data : List UInt8) (size : UInt32) (reliable sent : Bool)
  | broadcast (data : List UInt8) (size : UInt32) (reliable : Bool) (sent : Connection → Bool)
  | disconnect (conn : Connection) (reason : Int)
  | getClientInfo (conn : Connection)

/-- What a thread does at a time. -/
inductive ServerInstruction : Type where
  -- `std::scoped_lock lock{ m_client_mutex }` and the end of its scope
  | lockClients
  | unlockClients
  | findClient (conn : Connection)
  | startManual (port : UInt16) (reply : StartReply) (async : Bool)
  | startThread
  | exchangeRunning
  | joinThread
  | joinOwnThread
  | closeAll
  | send (conn : Connection) (data : List UInt8) (size : UInt32) (reliable sent : Bool)
  | broadcastAll (data : List UInt8) (size : UInt32) (reliable : Bool) (sent : Connection → Bool)
  | closeConnection (conn : Connection) (reason : Int)
  | eraseClient (conn : Connection)
  | receiveMessages
  | runCallbacks
  | statusChanged (event : StatusEvent) (reply : AcceptReply)
  | invoke (callback : Callback)
  | closeLost (conn : Connection)
  -- `while (m_is_running.load())`
  | whileRunning

/-- A poll that finds nothing. -/
def noMessages : UdpServer.Batch := ⟨[], Nat.zero_le _⟩

/-- What the world outside answers to an instruction: the messages and the events that a poll
finds, and what a user callback calls. -/
structure Answer where
  batch : UdpServer.Batch := noMessages
  events : List (StatusEvent × AcceptReply) := []
  calls : List ServerCall := []

/-- A pointer to an entry of `m_clients`, and how many entries of its connection had been erased
before that entry. -/
structure EntryRef where
  conn : Connection
  erased : ℕ

/-- What the threads share, and the local variables that point into it. -/
structure ServerShared (κ : Type) where
  context : ServerContext Unit
  erased : Connection → ℕ := fun _ => 0
  client : ThreadId κ → Option EntryRef := fun _ => none

/-! ## The code of the members -/

/-- The mutex is taken for the lookup only. -/
def getClientInfoBody (conn : Connection) : List ServerInstruction :=
  [.lockClients, .findClient conn, .unlockClients]

/-- The code of a member function. -/
def ServerCall.body : ServerCall → List ServerInstruction
  | .startManual port reply => [.startManual port reply false]
  | .startAsync port reply => [.startManual port reply true]
  | .stop => [.exchangeRunning]
  | .poll => [.receiveMessages, .runCallbacks]
  | .send conn data size reliable sent => [.send conn data size reliable sent]
  | .broadcast data size reliable sent =>
      [.lockClients, .broadcastAll data size reliable sent, .unlockClients]
  | .disconnect conn reason =>
      [.closeConnection conn reason, .lockClients, .eraseClient conn, .unlockClients]
  | .getClientInfo conn => getClientInfoBody conn

/-- The rest of `stop` on a server that was running; joining itself is not waited for. -/
def stopBody {κ : Type} [DecidableEq κ] (t : ThreadId κ) (self : UdpServer) :
    List ServerInstruction :=
  (if self.networkThread.joinable then
    if t = .network then [.joinOwnThread] else [.joinThread]
  else []) ++ [.lockClients, .closeAll, .unlockClients]

/-- One message in the loop of `poll`. -/
def messageBody (self : UdpServer) (message : Message) : List ServerInstruction :=
  if self.dataReceivedCallback then
    getClientInfoBody message.conn ++ [.invoke (.dataReceived message.data)]
  else []

/-- The end of a connection in `on_connection_status_changed`. -/
def closedBody (event : StatusEvent) : List ServerInstruction :=
  (if event.oldState = .connected then
    getClientInfoBody event.conn ++ [.invoke .clientDisconnected]
  else []) ++ [.closeLost event.conn]

/-! ## What the instructions do -/

namespace Callback

/-- Whether the callback is set, where the code looks at it just before the call. -/
def isSet (self : UdpServer) : Callback → Bool
  | .dataReceived _ => true
  | .clientConnected => self.clientConnectedCallback
  | .clientDisconnected => self.clientDisconnectedCallback

/-- The call of the callback. -/
def effect (info : ClientInfo) : Callback → ServerEffect
  | .dataReceived data => .dataReceived info data
  | .clientConnected => .clientConnected info
  | .clientDisconnected => .clientDisconnected info

end Callback

namespace ServerShared

variable {κ : Type}

/-- The fields of the server, after one of them was written. -/
def withContext (d : ServerShared κ) (c : ServerContext Unit) : ServerShared κ :=
  { d with context := c }

/-- `m_clients.find(conn)`, as a pointer. -/
def locate (d : ServerShared κ) (conn : Connection) : Option EntryRef :=
  (d.context.self.getClientInfo conn).map fun _ => { conn := conn, erased := d.erased conn }

/-- An entry is read through a pointer. -/
def deref (d : ServerShared κ) (r : EntryRef) : Checked ClientInfo :=
  if d.erased r.conn = r.erased then
    match d.context.self.getClientInfo r.conn with
    | some info => .ok info
    | none => .error .useAfterFree
  else .error .useAfterFree

theorem error_of_deref {d : ServerShared κ} {r : EntryRef} {e : Fault}
    (h : d.deref r = .error e) : e = .useAfterFree := by
  unfold deref at h
  split at h
  · split at h
    · cases h
    · exact (Except.error.inj h).symm
  · exact (Except.error.inj h).symm

/-- The entries of some connections are gone. -/
def eraseEntries (d : ServerShared κ) (gone : Connection → Bool) (c : ServerContext Unit) :
    ServerShared κ :=
  { d with
    context := c
    erased := fun conn => d.erased conn + if gone conn then 1 else 0 }

end ServerShared

/-- `on_connection_status_changed` for a new connection, up to the callback; the answer is
whether the connection has an entry now. -/
def UdpServer.acceptClient (event : StatusEvent) (reply : AcceptReply) (c : ServerContext Unit) :
    ServerContext Unit × Bool :=
  let c := c.record (.acceptConnection event.conn reply.accepted)
  if reply.accepted then
    let c := c.record (.setConnectionPollGroup event.conn c.self.pollGroup reply.assigned)
    if reply.assigned then
      let addr := copySteamToIpAddress reply.addrRemote
      ({ c with self := { c.self with clients := c.self.clients.set event.conn addr } }, true)
    else (c.record (.closeConnection .pollGroupFailed event.conn), false)
  else (c.record (.closeConnection .acceptFailed event.conn), false)

variable {κ : Type} [DecidableEq κ]

/-- `on_connection_status_changed`, handed to the server that `s_instance` points to. -/
def execStatusChanged (t : ThreadId κ) (event : StatusEvent) (reply : AcceptReply)
    (d : ServerShared κ) : Outcome (ThreadId κ) ServerInstruction (ServerShared κ) :=
  if d.context.sInstance.isNone then { data := d }
  else
    match event.state with
    | .closedByPeer | .problemDetectedLocally => { data := d, code := closedBody event }
    | .connecting =>
        let (c, admitted) := UdpServer.acceptClient event reply d.context
        if admitted then
          { data := { d.withContext c with
              client := Function.update d.client t
                (some { conn := event.conn, erased := d.erased event.conn }) }
            code := [.invoke .clientConnected] }
        else { data := d.withContext c }
    | .none | .connected | .findingRoute => { data := d }

/-- A user callback: the entry is read when it is called, and then it makes its own calls. -/
def execInvoke (t : ThreadId κ) (callback : Callback) (calls : List ServerCall)
    (d : ServerShared κ) :
    Checked (Outcome (ThreadId κ) ServerInstruction (ServerShared κ)) :=
  match d.client t with
  | none => .ok { data := d }
  | some r =>
      if callback.isSet d.context.self then
        (d.deref r).map fun info =>
          { data := d.withContext (d.context.record (callback.effect info))
            code := calls.flatMap ServerCall.body }
      else .ok { data := d }

/-- What an instruction does on thread `t`. -/
def ServerInstruction.exec (t : ThreadId κ) (i : ServerInstruction) (answer : Answer)
    (d : ServerShared κ) :
    Checked (Outcome (ThreadId κ) ServerInstruction (ServerShared κ)) :=
  let c := d.context
  match i with
  | .lockClients | .unlockClients => .ok { data := d }
  | .findClient conn =>
      .ok { data := { d with client := Function.update d.client t (d.locate conn) } }
  | .startManual port reply async =>
      let (c, started) := UdpServer.startManual () port reply c
      .ok { data := d.withContext c, code := if started && async then [.startThread] else [] }
  | .startThread =>
      c.self.networkThread.assign.map fun networkThread =>
        { data := d.withContext { c with self := { c.self with networkThread := networkThread } }
          started := some (.network, [.whileRunning]) }
  | .exchangeRunning =>
      let c := { c with sInstance := none }
      if c.self.isRunning then
        .ok { data := d.withContext { c with self := { c.self with isRunning := false } }
              code := stopBody t c.self }
      else .ok { data := d.withContext c }
  | .joinThread =>
      .ok { data := d.withContext { c with self := { c.self with
        networkThread := c.self.networkThread.joinIfJoinable } } }
  -- the exception of `join` cannot leave a `noexcept` function
  | .joinOwnThread => .error .terminate
  | .closeAll =>
      .ok { data := d.eraseEntries (c.self.clients.keys.contains ·)
              (UdpServer.destroyPollGroup (UdpServer.closeListenSocket
                (UdpServer.closeClients c))) }
  | .send conn data size reliable sent =>
      .ok { data := d.withContext (UdpServer.send conn data size reliable sent c).1 }
  | .broadcastAll data size reliable sent =>
      .ok { data := d.withContext (UdpServer.broadcast data size reliable sent c).1 }
  | .closeConnection conn reason =>
      .ok { data := d.withContext (c.record (.closeConnection (.disconnect reason) conn)) }
  | .eraseClient conn =>
      .ok { data := d.eraseEntries (fun k => k = conn && (c.self.getClientInfo conn).isSome)
              { c with self := { c.self with clients := c.self.clients.erase conn } } }
  | .receiveMessages =>
      -- the count is `-1`, and the loop reads a slot that was not filled
      if c.self.pollGroup = kInvalidPollGroup then .error .uninitialised
      else .ok { data := d, code := answer.batch.messages.flatMap (messageBody c.self) }
  | .runCallbacks =>
      .ok { data := d, code := answer.events.map fun e => .statusChanged e.1 e.2 }
  | .statusChanged event reply => .ok (execStatusChanged t event reply d)
  | .invoke callback => execInvoke t callback answer.calls d
  | .closeLost conn =>
      .ok { data := d.withContext (c.record (.closeConnection .closedOrProblem conn)) }
  | .whileRunning =>
      .ok { data := d
            code := if c.self.isRunning then ServerCall.poll.body ++ [.whileRunning] else [] }

/-- What an instruction waits for. -/
def ServerInstruction.demand : ServerInstruction → Demand Unit (ThreadId κ)
  | .lockClients => .lock ()
  | .unlockClients => .unlock ()
  | .joinThread => .join .network
  | _ => .nothing

/-- The instructions that may stand under the mutex. -/
def ServerInstruction.isPlain : ServerInstruction → Bool
  | .lockClients | .findClient _ | .closeAll | .broadcastAll _ _ _ _ | .eraseClient _ => true
  | _ => false

/-- The instructions of the server. -/
def serverInstructions (κ : Type) : Instructions Unit (ThreadId κ) ServerInstruction where
  demand := ServerInstruction.demand
  plain := ServerInstruction.isPlain
  plain_of_lock := by
    intro i m h
    cases i <;> first | rfl | cases h

/-! ## Locks -/

omit [DecidableEq κ] in
theorem flat_getClientInfoBody (conn : Connection) :
    (serverInstructions κ).Flat none (getClientInfoBody conn) := ⟨rfl, rfl, rfl⟩

omit [DecidableEq κ] in
/-- A member takes the mutex for one section at a time. -/
theorem ServerCall.flat_body (call : ServerCall) :
    (serverInstructions κ).Flat none call.body := by
  cases call with
  | broadcast data size reliable sent => exact ⟨rfl, rfl, rfl⟩
  | disconnect conn reason => exact ⟨rfl, rfl, rfl⟩
  | getClientInfo conn => exact flat_getClientInfoBody conn
  | _ => exact rfl

theorem flat_stopBody (t : ThreadId κ) (self : UdpServer) :
    (serverInstructions κ).Flat none (stopBody t self) := by
  have hclose : (serverInstructions κ).Flat none
      [.lockClients, .closeAll, .unlockClients] := ⟨rfl, rfl, rfl⟩
  unfold stopBody
  refine Instructions.Flat.append ?_ hclose
  split
  · split <;> exact rfl
  · exact rfl

omit [DecidableEq κ] in
theorem flat_messageBody (self : UdpServer) (message : Message) :
    (serverInstructions κ).Flat none (messageBody self message) := by
  unfold messageBody
  split
  · exact (flat_getClientInfoBody message.conn).append rfl
  · exact rfl

omit [DecidableEq κ] in
theorem flat_closedBody (event : StatusEvent) :
    (serverInstructions κ).Flat none (closedBody event) := by
  unfold closedBody
  refine Instructions.Flat.append ?_ rfl
  split
  · exact (flat_getClientInfoBody event.conn).append rfl
  · exact rfl

/-! ## What the instructions unfold into -/

/-- The code that an instruction puts before the rest. -/
inductive Unfolds (t : ThreadId κ) (answer : Answer) (self : UdpServer) :
    ServerInstruction → List ServerInstruction → Prop
  | nothing (i : ServerInstruction) : Unfolds t answer self i []
  | starts (port : UInt16) (reply : StartReply) :
      Unfolds t answer self (.startManual port reply true) [.startThread]
  | stops (hrunning : self.isRunning = true) :
      Unfolds t answer self .exchangeRunning (stopBody t self)
  | receives :
      Unfolds t answer self .receiveMessages (answer.batch.messages.flatMap (messageBody self))
  | reports :
      Unfolds t answer self .runCallbacks (answer.events.map fun e => .statusChanged e.1 e.2)
  | closes (event : StatusEvent) (reply : AcceptReply) :
      Unfolds t answer self (.statusChanged event reply) (closedBody event)
  | admits (event : StatusEvent) (reply : AcceptReply) :
      Unfolds t answer self (.statusChanged event reply) [.invoke .clientConnected]
  | calls (callback : Callback) :
      Unfolds t answer self (.invoke callback) (answer.calls.flatMap ServerCall.body)
  | loops (hrunning : self.isRunning = true) :
      Unfolds t answer self .whileRunning (ServerCall.poll.body ++ [.whileRunning])

section

variable {t : ThreadId κ} {i : ServerInstruction} {answer : Answer} {d : ServerShared κ}
  {o : Outcome (ThreadId κ) ServerInstruction (ServerShared κ)}

theorem unfolds_statusChanged (t : ThreadId κ) (answer : Answer) (event : StatusEvent)
    (reply : AcceptReply) (d : ServerShared κ) :
    Unfolds t answer d.context.self (.statusChanged event reply)
      (execStatusChanged t event reply d).code := by
  unfold execStatusChanged
  split
  · exact .nothing _
  · split
    · exact .closes event reply
    · exact .closes event reply
    · split
      rename_i c admitted _
      cases admitted with
      | true => exact .admits event reply
      | false => exact .nothing _
    · exact .nothing _
    · exact .nothing _
    · exact .nothing _

theorem unfolds_of_exec (h : i.exec t answer d = .ok o) :
    Unfolds t answer d.context.self i o.code := by
  cases i with
  | startManual port reply async =>
      rw [ServerInstruction.exec] at h
      rcases hstart : UdpServer.startManual () port reply d.context with ⟨c, started⟩
      rw [hstart] at h
      obtain rfl := Except.ok.inj h
      cases started with
      | false => exact .nothing _
      | true =>
          cases async with
          | false => exact .nothing _
          | true => exact .starts port reply
  | startThread =>
      obtain ⟨networkThread, -, rfl⟩ := map_eq_ok.mp h
      exact .nothing _
  | exchangeRunning =>
      rw [ServerInstruction.exec] at h
      split at h
      · rename_i hrunning
        obtain rfl := Except.ok.inj h
        exact .stops hrunning
      · obtain rfl := Except.ok.inj h
        exact .nothing _
  | joinOwnThread => cases h
  | receiveMessages =>
      rw [ServerInstruction.exec] at h
      split at h
      · cases h
      · obtain rfl := Except.ok.inj h
        exact .receives
  | runCallbacks =>
      obtain rfl := Except.ok.inj h
      exact .reports
  | statusChanged event reply =>
      obtain rfl := Except.ok.inj h
      exact unfolds_statusChanged t answer event reply d
  | invoke callback =>
      rw [ServerInstruction.exec, execInvoke] at h
      split at h
      · obtain rfl := Except.ok.inj h
        exact .nothing _
      · split at h
        · obtain ⟨info, -, rfl⟩ := map_eq_ok.mp h
          exact .calls callback
        · obtain rfl := Except.ok.inj h
          exact .nothing _
  | whileRunning =>
      obtain rfl := Except.ok.inj h
      simp only
      split
      · rename_i hrunning
        exact .loops hrunning
      · exact .nothing _
  | _ =>
      obtain rfl := Except.ok.inj h
      exact .nothing _

/-- Only `start_async` starts a thread, and only where there is none to be assigned over. -/
theorem started_of_exec (h : i.exec t answer d = .ok o) :
    o.started = none
      ∨ (i = .startThread ∧ d.context.self.networkThread.joinable = false
        ∧ o.started = some (.network, [.whileRunning])) := by
  cases i with
  | startThread =>
      obtain ⟨networkThread, hassign, rfl⟩ := map_eq_ok.mp h
      refine .inr ⟨rfl, ?_, rfl⟩
      cases hjoinable : d.context.self.networkThread.joinable with
      | false => rfl
      | true =>
          rw [Thread.assign_of_joinable hjoinable] at hassign
          cases hassign
  | exchangeRunning =>
      rw [ServerInstruction.exec] at h
      split at h
      · obtain rfl := Except.ok.inj h
        exact .inl rfl
      · obtain rfl := Except.ok.inj h
        exact .inl rfl
  | joinOwnThread => cases h
  | receiveMessages =>
      rw [ServerInstruction.exec] at h
      split at h
      · cases h
      · obtain rfl := Except.ok.inj h
        exact .inl rfl
  | statusChanged event reply =>
      obtain rfl := Except.ok.inj h
      refine .inl ?_
      unfold execStatusChanged
      split
      · rfl
      · split <;> first | rfl | (split; split <;> rfl)
  | invoke callback =>
      rw [ServerInstruction.exec, execInvoke] at h
      split at h
      · obtain rfl := Except.ok.inj h
        exact .inl rfl
      · split at h
        · obtain ⟨info, -, rfl⟩ := map_eq_ok.mp h
          exact .inl rfl
        · obtain rfl := Except.ok.inj h
          exact .inl rfl
  | _ =>
      obtain rfl := Except.ok.inj h
      exact .inl rfl

theorem Unfolds.flat {self : UdpServer} {code : List ServerInstruction}
    (h : Unfolds t answer self i code) : (serverInstructions κ).Flat none code := by
  cases h with
  | nothing => exact rfl
  | starts => exact rfl
  | stops => exact flat_stopBody t self
  | receives => exact Instructions.flat_flatMap _ fun message _ => flat_messageBody self message
  | reports =>
      rw [List.map_eq_flatMap]
      exact Instructions.flat_flatMap _ fun e _ => rfl
  | closes event => exact flat_closedBody event
  | admits => exact rfl
  | calls => exact Instructions.flat_flatMap _ fun call _ => call.flat_body
  | loops => exact ServerCall.poll.flat_body.append rfl

end

/-- The server as a language of its instructions. -/
def serverLanguage (κ : Type) [DecidableEq κ] :
    Language Unit (ThreadId κ) ServerInstruction Answer (ServerShared κ) where
  toInstructions := serverInstructions κ
  exec := fun t i answer d => i.exec t answer d
  plain_exec := by
    intro t i answer d o hplain hexec
    cases i with
    | lockClients | findClient | closeAll | broadcastAll | eraseClient =>
        obtain rfl := Except.ok.inj hexec
        exact ⟨rfl, rfl⟩
    | _ => cases hplain
  flat_exec := by
    intro t i answer d o hexec
    refine ⟨(unfolds_of_exec hexec).flat, fun u code hstarted => ?_⟩
    rcases started_of_exec hexec with hnone | ⟨-, -, hsome⟩
    · rw [hnone] at hstarted
      cases hstarted
    · rw [hsome] at hstarted
      obtain ⟨rfl, rfl⟩ := Prod.mk.inj (Option.some.inj hstarted)
      exact rfl

/-! ## The program -/

/-- The threads with the code they have left. -/
abbrev ServerThreads (κ : Type) := Threads Unit (ThreadId κ) ServerInstruction (ServerShared κ)

/-- A thread of the application makes a call, or some thread goes on. -/
inductive CallAction (κ : Type) : Type where
  | call (k : κ) (member : ServerCall)
  | step (t : ThreadId κ) (answer : Answer)

/-- A server that was constructed and given its callbacks. -/
def UdpServer.withCallbacks (data connected disconnected : Bool) : UdpServer where
  dataReceivedCallback := data
  clientConnectedCallback := connected
  clientDisconnectedCallback := disconnected

/-- What happens in the program. -/
def CallAction.act (s : ServerThreads κ) : CallAction κ → Option (ServerThreads κ)
  | .call k member => s.call (.application k) member.body
  | .step t answer => s.step (serverLanguage κ) t answer

/-- A server and the threads that call it; at first no thread is in a call. -/
def serverCalls (κ : Type) [DecidableEq κ] (self : UdpServer) :
    Machine (ServerThreads κ) (CallAction κ) where
  init :=
    { owner := fun _ => none
      code := fun _ => []
      data := { context := { sInstance := none, self := self, trace := [] } } }
  step := CallAction.act

end KbNetworking
