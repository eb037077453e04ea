/-
# The UDP server

`UdpServer` member by member (`udp_server.hpp`, `udp_server.cpp`).  A member function runs
in a `ServerContext`: the process-wide pointer `s_instance`, the object itself, and the
trace of the calls made on the transport and of the user callbacks.  The answers of the
transport (the handles it creates, whether it accepts a connection, whether a send
succeeds) are arguments.

`m_clients` is a `ClientTable`: the map together with the fact that the entry of a
connection names that connection.  The only code that writes an entry is the accept path,
which writes the key into it.
-/
import KbNetworking.Lib.Objects
import KbNetworking.NetworkTypes

namespace KbNetworking

open Cpp

/-- `client_info_t`. -/
structure ClientInfo where
  conn : Connection
  addr : IpAddress
  deriving DecidableEq, Repr

/-! ## The client table -/

/-- `m_clients`: every entry names its key. -/
structure ClientTable where
  entries : Std.ExtTreeMap Connection ClientInfo
  conn_eq : ∀ (conn : Connection) (info : ClientInfo),
    entries[conn]? = some info → info.conn = conn

namespace ClientTable

/-- `m_clients.find(conn)`. -/
def find (t : ClientTable) (conn : Connection) : Option ClientInfo := t.entries[conn]?

/-- `m_clients | std::views::keys`, in the order of the map. -/
def keys (t : ClientTable) : List Connection := t.entries.keys

def isEmpty (t : ClientTable) : Bool := t.entries.isEmpty

/-- `m_clients.clear()`. -/
def empty : ClientTable where
  entries := ∅
  conn_eq := by simp

/-- `auto& client = m_clients[conn]; client.m_conn = conn; client.m_addr = addr;` -/
def set (t : ClientTable) (conn : Connection) (addr : IpAddress) : ClientTable where
  entries := t.entries.insert conn { conn := conn, addr := addr }
  conn_eq := by
    intro k info hk
    rw [Std.ExtTreeMap.getElem?_insert] at hk
    split at hk
    · rename_i heq
      rw [Option.some.injEq] at hk
      rw [← hk]
      exact Std.LawfulEqCmp.eq_of_compare heq
    · exact t.conn_eq k info hk

/-- `m_clients.erase(conn)`. -/
def erase (t : ClientTable) (conn : Connection) : ClientTable where
  entries := t.entries.erase conn
  conn_eq := by
    intro k info hk
    rw [Std.ExtTreeMap.getElem?_erase] at hk
    split at hk
    · cases hk
    · exact t.conn_eq k info hk

@[simp] theorem keys_empty : empty.keys = [] := by
  simp [keys, empty]

theorem find_set (t : ClientTable) (conn k : Connection) (addr : IpAddress) :
    (t.set conn addr).find k
      = if conn = k then some { conn := conn, addr := addr } else t.find k := by
  simp [find, set, Std.ExtTreeMap.getElem?_insert]

theorem find_erase (t : ClientTable) (conn k : Connection) :
    (t.erase conn).find k = if conn = k then none else t.find k := by
  simp [find, erase, Std.ExtTreeMap.getElem?_erase]

/-- The keys are the connections with an entry. -/
theorem mem_keys {t : ClientTable} {conn : Connection} :
    conn ∈ t.keys ↔ (t.find conn).isSome := by
  simp [keys, find]

theorem mem_keys_set {t : ClientTable} {conn k : Connection} {addr : IpAddress} :
    k ∈ (t.set conn addr).keys ↔ conn = k ∨ k ∈ t.keys := by
  rw [mem_keys, mem_keys, find_set]
  split <;> simp_all

theorem mem_keys_erase {t : ClientTable} {conn k : Connection} :
    k ∈ (t.erase conn).keys ↔ conn ≠ k ∧ k ∈ t.keys := by
  rw [mem_keys, mem_keys, find_erase]
  split <;> simp_all

/-- The entry of a connection names it. -/
theorem conn_of_find {t : ClientTable} {conn : Connection} {info : ClientInfo}
    (h : t.find conn = some info) : info.conn = conn :=
  t.conn_eq conn info h

end ClientTable

/-! ## The transport -/

/-- Where the server calls `CloseConnection`. -/
inductive CloseSite : Type where
  | disconnect (reason : Int)
  | stop
  | closedOrProblem
  | acceptFailed
  | pollGroupFailed
  deriving DecidableEq, Repr

/-- The reason code, the debug text and the linger flag passed at each site. -/
def CloseSite.arguments : CloseSite → Int × Option String × Bool
  | .disconnect reason => (reason, some "Disconnected", false)
  | .stop => (0, some "UdpServer shutting down", true)
  | .closedOrProblem => (0, none, false)
  | .acceptFailed => (0, none, false)
  | .pollGroupFailed => (0, none, false)

/-- A call on the transport, with its answer, or an invocation of a user callback. -/
inductive ServerEffect : Type where
  | createListenSocketIP (port : UInt16) (socket : ListenSocket)
  | createPollGroup (group : PollGroup)
  | closeListenSocket (socket : ListenSocket)
  | destroyPollGroup (group : PollGroup)
  | acceptConnection (conn : Connection) (accepted : Bool)
  | setConnectionPollGroup (conn : Connection) (group : PollGroup) (assigned : Bool)
  | closeConnection (site : CloseSite) (conn : Connection)
  | sendMessageToConnection (conn : Connection) (data : List UInt8) (reliable : Bool)
      (sent : Bool)
  | dataReceived (client : ClientInfo) (data : List UInt8)
  | clientConnected (client : ClientInfo)
  | clientDisconnected (client : ClientInfo)
  deriving DecidableEq, Repr

/-- `ESteamNetworkingConnectionState`, the states the transport reports. -/
inductive ConnectionState : Type where
  | none
  | connecting
  | findingRoute
  | connected
  | closedByPeer
  | problemDetectedLocally
  deriving DecidableEq, Repr

/-- The connection has ended, by the peer or by a local problem. -/
def ConnectionState.isClosed : ConnectionState → Bool
  | .closedByPeer => true
  | .problemDetectedLocally => true
  | _ => false

/-- `SteamNetConnectionStatusChangedCallback_t`; `listenSocket` is the socket the connection
arrived on. -/
structure StatusEvent where
  conn : Connection
  listenSocket : ListenSocket
  state : ConnectionState
  oldState : ConnectionState
  deriving DecidableEq, Repr

/-- What the transport answers while a status event is handled. -/
structure AcceptReply where
  accepted : Bool
  assigned : Bool
  addrRemote : SteamNetworkingIPAddr
  deriving DecidableEq, Repr

/-- What the transport answers to the two creations of a start. -/
structure StartReply where
  listenSocket : ListenSocket
  pollGroup : PollGroup
  deriving DecidableEq, Repr

/-- A received message. -/
structure Message where
  conn : Connection
  data : List UInt8
  deriving DecidableEq, Repr

/-! ## The object -/

/-- The fields of a `UdpServer`; of a user callback only whether it is set. -/
structure UdpServer where
  networkThread : Thread := {}
  isRunning : Bool := false
  port : UInt16 := 0
  dataReceivedCallback : Bool := false
  clientConnectedCallback : Bool := false
  clientDisconnectedCallback : Bool := false
  clients : ClientTable := .empty
  listenSocket : ListenSocket := kInvalidListenSocket
  pollGroup : PollGroup := kInvalidPollGroup

/-- What a member function reads and writes. -/
abbrev ServerContext (ι : Type) := Context ι UdpServer ServerEffect

namespace UdpServer

variable {ι : Type}

/-- `get_client_info`. -/
def getClientInfo (self : UdpServer) (conn : Connection) : Option ClientInfo :=
  self.clients.find conn

/-! ## Starting and stopping -/

/-- `on_fatal_message`. -/
def onFatalMessage (c : ServerContext ι) : ServerContext ι :=
  { c with self := { c.self with isRunning := false } }

/-- `start_manual`, on the object `me`. -/
def startManual (me : ι) (port : UInt16) (reply : StartReply) (c : ServerContext ι) :
    ServerContext ι × Bool :=
  if c.self.isRunning then (c, false)
  else
    let c := c.record (.createListenSocketIP port reply.listenSocket)
    let c := { c with self := { c.self with listenSocket := reply.listenSocket } }
    if reply.listenSocket = kInvalidListenSocket then (onFatalMessage c, false)
    else
      let c := c.record (.createPollGroup reply.pollGroup)
      let c := { c with self := { c.self with pollGroup := reply.pollGroup } }
      if reply.pollGroup = kInvalidPollGroup then (onFatalMessage c, false)
      else
        ({ c with sInstance := some me
                  self := { c.self with port := port, isRunning := true } }, true)

/-- `start_async`: a started server gets a network thread. -/
def startAsync (me : ι) (port : UInt16) (reply : StartReply) (c : ServerContext ι) :
    Checked (ServerContext ι × Bool) :=
  match startManual me port reply c with
  | (c, false) => .ok (c, false)
  | (c, true) => do
      let networkThread ← c.self.networkThread.assign
      return ({ c with self := { c.self with networkThread := networkThread } }, true)

/-- What a returned `start_async` did: `start_manual`, and a thread for a started server. -/
theorem startAsync_cases {me : ι} {port : UInt16} {reply : StartReply}
    {c c' : ServerContext ι} {started : Bool}
    (h : startAsync me port reply c = .ok (c', started)) :
    ∃ d, startManual me port reply c = (d, started)
      ∧ ((started = false ∧ c' = d) ∨ (started = true ∧ d.self.networkThread.joinable = false
        ∧ c' = { d with self := { d.self with networkThread := { joinable := true } } })) := by
  unfold startAsync at h
  split at h
  · rename_i d hd
    obtain ⟨rfl, rfl⟩ := Prod.mk.inj (Except.ok.inj h)
    exact ⟨d, hd, .inl ⟨rfl, rfl⟩⟩
  · rename_i d hd
    refine ⟨d, ?_⟩
    cases hjoinable : d.self.networkThread.joinable with
    | true =>
        rw [Thread.assign_of_joinable hjoinable] at h
        cases h
    | false =>
        rw [Thread.assign_of_not_joinable hjoinable] at h
        obtain ⟨rfl, rfl⟩ := Prod.mk.inj (Except.ok.inj h)
        exact ⟨hd, .inr ⟨rfl, rfl, rfl⟩⟩

/-- Close every client of the table, then clear it. -/
def closeClients (c : ServerContext ι) : ServerContext ι :=
  { c with trace := c.trace ++ c.self.clients.keys.map (.closeConnection .stop)
           self := { c.self with clients := .empty } }

/-- `if (m_listen_socket != k_HSteamListenSocket_Invalid) { … }` -/
def closeListenSocket (c : ServerContext ι) : ServerContext ι :=
  if c.self.listenSocket = kInvalidListenSocket then c
  else
    { c.record (.closeListenSocket c.self.listenSocket) with
      self := { c.self with listenSocket := kInvalidListenSocket } }

/-- `if (m_poll_group != k_HSteamNetPollGroup_Invalid) { … }` -/
def destroyPollGroup (c : ServerContext ι) : ServerContext ι :=
  if c.self.pollGroup = kInvalidPollGroup then c
  else
    { c.record (.destroyPollGroup c.self.pollGroup) with
      self := { c.self with pollGroup := kInvalidPollGroup } }

/-- `stop`: the instance pointer is cleared before the running flag is looked at. -/
def stop (c : ServerContext ι) : ServerContext ι :=
  let c := { c with sInstance := none }
  if c.self.isRunning then
    let c := { c with self := { c.self with
      isRunning := false
      networkThread := c.self.networkThread.joinIfJoinable } }
    destroyPollGroup (closeListenSocket (closeClients c))
  else c

/-- `~UdpServer`: `stop`, then the members are destroyed. -/
def destroy (c : ServerContext ι) : Checked (ServerContext ι) := do
  let c := stop c
  c.self.networkThread.destroy
  return c

/-! ## Sending and disconnecting -/

/-- `send`: the transport is given the first `size` bytes; the answer is whether it reports
`k_EResultOK`. -/
def send (conn : Connection) (data : List UInt8) (size : UInt32) (reliable sent : Bool)
    (c : ServerContext ι) : ServerContext ι × Bool :=
  (c.record (.sendMessageToConnection conn (data.take size.toNat) reliable sent), sent)

/-- The loop of `broadcast`: every key is sent to, whatever the earlier sends returned. -/
def broadcastLoop (data : List UInt8) (size : UInt32) (reliable : Bool)
    (sent : Connection → Bool) : List Connection → Bool → ServerContext ι → ServerContext ι × Bool
  | [], ok, c => (c, ok)
  | conn :: conns, ok, c =>
      match send conn data size reliable (sent conn) c with
      | (c, true) => broadcastLoop data size reliable sent conns ok c
      | (c, false) => broadcastLoop data size reliable sent conns false c

/-- `broadcast`. -/
def broadcast (data : List UInt8) (size : UInt32) (reliable : Bool) (sent : Connection → Bool)
    (c : ServerContext ι) : ServerContext ι × Bool :=
  if c.self.clients.isEmpty then (c, false)
  else broadcastLoop data size reliable sent c.self.clients.keys true c

/-- The loop sends the same bytes to every key and only records the sends. -/
theorem broadcastLoop_eq (data : List UInt8) (size : UInt32) (reliable : Bool)
    (sent : Connection → Bool) (conns : List Connection) (ok : Bool) (c : ServerContext ι) :
    broadcastLoop data size reliable sent conns ok c
      = ({ c with trace := c.trace ++ conns.map fun conn =>
            .sendMessageToConnection conn (data.take size.toNat) reliable (sent conn) },
          ok && conns.all sent) := by
  induction conns generalizing ok c with
  | nil => simp [broadcastLoop]
  | cons conn conns ih =>
      unfold broadcastLoop send
      cases hsent : sent conn <;> simp [ih, hsent, Context.record]

/-- `disconnect`: close the connection, then forget the client. -/
def disconnect (conn : Connection) (reason : Int) (c : ServerContext ι) : ServerContext ι :=
  let c := c.record (.closeConnection (.disconnect reason) conn)
  { c with self := { c.self with clients := c.self.clients.erase conn } }

/-! ## Connection status events -/

/-- The announcement of a lost client: only for a connection that was `Connected` and is in
the table. -/
def announceDisconnected (event : StatusEvent) (c : ServerContext ι) : ServerContext ι :=
  if event.oldState = .connected then
    match c.self.getClientInfo event.conn with
    | none => c
    | some client =>
        if c.self.clientDisconnectedCallback then c.record (.clientDisconnected client) else c
  else c

/-- `on_connection_status_changed`. -/
def onConnectionStatusChanged (event : StatusEvent) (reply : AcceptReply)
    (c : ServerContext ι) : ServerContext ι :=
  match event.state with
  | .none => c
  | .closedByPeer | .problemDetectedLocally =>
      (announceDisconnected event c).record (.closeConnection .closedOrProblem event.conn)
  | .connecting =>
      let c := c.record (.acceptConnection event.conn reply.accepted)
      if reply.accepted then
        let c := c.record (.setConnectionPollGroup event.conn c.self.pollGroup reply.assigned)
        if reply.assigned then
          let addr := copySteamToIpAddress reply.addrRemote
          let c := { c with self := { c.self with clients := c.self.clients.set event.conn addr } }
          if c.self.clientConnectedCallback then
            c.record (.clientConnected { conn := event.conn, addr := addr })
          else c
        else c.record (.closeConnection .pollGroupFailed event.conn)
      else c.record (.closeConnection .acceptFailed event.conn)
  | .connected => c
  -- the switch has no case for this state
  | .findingRoute => c

/-! ## Polling -/

/-- `k_message_count`, the slots offered to the transport. -/
def kMessageCount : ℕ := 32

/-- The messages that are waiting for a poll: at most as many as there are slots. -/
structure Batch where
  messages : List Message
  length_le : messages.length ≤ kMessageCount

/-- What `ReceiveMessagesOnPollGroup` leaves: the returned count and the filled slots. -/
structure Received where
  count : ℤ
  slots : List Message

/-- A slot is filled for each message. -/
def Batch.received (batch : Batch) : Received :=
  { count := batch.messages.length, slots := batch.messages }

/-- `ReceiveMessagesOnPollGroup`: an invalid poll group returns `-1` and fills no slot. -/
def receiveMessagesOnPollGroup (group : PollGroup) (batch : Batch) : Received :=
  if group = kInvalidPollGroup then { count := -1, slots := [] } else batch.received

/-- `messages[i]`: a slot that was not filled holds no message. -/
def messageAt (slots : List Message) (i : ℕ) : Checked Message :=
  match slots[i]? with
  | some message => .ok message
  | none => .error (if i < kMessageCount then .uninitialised else .outOfBounds)

/-- What the loop of `poll` does: the results of the data callback, and the slots whose
message was released. -/
structure PollOutput (ω : Type) where
  outputs : List ω := []
  released : List ℕ := []
  deriving DecidableEq, Repr

/-- What one message makes the data callback do. -/
def dispatchMessage {ω : Type} (clients : ClientTable)
    (callback : Option (ClientInfo → List UInt8 → Checked (List ω))) (message : Message) :
    Checked (List ω) :=
  match callback with
  | none => .ok []
  | some call =>
      match clients.find message.conn with
      | none => .ok []
      | some client => call client message.data

/-- The loop of `poll`, from slot `i` with `todo` slots to go. -/
def pollLoop {ω : Type} (clients : ClientTable)
    (callback : Option (ClientInfo → List UInt8 → Checked (List ω))) (slots : List Message) :
    ℕ → ℕ → PollOutput ω → Checked (PollOutput ω)
  | _, 0, out => .ok out
  | i, todo + 1, out => do
      let message ← messageAt slots i
      let outputs ← dispatchMessage clients callback message
      pollLoop clients callback slots (i + 1) todo
        { outputs := out.outputs ++ outputs, released := out.released ++ [i] }

/-- `poll` up to `RunCallbacks`, given what `ReceiveMessagesOnPollGroup` left; the count is
converted to `u32`. -/
def poll {ω : Type} (self : UdpServer)
    (callback : Option (ClientInfo → List UInt8 → Checked (List ω))) (received : Received) :
    Checked (PollOutput ω) :=
  let messageCount := (received.count % 2 ^ 32).toNat
  pollLoop self.clients callback received.slots 0 messageCount {}

/-- The loop hands every message of the slots to the callback, in order, and releases each
slot once. -/
theorem pollLoop_eq {ω : Type} {clients : ClientTable}
    {callback : Option (ClientInfo → List UInt8 → Checked (List ω))} {f : Message → List ω}
    (hf : ∀ message, dispatchMessage clients callback message = .ok (f message))
    (slots : List Message) (i todo : ℕ) (out : PollOutput ω) (h : i + todo = slots.length) :
    pollLoop clients callback slots i todo out
      = .ok { outputs := out.outputs ++ (slots.drop i).flatMap f
              released := out.released ++ List.range' i todo } := by
  induction todo generalizing i out with
  | zero =>
      have hnil : slots.drop i = [] := List.drop_of_length_le (by omega)
      simp [pollLoop, hnil]
  | succ todo ih =>
      have hlt : i < slots.length := by omega
      have hmessage : messageAt slots i = .ok slots[i] := by
        simp [messageAt, List.getElem?_eq_getElem hlt]
      have hdrop : slots.drop i = slots[i] :: slots.drop (i + 1) :=
        List.drop_eq_getElem_cons hlt
      rw [pollLoop, hmessage, ok_bind, hf, ok_bind, ih (i + 1) _ (by omega), hdrop,
        List.flatMap_cons, List.range'_succ, List.append_assoc, List.append_assoc]
      rfl

/-- What holds of every result of the callback holds of every result of the loop, if the loop
ends at all. -/
theorem pollLoop_outputs {ω : Type} {clients : ClientTable}
    {callback : Option (ClientInfo → List UInt8 → Checked (List ω))} {P : ω → Prop}
    (hP : ∀ message outputs, dispatchMessage clients callback message = .ok outputs →
      ∀ x ∈ outputs, P x)
    {slots : List Message} {i todo : ℕ} {out out' : PollOutput ω}
    (hout : ∀ x ∈ out.outputs, P x) (h : pollLoop clients callback slots i todo out = .ok out') :
    ∀ x ∈ out'.outputs, P x := by
  induction todo generalizing i out with
  | zero =>
      obtain rfl := Except.ok.inj h
      exact hout
  | succ todo ih =>
      obtain ⟨message, -, h⟩ := bind_eq_ok.mp h
      obtain ⟨outputs, houtputs, h⟩ := bind_eq_ok.mp h
      refine ih ?_ h
      intro x hx
      rcases List.mem_append.mp hx with hx | hx
      · exact hout x hx
      · exact hP message outputs houtputs x hx

/-- A valid poll group: the count is the number of filled slots, and the loop goes through
all of them. -/
theorem poll_batch {ω : Type} (self : UdpServer)
    {callback : Option (ClientInfo → List UInt8 → Checked (List ω))} {f : Message → List ω}
    (hf : ∀ message, dispatchMessage self.clients callback message = .ok (f message))
    (batch : Batch) :
    self.poll callback batch.received
      = .ok { outputs := batch.messages.flatMap f
              released := List.range batch.messages.length } := by
  have hlen : batch.messages.length ≤ 32 := batch.length_le
  have hcount : ((batch.messages.length : ℤ) % 2 ^ 32).toNat = batch.messages.length := by
    omega
  unfold poll Batch.received
  simp only [hcount]
  rw [pollLoop_eq hf batch.messages 0 _ _ (Nat.zero_add _), List.drop_zero,
    List.range_eq_range']
  rfl

end UdpServer

end KbNetworking
