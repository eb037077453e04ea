/-
# The UDP client

`UdpClient` member by member (`udp_client.hpp`, `udp_client.cpp`, `network_utils.cpp`).  A
member function runs in a `ClientContext`: the process-wide pointer `s_instance`, the
object itself, and a trace of the calls made on the transport, of the data callbacks and of
the writes to `s_instance`, with the client that made them where it matters.  The answers of
the transport are arguments; its address parser `ParseString` is a parameter.
-/
import KbNetworking.UdpServer

namespace KbNetworking

open Cpp

/-- `UdpClient::connection_status_t`. -/
inductive ConnectionStatus : Type where
  | disconnected
  | connecting
  | connected
  | failedToConnect
  deriving DecidableEq, Repr

/-- Where the client calls `CloseConnection`. -/
inductive ClientCloseSite : Type where
  | stop
  | closedOrProblem
  deriving DecidableEq, Repr

/-- The reason code, the debug text and the linger flag passed at each site. -/
def ClientCloseSite.arguments : ClientCloseSite → Int × Option String × Bool
  | .stop => (0, some "UdpClient disconnecting", true)
  | .closedOrProblem => (0, none, false)

/-- A call on the transport with its answer, a write to `s_instance`, or an invocation of the
data callback. -/
inductive ClientEffect (ι : Type) : Type where
  | writeInstance (client : ι) (attach : Bool)
  | connectByIPAddress (client : ι) (address : SteamNetworkingIPAddr) (result : Connection)
  | closeConnection (site : ClientCloseSite) (conn : Connection)
  | sendMessageToConnection (conn : Connection) (data : List UInt8) (reliable : Bool)
      (sent : Bool)
  | receiveMessagesOnConnection (conn : Connection)
  | dataReceived (message : IncomingViewMessage)
  deriving DecidableEq, Repr

/-- The fields of a `UdpClient`; of the transport interface only whether it was fetched, of
the data callback only whether it is set. -/
structure UdpClient where
  running : Bool := false
  connectionStatus : ConnectionStatus := .disconnected
  networkThread : Thread := {}
  onDataReceived : Bool := false
  interface : Bool := false
  conn : Connection := kInvalidConnection
  deriving DecidableEq, Repr

/-- What a member function reads and writes. -/
abbrev ClientContext (ι : Type) := Context ι UdpClient (ClientEffect ι)

/-- `utils::is_valid_ip_address`. -/
def isValidIpAddress (parseString : String → Option SteamNetworkingIPAddr)
    (ipAddress : String) : Bool :=
  if ipAddress.isEmpty then false else (parseString ipAddress).isSome

namespace UdpClient

variable {ι : Type}

/-! ## Connecting -/

/-- `fmt::format("{}:{}", p_address, p_port)`. -/
def addressWithPort (address : String) (port : UInt16) : String :=
  address ++ ":" ++ toString port.toNat

/-- The address that `SteamNetworkingIPAddr::Clear` leaves. -/
def clearedAddress : SteamNetworkingIPAddr := { ip := .replicate 16 0, port := 0 }

/-- `try_connect`, on the object `me`; `result` is what `ConnectByIPAddress` returns. -/
def tryConnect (parseString : String → Option SteamNetworkingIPAddr) (me : ι)
    (address : String) (port : UInt16) (result : Connection) (c : ClientContext ι) :
    ClientContext ι × Bool :=
  let c := { c with self := { c.self with connectionStatus := .connecting, interface := true } }
  let c := { c.record (.writeInstance me true) with sInstance := some me }
  if isValidIpAddress parseString (addressWithPort address port) then
    let serverAddress := (parseString (addressWithPort address port)).getD clearedAddress
    let c := c.record (.connectByIPAddress me serverAddress result)
    let c := { c with self := { c.self with conn := result } }
    if result = kInvalidConnection then
      ({ c with self := { c.self with connectionStatus := .failedToConnect } }, false)
    else (c, true)
  else ({ c with self := { c.self with connectionStatus := .failedToConnect } }, false)

/-- `m_running.store(res);` -/
def storeRunning (res : Bool) (c : ClientContext ι) : ClientContext ι :=
  { c with self := { c.self with running := res } }

/-- `m_network_thread = std::thread([this] { network_loop(); });` -/
def startNetworkThread (c : ClientContext ι) : Checked (ClientContext ι) := do
  let networkThread ← c.self.networkThread.assign
  return { c with self := { c.self with networkThread := networkThread } }

/-- `connect`: the thread is started whatever `try_connect` returned. -/
def connect (parseString : String → Option SteamNetworkingIPAddr) (me : ι)
    (address : String) (port : UInt16) (result : Connection) (c : ClientContext ι) :
    Checked (ClientContext ι × Bool) :=
  if c.self.running then .ok (c, false)
  else
    match tryConnect parseString me address port result c with
    | (c, res) => do
        let c ← startNetworkThread (storeRunning res c)
        return (c, res)

/-! ## Stopping -/

/-- `if (m_conn != k_HSteamNetConnection_Invalid) { … }` -/
def closeOwnConnection (c : ClientContext ι) : ClientContext ι :=
  if c.self.conn = kInvalidConnection then c
  else
    { c.record (.closeConnection .stop c.self.conn) with
      self := { c.self with conn := kInvalidConnection } }

/-- `stop`: the instance pointer is cleared before the running flag is looked at. -/
def stop (me : ι) (c : ClientContext ι) : ClientContext ι :=
  let c := { c.record (.writeInstance me false) with sInstance := none }
  if c.self.running then
    closeOwnConnection { c with self := { c.self with
      running := false
      networkThread := c.self.networkThread.joinIfJoinable } }
  else c

/-- `~UdpClient`: `stop`, then the members are destroyed. -/
def destroy (me : ι) (c : ClientContext ι) : Checked (ClientContext ι) := do
  let c := stop me c
  c.self.networkThread.destroy
  return c

/-! ## Sending and receiving -/

/-- `send_raw`; the transport takes the length as a 32-bit value. -/
def sendRaw (data : List UInt8) (reliable sent : Bool) (c : ClientContext ι) :
    ClientContext ι × Bool :=
  if !c.self.interface || c.self.conn = kInvalidConnection then (c, false)
  else
    let size := UInt32.ofNat data.length
    (c.record (.sendMessageToConnection c.self.conn (data.take size.toNat) reliable sent), sent)

/-- `k_default_poll_message_count`. -/
def kDefaultPollMessageCount : ℕ := 16

/-- What `ReceiveMessagesOnConnection` returns: a count and the filled slots. -/
structure Received where
  count : ℤ
  slots : List (List UInt8)

/-- `messages[i]`. -/
def messageAt (slots : List (List UInt8)) (i : ℕ) : Checked (List UInt8) :=
  match slots[i]? with
  | some data => .ok data
  | none => .error (if i < kDefaultPollMessageCount then .uninitialised else .outOfBounds)

/-- The callback loop of `poll_messages`, from slot `i` with `todo` slots to go. -/
def deliverLoop {ω : Type} (conn : Connection)
    (callback : IncomingViewMessage → Checked (List ω)) (slots : List (List UInt8)) :
    ℕ → ℕ → List ω → Checked (List ω)
  | _, 0, out => .ok out
  | i, todo + 1, out => do
      let data ← messageAt slots i
      let outputs ← callback { conn := conn, buffer := data }
      deliverLoop conn callback slots (i + 1) todo (out ++ outputs)

/-- The first loop of `poll_messages`, which runs only when the callback is set. -/
def deliverMessages {ω : Type} (conn : Connection)
    (callback : Option (IncomingViewMessage → Checked (List ω))) (slots : List (List UInt8))
    (messageCount : ℕ) : Checked (List ω) :=
  match callback with
  | none => .ok []
  | some call => deliverLoop conn call slots 0 messageCount []

/-- The release loop of `poll_messages`. -/
def releaseLoop (slots : List (List UInt8)) : ℕ → ℕ → List ℕ → Checked (List ℕ)
  | _, 0, out => .ok out
  | i, todo + 1, out => do
      let _ ← messageAt slots i
      releaseLoop slots (i + 1) todo (out ++ [i])

/-- `poll_messages`: every message is delivered, then every message is released; the count
is converted to `size_t` by the comparisons. -/
def pollMessages {ω : Type} (self : UdpClient)
    (callback : Option (IncomingViewMessage → Checked (List ω))) (received : Received) :
    Checked (UdpServer.PollOutput ω) :=
  if !self.interface || self.conn = kInvalidConnection then .ok {}
  else do
    let messageCount := (received.count % 2 ^ 64).toNat
    let outputs ← deliverMessages self.conn callback received.slots messageCount
    let released ← releaseLoop received.slots 0 messageCount []
    return { outputs := outputs, released := released }

theorem messageAt_eq {slots : List (List UInt8)} {i : ℕ} (h : i < slots.length) :
    messageAt slots i = .ok slots[i] := by
  simp [messageAt, List.getElem?_eq_getElem h]

/-- The first loop hands every message of the slots to the callback, in order. -/
theorem deliverLoop_eq {ω : Type} {conn : Connection}
    {callback : IncomingViewMessage → Checked (List ω)} {f : IncomingViewMessage → List ω}
    (hf : ∀ message, callback message = .ok (f message)) (slots : List (List UInt8))
    (i todo : ℕ) (out : List ω) (h : i + todo = slots.length) :
    deliverLoop conn callback slots i todo out
      = .ok (out ++ (slots.drop i).flatMap fun data => f { conn := conn, buffer := data }) := by
  induction todo generalizing i out with
  | zero =>
      have hnil : slots.drop i = [] := List.drop_of_length_le (by omega)
      simp [deliverLoop, hnil]
  | succ todo ih =>
      have hlt : i < slots.length := by omega
      rw [deliverLoop, messageAt_eq hlt, ok_bind, hf, ok_bind, ih (i + 1) _ (by omega),
        List.drop_eq_getElem_cons hlt, List.flatMap_cons, List.append_assoc]

/-- The second loop releases each slot once. -/
theorem releaseLoop_eq (slots : List (List UInt8)) (i todo : ℕ) (out : List ℕ)
    (h : i + todo = slots.length) :
    releaseLoop slots i todo out = .ok (out ++ List.range' i todo) := by
  induction todo generalizing i out with
  | zero => simp [releaseLoop]
  | succ todo ih =>
      rw [releaseLoop, messageAt_eq (by omega), ok_bind, ih (i + 1) _ (by omega),
        List.range'_succ, List.append_assoc]
      rfl

/-- A poll of a client with a connection and a callback, when the count is right. -/
theorem pollMessages_eq {ω : Type} {self : UdpClient}
    {callback : IncomingViewMessage → Checked (List ω)} {f : IncomingViewMessage → List ω}
    (hf : ∀ message, callback message = .ok (f message)) (hinterface : self.interface = true)
    (hconn : self.conn ≠ kInvalidConnection) {slots : List (List UInt8)}
    (hlen : slots.length < 2 ^ 64) :
    self.pollMessages (some callback) { count := slots.length, slots := slots }
      = .ok { outputs := slots.flatMap fun data => f { conn := self.conn, buffer := data }
              released := List.range slots.length } := by
  have hcount : ((slots.length : ℤ) % 2 ^ 64).toNat = slots.length := by omega
  simp only [pollMessages, hinterface, hconn, hcount, deliverMessages, Bool.not_true]
  rw [deliverLoop_eq hf slots 0 _ [] (by omega), ok_bind, releaseLoop_eq slots 0 _ [] (by omega),
    ok_bind, List.range_eq_range']
  rfl

/-- The user's callback, when it is set: it is recorded. -/
def userCallback (self : UdpClient) :
    Option (IncomingViewMessage → Checked (List IncomingViewMessage)) :=
  if self.onDataReceived then some fun message => .ok [message] else none

/-- What a poll adds to the trace. -/
def pollEntries (self : UdpClient) (received : Received) : Checked (List (ClientEffect ι)) := do
  let output ← self.pollMessages self.userCallback received
  return (if !self.interface || self.conn = kInvalidConnection then []
    else [.receiveMessagesOnConnection self.conn]) ++ output.outputs.map .dataReceived

/-- They are receives on the client's own valid handle and invocations of the callback. -/
theorem mem_pollEntries {self : UdpClient} {received : Received} {entries : List (ClientEffect ι)}
    (h : self.pollEntries received = .ok entries) {x : ClientEffect ι} (hx : x ∈ entries) :
    (self.conn ≠ kInvalidConnection ∧ x = .receiveMessagesOnConnection self.conn)
      ∨ ∃ message, x = .dataReceived message := by
  obtain ⟨output, -, h⟩ := bind_eq_ok.mp h
  obtain rfl := Except.ok.inj h
  rcases List.mem_append.mp hx with hx | hx
  · split at hx
    · cases hx
    · rename_i hready
      exact .inl ⟨by simp_all, List.mem_singleton.mp hx⟩
  · obtain ⟨message, -, rfl⟩ := List.mem_map.mp hx
    exact .inr ⟨message, rfl⟩

/-- `poll` up to `RunCallbacks`, given what `ReceiveMessagesOnConnection` left. -/
def poll (received : Received) (c : ClientContext ι) : Checked (ClientContext ι) :=
  if c.self.running then do
    let entries ← c.self.pollEntries received
    return { c with trace := c.trace ++ entries }
  else .ok c

/-! ## Connection status events -/

/-- `on_connection_status_changed`.  The handle of the event is closed; it is not compared
with the handle of the client. -/
def onConnectionStatusChanged (event : StatusEvent) (c : ClientContext ι) : ClientContext ι :=
  match event.state with
  | .none => c
  | .closedByPeer | .problemDetectedLocally =>
      let c := { c with self :=
        { c.self with running := false, connectionStatus := .failedToConnect } }
      let c := c.record (.closeConnection .closedOrProblem event.conn)
      { c with self :=
        { c.self with conn := kInvalidConnection, connectionStatus := .disconnected } }
  | .connecting => { c with self := { c.self with connectionStatus := .connecting } }
  | .connected => { c with self := { c.self with connectionStatus := .connected } }
  -- the switch has no case for this state
  | .findingRoute => c

/-! ## What the lifecycle functions do -/

/-- `try_connect` succeeds: the address parses and the transport returns a handle. -/
def attemptSucceeds (parseString : String → Option SteamNetworkingIPAddr) (address : String)
    (port : UInt16) (result : Connection) : Bool :=
  isValidIpAddress parseString (addressWithPort address port) && result != kInvalidConnection

/-- The calls of `try_connect` on the transport. -/
def attemptCalls (parseString : String → Option SteamNetworkingIPAddr) (me : ι)
    (address : String) (port : UInt16) (result : Connection) : List (ClientEffect ι) :=
  if isValidIpAddress parseString (addressWithPort address port) then
    [.connectByIPAddress me
      ((parseString (addressWithPort address port)).getD clearedAddress) result]
  else []

/-- The client after an attempt: it has a thread, whether or not the attempt succeeded. -/
def afterAttempt (parseString : String → Option SteamNetworkingIPAddr) (address : String)
    (port : UInt16) (result : Connection) (self : UdpClient) : UdpClient :=
  { self with
    running := attemptSucceeds parseString address port result
    connectionStatus :=
      if attemptSucceeds parseString address port result then .connecting else .failedToConnect
    networkThread := { joinable := true }
    interface := true
    conn :=
      if isValidIpAddress parseString (addressWithPort address port) then result else self.conn }

/-- `connect`: nothing while the client runs, `std::terminate` when it has a thread, else an
attempt. -/
theorem connect_eq (parseString : String → Option SteamNetworkingIPAddr) (me : ι)
    (address : String) (port : UInt16) (result : Connection) (c : ClientContext ι) :
    connect parseString me address port result c
      = if c.self.running then .ok (c, false)
        else if c.self.networkThread.joinable then .error .terminate
        else .ok ({ sInstance := some me
                    self := afterAttempt parseString address port result c.self
                    trace := c.trace ++ .writeInstance me true
                      :: attemptCalls parseString me address port result },
          attemptSucceeds parseString address port result) := by
  unfold connect
  split
  · rfl
  · unfold tryConnect startNetworkThread storeRunning
    cases hjoinable : c.self.networkThread.joinable with
    | true =>
        cases hvalid : isValidIpAddress parseString (addressWithPort address port) <;>
          by_cases hresult : result = kInvalidConnection <;>
            simp [hresult, Thread.assign_of_joinable hjoinable]
    | false =>
        cases hvalid : isValidIpAddress parseString (addressWithPort address port) <;>
          by_cases hresult : result = kInvalidConnection <;>
            simp [hvalid, hresult, Thread.assign_of_not_joinable hjoinable, afterAttempt,
              attemptCalls, attemptSucceeds, Context.record]

/-- The client after `stop`: only a running one is changed. -/
def afterStop (self : UdpClient) : UdpClient :=
  if self.running then
    { self with
      running := false
      networkThread := self.networkThread.joinIfJoinable
      conn := kInvalidConnection }
  else self

/-- The calls of `stop` on the transport: only a running client closes its connection. -/
def stopCalls (self : UdpClient) : List (ClientEffect ι) :=
  if self.running && self.conn != kInvalidConnection then [.closeConnection .stop self.conn]
  else []

/-- `stop`. -/
theorem stop_eq (me : ι) (c : ClientContext ι) :
    stop me c
      = { sInstance := none
          self := afterStop c.self
          trace := c.trace ++ .writeInstance me false :: stopCalls c.self } := by
  unfold stop closeOwnConnection afterStop stopCalls
  cases hrunning : c.self.running <;> by_cases hconn : c.self.conn = kInvalidConnection <;>
    simp [hrunning, hconn, Context.record]

/-- The client after a status event. -/
def afterEvent (event : StatusEvent) (self : UdpClient) : UdpClient :=
  match event.state with
  | .closedByPeer | .problemDetectedLocally =>
      { self with running := false, connectionStatus := .disconnected, conn := kInvalidConnection }
  | .connecting => { self with connectionStatus := .connecting }
  | .connected => { self with connectionStatus := .connected }
  | _ => self

/-- The calls of a status event on the transport. -/
def eventCalls (event : StatusEvent) : List (ClientEffect ι) :=
  if event.state.isClosed then [.closeConnection .closedOrProblem event.conn] else []

/-- `on_connection_status_changed`: the pointer is not looked at. -/
theorem onConnectionStatusChanged_eq (event : StatusEvent) (c : ClientContext ι) :
    onConnectionStatusChanged event c
      = { sInstance := c.sInstance
          self := afterEvent event c.self
          trace := c.trace ++ eventCalls event } := by
  unfold onConnectionStatusChanged afterEvent eventCalls
  cases event.state <;> simp [ConnectionState.isClosed, Context.record]

@[simp] theorem running_afterStop (self : UdpClient) : (afterStop self).running = false := by
  unfold afterStop
  split
  · rfl
  · simp_all

end UdpClient

end KbNetworking
