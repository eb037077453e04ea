/-
# A packet server and its clients

The packet server and any number of packet clients, each in a process of its own, with the
transport between them.  A session is one connection: the client at its far end and a
channel in each direction.  What an endpoint hands to the transport goes into a channel, a
message arrives some time later, and a poll takes what has arrived: the server up to 32
messages of any of its live connections, in any order among them, a client up to 16 of its
own.  The handlers of the server may send packets back to the sender while they run.

The server accepts, drops and loses connections as `UdpServer` does, and a message whose
sender is not in its client table is dropped silently.  `Registered` is why this never
happens here: a connection whose messages a poll gets is live.
-/
import KbNetworking.Lib.Channel
import KbNetworking.ReceivePipeline
import KbNetworking.ServerLiveClients
import KbNetworking.UdpPacketClient

namespace KbNetworking

open Cpp

variable {Obj H : Type}

/-! ## The endpoints -/

/-- What an application hands over: an object as a packet, or bytes of its own. -/
inductive Sending (Obj : Type) : Type where
  | packet (packetType : PacketType) (object : Obj)
  | raw (data : List UInt8)

/-- A packet that a handler sends back. -/
structure Reply (Obj : Type) where
  packetType : PacketType
  object : Obj
  reliable : Bool

/-- A packet server and its clients as their applications set them up: the msgpack library,
the handlers that are bound on each side, and what the handlers of the server send back. -/
structure PacketSystem (Obj H : Type) where
  msgpack : Msgpack Obj
  serverHandlers : HandlerTable H
  clientHandlers : Connection → HandlerTable H
  replies : H → Obj → List (Reply Obj)
  parseString : String → Option SteamNetworkingIPAddr

namespace PacketSystem

/-- `UdpPacketServer<serialization_type_t::msgpack>`. -/
def server (sys : PacketSystem Obj H) : UdpPacketServer Obj Obj H :=
  { packetHandlers := sys.serverHandlers, serializer := msgpackPacketSerializer sys.msgpack }

/-- `UdpPacketClient<serialization_type_t::msgpack>`, at the far end of a connection. -/
def client (sys : PacketSystem Obj H) (conn : Connection) : UdpPacketClient Obj Obj H :=
  { handlers := sys.clientHandlers conn, serializer := msgpackPacketSerializer sys.msgpack }

end PacketSystem

/-! ## Sessions -/

/-- One connection: the client, what is on its way up to the server and down from it, and
the handlers that were run for it at either end.  `requests` and `responses` are what the two
applications were told was sent; nothing reads them. -/
structure Session (Obj H : Type) where
  client : ClientContext Unit
  up : Channel (List UInt8) := {}
  down : Channel (List UInt8) := {}
  handledUp : List (H × Obj) := []
  handledDown : List (H × Obj) := []
  requests : List (Bool × Sending Obj) := []
  responses : List (Bool × Sending Obj) := []

/-- What the client and the transport can do on a connection. -/
inductive SessionAction (Obj : Type) : Type where
  | send (x : Sending Obj) (reliable sent : Bool)
  | poll (count : ℕ)
  | stop
  | event (event : StatusEvent)
  | arriveUp
  | arriveUpLoose (data : List UInt8)
  | arriveDown
  | arriveDownLoose (data : List UInt8)

/-- A message that the transport took from the client. -/
def ClientEffect.message : ClientEffect Unit → Option (Bool × List UInt8)
  | .sendMessageToConnection _ data reliable true => some (reliable, data)
  | _ => none

namespace Session

/-- `send_packet`, or `send_raw` where the peer has no packet layer. -/
def sendOn (client : UdpPacketClient Obj Obj H) (x : Sending Obj) (reliable sent : Bool)
    (c : ClientContext Unit) : Checked (ClientContext Unit × Bool) :=
  match x with
  | .packet packetType object => client.sendPacket packetType object reliable sent c
  | .raw data => .ok (UdpClient.sendRaw data reliable sent c)

/-- The client went on to `c`: what it handed to the transport is on its way. -/
def settle (s : Session Obj H) (c : ClientContext Unit) : Session Obj H :=
  { s with
    client := c
    up := s.up.send ((c.trace.drop s.client.trace.length).filterMap ClientEffect.message) }

/-- What `ReceiveMessagesOnConnection` finds: a client without a connection has no messages. -/
def received (s : Session Obj H) (count : ℕ) : List (Bool × List UInt8) :=
  if s.client.self.interface && s.client.self.conn != kInvalidConnection then
    s.down.waiting.take (min count UdpClient.kDefaultPollMessageCount)
  else []

/-- `poll`, up to `RunCallbacks`. -/
def poll (client : UdpPacketClient Obj Obj H) (count : ℕ) (s : Session Obj H) :
    Checked (Session Obj H) :=
  if s.client.self.running then do
    let slots := (s.received count).map Prod.snd
    let output ← s.client.self.pollMessages (some (client.dataCallback true))
      { count := slots.length, slots := slots }
    return { s with
      down := s.down.take slots.length
      handledDown := s.handledDown ++ output.outputs }
  else .ok s

/-- What happens on a connection; there is no step into a fault. -/
def step (client : UdpPacketClient Obj Obj H) (s : Session Obj H) :
    SessionAction Obj → Option (Session Obj H)
  | .send x reliable sent =>
      match sendOn client x reliable sent s.client with
      | .ok (c, true) => some { s.settle c with requests := s.requests ++ [(reliable, x)] }
      | .ok (c, false) => some (s.settle c)
      | .error _ => none
  | .poll count => (s.poll client count).toOption
  | .stop => some (s.settle (UdpClient.stop () s.client))
  | .event event =>
      if s.client.sInstance = some () then
        some (s.settle (UdpClient.onConnectionStatusChanged event s.client))
      else some s
  | .arriveUp => s.up.arrive.map fun up => { s with up := up }
  | .arriveUpLoose data => (s.up.arriveLoose data).map fun up => { s with up := up }
  | .arriveDown => s.down.arrive.map fun down => { s with down := down }
  | .arriveDownLoose data => (s.down.arriveLoose data).map fun down => { s with down := down }

end Session

/-! ## The server's side -/

/-- One call of the server's application, or of a handler, for one connection. -/
structure Posting (Obj : Type) where
  conn : Connection
  sending : Sending Obj
  reliable : Bool
  sent : Bool

/-- What the application was told was sent to a connection. -/
def Posting.sentTo (conn : Connection) (x : Posting Obj) : Option (Bool × Sending Obj) :=
  if x.conn = conn ∧ x.sent = true then some (x.reliable, x.sending) else none

/-- A message for the connection that the transport took from the server. -/
def ServerEffect.messageTo (conn : Connection) : ServerEffect → Option (Bool × List UInt8)
  | .sendMessageToConnection k data reliable true => if k = conn then some (reliable, data) else none
  | _ => none

namespace PacketSystem

variable (sys : PacketSystem Obj H)

/-- `send`, of the packet server or of the underlying server. -/
def post (x : Posting Obj) (c : ServerContext Unit) : Checked (ServerContext Unit × Bool) :=
  match x.sending with
  | .packet packetType object =>
      sys.server.send x.conn packetType object x.reliable x.sent c
  | .raw data =>
      .ok (UdpServer.send x.conn data (UInt32.ofNat data.length) x.reliable x.sent c)

/-- Calls of `send` one after the other. -/
def postAll : List (Posting Obj) → ServerContext Unit → Checked (ServerContext Unit)
  | [], c => .ok c
  | x :: xs, c => do
      let (c, _) ← sys.post x c
      postAll xs c

/-- `broadcast`, of the packet server or of the underlying server. -/
def broadcast (x : Sending Obj) (reliable : Bool) (sent : Connection → Bool)
    (c : ServerContext Unit) : Checked (ServerContext Unit × Bool) :=
  match x with
  | .packet packetType object => sys.server.broadcast packetType object reliable sent c
  | .raw data => .ok (UdpServer.broadcast data (UInt32.ofNat data.length) reliable sent c)

/-- What the handlers that a poll ran send back, in the order in which they ran; `sent` is the
answer of the transport to each. -/
def answers (sent : ℕ → Bool) (runs : List (Invocation H Obj)) : List (Posting Obj) :=
  (runs.flatMap fun run => (sys.replies run.handler run.payload).map fun reply =>
    (run.conn, reply)).mapIdx fun i x =>
      { conn := x.1, sending := .packet x.2.packetType x.2.object, reliable := x.2.reliable,
        sent := sent i }

end PacketSystem

/-! ## The network -/

/-- The server's process and the sessions.  `calls` is what the server's application and
handlers sent, a broadcast once; nothing reads it. -/
structure PacketNetwork (Obj H : Type) where
  server : ServerContext Unit
  sessions : Connection → Option (Session Obj H)
  calls : List (Sending Obj) := []

/-- What can happen. -/
inductive NetworkAction (Obj : Type) : Type where
  | connect (conn : Connection) (client : ClientContext Unit) (address : String) (port : UInt16)
      (result : Connection)
  | session (conn : Connection) (a : SessionAction Obj)
  | control (operation : ServerOperation)
  | event (event : StatusEvent) (reply : AcceptReply)
  | poll (order : List Connection) (sent : ℕ → Bool)
  | send (x : Posting Obj)
  | broadcast (x : Sending Obj) (reliable : Bool) (sent : Connection → Bool)

/-- The calls that start and stop the server, and manage its connections. -/
def ServerOperation.isControl : ServerOperation → Bool
  | .startManual .. => true
  | .startAsync .. => true
  | .stop => true
  | .disconnect .. => true
  | .setClientConnectedCallback _ => true
  | .setClientDisconnectedCallback _ => true
  | _ => false

namespace PacketNetwork

/-- The server went on to `c`: what it handed to the transport is on its way. -/
def settle (n : PacketNetwork Obj H) (c : ServerContext Unit) (postings : List (Posting Obj))
    (calls : List (Sending Obj)) : PacketNetwork Obj H where
  server := c
  sessions := fun conn => (n.sessions conn).map fun s =>
    { s with
      down := s.down.send
        ((c.trace.drop n.server.trace.length).filterMap (ServerEffect.messageTo conn))
      responses := s.responses ++ postings.filterMap (Posting.sentTo conn) }
  calls := n.calls ++ calls

/-- The session of a connection goes on. -/
def putSession (n : PacketNetwork Obj H) (conn : Connection) (s : Session Obj H) :
    PacketNetwork Obj H :=
  { n with sessions := Function.update n.sessions conn (some s) }

@[simp] theorem putSession_self (n : PacketNetwork Obj H) (conn : Connection) (s : Session Obj H) :
    (n.putSession conn s).sessions conn = some s :=
  Function.update_self conn _ _

theorem putSession_of_ne (n : PacketNetwork Obj H) {conn k : Connection} (s : Session Obj H)
    (h : k ≠ conn) : (n.putSession conn s).sessions k = n.sessions k :=
  Function.update_of_ne h _ _

/-- The connection is in the poll group of the server. -/
def isLive (n : PacketNetwork Obj H) (conn : Connection) : Bool :=
  Ledger.live ServerEffect.assigns ServerEffect.ends n.server.trace conn

/-- The transport returns the next message of a connection. -/
def takeMessage (n : PacketNetwork Obj H) (conn : Connection) :
    Option (Message × PacketNetwork Obj H) :=
  if n.isLive conn then
    (n.sessions conn).bind fun s => s.up.waiting.head?.map fun x =>
      ({ conn := conn, data := x.2 }, n.putSession conn { s with up := s.up.take 1 })
  else none

/-- The messages that the transport returns, `order` telling whose they are. -/
def takeMessages : List Connection → PacketNetwork Obj H →
    Option (List Message × PacketNetwork Obj H)
  | [], n => some ([], n)
  | conn :: conns, n =>
      (n.takeMessage conn).bind fun (message, n) =>
        (takeMessages conns n).map fun (messages, n) => (message :: messages, n)

/-- The handlers that were run. -/
def handle (n : PacketNetwork Obj H) (runs : List (Invocation H Obj)) : PacketNetwork Obj H :=
  { n with sessions := fun conn => (n.sessions conn).map fun s =>
      { s with handledUp := s.handledUp ++ runs.filterMap fun run =>
          if run.conn = conn then some (run.handler, run.payload) else none } }

/-- `poll` of the server, up to `RunCallbacks`: the handlers run, and send their answers. -/
def poll (sys : PacketSystem Obj H) (order : List Connection) (sent : ℕ → Bool)
    (n : PacketNetwork Obj H) : Option (PacketNetwork Obj H) := do
  let (messages, taken) ← takeMessages order n
  if h : messages.length ≤ UdpServer.kMessageCount then
    let output ← (n.server.self.poll (some (sys.server.dataCallback true))
      (UdpServer.receiveMessagesOnPollGroup n.server.self.pollGroup ⟨messages, h⟩)).toOption
    let postings := sys.answers sent output.outputs
    let c ← (sys.postAll postings n.server).toOption
    return (taken.handle output.outputs).settle c postings (postings.map Posting.sending)
  else none

/-- What happens; there is no step into a fault. -/
def step (sys : PacketSystem Obj H) (n : PacketNetwork Obj H) :
    NetworkAction Obj → Option (PacketNetwork Obj H)
  | .connect conn client address port result =>
      match n.sessions conn, UdpClient.connect sys.parseString () address port result client with
      | none, .ok (c, true) => some (n.putSession conn { client := c })
      | _, _ => none
  | .session conn a =>
      (n.sessions conn).bind fun s => (s.step (sys.client conn) a).map (n.putSession conn)
  | .control operation =>
      if operation.isControl then
        (operation.run () n.server).toOption.map fun c => n.settle c [] []
      else none
  | .event event reply =>
      if n.server.sInstance = some () then
        some (n.settle (UdpServer.onConnectionStatusChanged event reply n.server) [] [])
      else some n
  | .poll order sent => poll sys order sent n
  | .send x =>
      (sys.post x n.server).toOption.map fun c => n.settle c.1 [x] [x.sending]
  | .broadcast x reliable sent =>
      (sys.broadcast x reliable sent n.server).toOption.map fun c =>
        n.settle c.1 (n.server.self.clients.keys.map fun conn => ⟨conn, x, reliable, sent conn⟩) [x]

end PacketNetwork

/-- The network: at first a server at rest, with the callback that `create` installs, and no
connections. -/
def packetNetwork (sys : PacketSystem Obj H) :
    Machine (PacketNetwork Obj H) (NetworkAction Obj) where
  init :=
    { server := { sInstance := none, self := { dataReceivedCallback := true }, trace := [] }
      sessions := fun _ => none }
  step := PacketNetwork.step sys

/-! ## What the calls hand over -/

namespace PacketSystem

variable (sys : PacketSystem Obj H)

/-- The bytes of a packet, with its header, or the application's own. -/
def bytes : Sending Obj → List UInt8
  | .packet packetType object => headerBytes .msgpack packetType ++ sys.msgpack.pack object
  | .raw data => data

/-- What the transport is given of them: the size is converted to 32 bits. -/
def message (x : Sending Obj) : List UInt8 :=
  (sys.bytes x).take (UInt32.ofNat (sys.bytes x).length).toNat

/-- A size below `2 ^ 32` is converted to itself. -/
theorem message_of_lt {x : Sending Obj} (h : (sys.bytes x).length < 2 ^ 32) :
    sys.message x = sys.bytes x := by
  rw [message, UInt32.toNat_ofNat_of_lt' h, List.take_length]

/-- The packet of an object, on any connection. -/
theorem serializePacket_eq (conn : Connection) (packetType : PacketType) (object : Obj) :
    (msgpackPacketSerializer sys.msgpack).serializePacket conn packetType object
      = .ok { header := .create .msgpack packetType
              buffer := sys.bytes (.packet packetType object)
              conn := conn } :=
  MsgpackPacketSerializer.serializePacketInternal_eq sys.msgpack conn packetType object

/-- The call on the transport that a posting makes. -/
def call (x : Posting Obj) : ServerEffect :=
  .sendMessageToConnection x.conn (sys.message x.sending) x.reliable x.sent

theorem post_eq (x : Posting Obj) (c : ServerContext Unit) :
    sys.post x c = .ok (c.record (sys.call x), x.sent) := by
  obtain ⟨conn, sending, reliable, sent⟩ := x
  cases sending with
  | packet packetType object =>
      simp only [post, server, UdpPacketServer.send, serializePacket_eq, ok_bind]
      rfl
  | raw data => rfl

theorem postAll_eq (xs : List (Posting Obj)) (c : ServerContext Unit) :
    sys.postAll xs c = .ok { c with trace := c.trace ++ xs.map sys.call } := by
  induction xs generalizing c with
  | nil => simp [postAll]
  | cons x xs ih => simp [postAll, post_eq, ih, Context.record]

/-- A broadcast posts to every connection of the table. -/
theorem broadcast_eq (x : Sending Obj) (reliable : Bool) (sent : Connection → Bool)
    (c : ServerContext Unit) :
    ∃ ok, sys.broadcast x reliable sent c
      = .ok ({ c with trace := c.trace ++ (c.self.clients.keys.map fun conn =>
          (⟨conn, x, reliable, sent conn⟩ : Posting Obj)).map sys.call }, ok) := by
  have hraw : sys.broadcast x reliable sent c
      = .ok (UdpServer.broadcast (sys.bytes x) (UInt32.ofNat (sys.bytes x).length) reliable sent
          c) := by
    cases x with
    | packet packetType object =>
        simp only [broadcast, server, UdpPacketServer.broadcast, serializePacket_eq, ok_bind]
        rfl
    | raw data => rfl
  rw [hraw, List.map_map]
  unfold UdpServer.broadcast
  split
  · rename_i hempty
    have hkeys : c.self.clients.keys = [] := by
      simpa [ClientTable.isEmpty, ClientTable.keys] using hempty
    exact ⟨false, by rw [hkeys]; simp⟩
  · rw [UdpServer.broadcastLoop_eq]
    exact ⟨_, rfl⟩

/-- What the postings put on their way to a connection. -/
theorem filterMap_messageTo (conn : Connection) (xs : List (Posting Obj)) :
    (xs.map sys.call).filterMap (ServerEffect.messageTo conn)
      = (xs.filterMap (Posting.sentTo conn)).map (Prod.map id sys.message) := by
  rw [List.filterMap_map, List.map_filterMap]
  congr 1
  funext x
  obtain ⟨k, sending, reliable, sent⟩ := x
  cases sent <;> by_cases hk : k = conn <;>
    simp [call, ServerEffect.messageTo, Posting.sentTo, hk]

/-- What a client's send does: nothing without a connection. -/
theorem sendOn_eq (conn : Connection) (x : Sending Obj) (reliable sent : Bool)
    (c : ClientContext Unit) :
    Session.sendOn (sys.client conn) x reliable sent c
      = .ok (if !c.self.interface || c.self.conn = kInvalidConnection then (c, false)
        else (c.record (.sendMessageToConnection c.self.conn (sys.message x) reliable sent),
          sent)) := by
  cases x with
  | packet packetType object =>
      simp only [Session.sendOn, client, UdpPacketClient.sendPacket, serializePacket_eq, ok_bind]
      rfl
  | raw data => rfl

end PacketSystem

/-! ## What the other calls of the server do -/

namespace UdpServer

/-- A status event sends nothing. -/
theorem isTraffic_eventCalls (event : StatusEvent) (reply : AcceptReply) (self : UdpServer) :
    ∀ x ∈ eventCalls event reply self, x.isTraffic = false := by
  intro x hx
  rcases mem_eventCalls hx with ⟨client, -, rfl⟩ | ⟨-, rfl⟩ | ⟨accepted, rfl⟩ | ⟨assigned, rfl, -⟩
      | rfl | rfl | ⟨client, -, rfl⟩ <;> rfl

theorem isTraffic_startCalls (port : UInt16) (reply : StartReply) :
    ∀ x ∈ startCalls port reply, x.isTraffic = false := by
  unfold startCalls
  split <;> simp [ServerEffect.isTraffic]

theorem isTraffic_stopCalls (self : UdpServer) : ∀ x ∈ stopCalls self, x.isTraffic = false := by
  unfold stopCalls shutCalls
  split_ifs <;> simp +contextual [ServerEffect.isTraffic, or_imp]

/-- A member call keeps every live connection in the table. -/
theorem registered_run {operation : ServerOperation} {c c' : ServerContext Unit}
    (h : Registered c) (hrun : operation.run () c = .ok c') : Registered c' := by
  rcases ServerOperation.run_cases hrun with ⟨port, reply, thread, -, hrest, rfl⟩
      | ⟨-, rfl⟩ | ⟨conn, reason, -, rfl⟩ | ⟨hsame, -⟩
  · exact registered_start h hrest port reply thread
  · exact registered_stop h
  · exact registered_disconnect h conn reason
  · obtain ⟨xs, htrace, hxs⟩ := hsame.trace
    refine h.of_append htrace ?_ hsame.clients (fun hrest => ?_) (fun hpointer => ?_)
      (groupMatches_congr hsame.isRunning hsame.pollGroup h.group)
    · intro x hx conn
      have htraffic := hxs x hx
      cases x <;> first | rfl | cases htraffic
    · rwa [hsame.isRunning] at hrest
    · rw [hsame.sInstance] at hpointer
      rw [hsame.isRunning]
      exact h.pointer hpointer

/-- Postings keep it too. -/
theorem registered_post {c : ServerContext Unit} (h : Registered c) (sys : PacketSystem Obj H)
    (xs : List (Posting Obj)) : Registered { c with trace := c.trace ++ xs.map sys.call } := by
  refine h.of_append rfl ?_ rfl id h.pointer h.group
  intro x hx conn
  obtain ⟨posting, -, rfl⟩ := List.mem_map.mp hx
  rfl

end UdpServer

/-- Starting, stopping and managing connections sends nothing. -/
theorem ServerOperation.run_control {operation : ServerOperation} {c c' : ServerContext Unit}
    (hcontrol : operation.isControl = true) (hrun : operation.run () c = .ok c') :
    ∃ xs, c'.trace = c.trace ++ xs ∧ ∀ x ∈ xs, x.isTraffic = false := by
  cases operation with
  | startManual port reply =>
      obtain rfl := Except.ok.inj hrun
      rw [UdpServer.startManual_eq]
      split
      · exact ⟨[], by simp, by simp⟩
      · exact ⟨_, rfl, UdpServer.isTraffic_startCalls port reply⟩
  | startAsync port reply =>
      obtain ⟨started, hstart⟩ := run_startAsync hrun
      obtain ⟨d, hd, hc'⟩ := UdpServer.startAsync_cases hstart
      have htrace : c'.trace = d.trace := by rcases hc' with ⟨-, rfl⟩ | ⟨-, -, rfl⟩ <;> rfl
      rw [htrace]
      rw [UdpServer.startManual_eq] at hd
      split at hd
      · obtain ⟨rfl, -⟩ := Prod.mk.inj hd
        exact ⟨[], by simp, by simp⟩
      · obtain ⟨rfl, -⟩ := Prod.mk.inj hd
        exact ⟨_, rfl, UdpServer.isTraffic_startCalls port reply⟩
  | stop =>
      obtain rfl := Except.ok.inj hrun
      rw [UdpServer.stop_eq]
      exact ⟨_, rfl, UdpServer.isTraffic_stopCalls c.self⟩
  | disconnect conn reason =>
      obtain rfl := Except.ok.inj hrun
      exact ⟨_, rfl, by simp [ServerEffect.isTraffic]⟩
  | setClientConnectedCallback isSet =>
      obtain rfl := Except.ok.inj hrun
      exact ⟨[], by simp, by simp⟩
  | setClientDisconnectedCallback isSet =>
      obtain rfl := Except.ok.inj hrun
      exact ⟨[], by simp, by simp⟩
  | _ => cases hcontrol

end KbNetworking
