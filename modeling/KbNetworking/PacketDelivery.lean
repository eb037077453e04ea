/-
# End-to-end delivery of a packet

From `serialize_packet` on one side to the handler on the other.  For each serializer the
buffer is a header followed by the payload, so what a receiver does with it is decided by
`dispatch_headerBytes_append`: the serialization byte must be the receiver's, and the type
that decides which handler runs is the one in the *wire* header.

* The msgpack serializer writes the header it keeps in memory, so every packet is delivered
  to the handler of its type (`msgpack_endToEnd`).
* The binary serializer writes the type `unknown` to the wire whatever type it was given,
  so a packet is delivered exactly when its type is `unknown` (`binary_endToEnd_iff`).
-/
import KbNetworking.UdpPacketClient

namespace KbNetworking

open Cpp

variable {Obj Payload : Type}

/-! ## What delivery means -/

/-- A server that binds `t` runs the handler bound to `t`, once, with `payload`, and no
other handler, when it receives `buffer` from any client. -/
def ServerDelivers (serializer : PacketSerializer Obj Payload) (t : PacketType)
    (payload : Payload) (buffer : List UInt8) : Prop :=
  ∀ (H : Type) (handlers : HandlerTable H) (handler : H), handlers[t]? = some handler →
    ∀ client : ClientInfo,
      UdpPacketServer.handlePacket { packetHandlers := handlers, serializer := serializer }
          client buffer
        = .ok { returned := true, invoked := [⟨handler, client.conn, payload⟩] }

/-- A client that binds `t` and has no pre-handler runs the handler bound to `t`, once,
with `payload`, and no other handler, when it receives `buffer`. -/
def ClientDelivers (serializer : PacketSerializer Obj Payload) (t : PacketType)
    (payload : Payload) (buffer : List UInt8) : Prop :=
  ∀ (H : Type) (handlers : HandlerTable H) (handler : H), handlers[t]? = some handler →
    ∀ conn : Connection,
      UdpPacketClient.handleMessage
          { handlers := handlers, serializer := serializer } none ⟨conn, buffer⟩ ()
        = .ok ((), { returned := true, invoked := [(handler, payload)] })

/-- A connected client that sends the object hands exactly `buffer` to the transport. -/
def ClientHandsOver (serializer : PacketSerializer Obj Payload) (t : PacketType) (object : Obj)
    (buffer : List UInt8) : Prop :=
  ∀ (H : Type) (handlers : HandlerTable H) (c : ClientContext Unit) (reliable sent : Bool),
    c.self.interface = true → c.self.conn ≠ kInvalidConnection →
      UdpPacketClient.sendPacket { handlers := handlers, serializer := serializer } t object
          reliable sent c
        = .ok (c.record (.sendMessageToConnection c.self.conn buffer reliable sent), sent)

/-- A server that sends the object to a connection hands exactly `buffer` to the
transport. -/
def ServerHandsOver (serializer : PacketSerializer Obj Payload) (t : PacketType) (object : Obj)
    (buffer : List UInt8) : Prop :=
  ∀ (H : Type) (handlers : HandlerTable H) (conn : Connection) (c : ServerContext Unit)
      (reliable sent : Bool),
    UdpPacketServer.send { packetHandlers := handlers, serializer := serializer } conn t object
        reliable sent c
      = .ok (c.record (.sendMessageToConnection conn buffer reliable sent), sent)

/-- A server with clients that broadcasts the object hands exactly `buffer` to the transport
for each of them. -/
def ServerBroadcasts (serializer : PacketSerializer Obj Payload) (t : PacketType) (object : Obj)
    (buffer : List UInt8) : Prop :=
  ∀ (H : Type) (handlers : HandlerTable H) (c : ServerContext Unit) (reliable : Bool)
      (sent : Connection → Bool),
    c.self.clients.isEmpty = false →
      UdpPacketServer.broadcast { packetHandlers := handlers, serializer := serializer } t object
          reliable sent c
        = .ok ({ c with trace := c.trace ++ c.self.clients.keys.map fun conn =>
                  .sendMessageToConnection conn buffer reliable (sent conn) },
            c.self.clients.keys.all sent)

/-! ## Receiving a header and a body -/

/-- What a receiver does with a header followed by a body. -/
theorem dispatch_headerBytes_append {H : Type} (serializer : PacketSerializer Obj Payload)
    (handlers : HandlerTable H) (s : SerializationType) (t : PacketType) (body : List UInt8) :
    dispatch serializer handlers (headerBytes s t ++ body)
      = if s = serializer.serdeType then
          (handlers[t]?).bind fun handler =>
            (serializer.deserializePacket body).map fun payload => (handler, payload)
        else none := by
  have hdrop : (headerBytes s t ++ body).drop headerSize = body := by
    rw [List.drop_append_of_le_length (by simp), List.drop_of_length_le (by simp),
      List.nil_append]
  unfold dispatch
  rw [parseHeader_headerBytes_append, hdrop]
  by_cases hs : s = serializer.serdeType
  · cases hhandler : handlers[t]? with
    | none => simp [hs, InternalPacketHeader.create, hhandler]
    | some handler =>
        cases serializer.deserializePacket body <;>
          simp [hs, InternalPacketHeader.create, hhandler]
  · simp [hs, InternalPacketHeader.create, guard]

/-- A header of the receiver's serializer and a body that decodes are delivered on both
sides. -/
theorem delivers_headerBytes_append (serializer : PacketSerializer Obj Payload)
    (t : PacketType) {payload : Payload} {body : List UInt8}
    (hbody : serializer.deserializePacket body = some payload) :
    ServerDelivers serializer t payload (headerBytes serializer.serdeType t ++ body)
      ∧ ClientDelivers serializer t payload (headerBytes serializer.serdeType t ++ body) := by
  constructor
  · intro H handlers handler hhandler client
    rw [UdpPacketServer.handlePacket_eq, dispatch_headerBytes_append, if_pos rfl, hhandler,
      hbody]
    rfl
  · intro H handlers handler hhandler conn
    rw [UdpPacketClient.handleMessage_eq, dispatch_headerBytes_append, if_pos rfl, hhandler,
      hbody]
    rfl

/-! ## Sending a packet -/

/-- A 32-bit size does not shorten a buffer of less than `2 ^ 32` bytes. -/
theorem take_length_mod {buffer : List UInt8} (h : buffer.length < 2 ^ 32) :
    buffer.take (buffer.length % 4294967296) = buffer := by
  have hmod : buffer.length % 4294967296 = buffer.length := Nat.mod_eq_of_lt h
  rw [hmod, List.take_length]

/-- A serializer whose packets for the object carry `buffer`, on every connection, makes
every way of sending the object hand over `buffer`. -/
theorem handsOver_of_serializePacket {serializer : PacketSerializer Obj Payload}
    {t : PacketType} {object : Obj} {header : InternalPacketHeader} {buffer : List UInt8}
    (hser : ∀ conn, serializer.serializePacket conn t object = .ok ⟨header, buffer, conn⟩)
    (hlen : buffer.length < 2 ^ 32) :
    ClientHandsOver serializer t object buffer ∧ ServerHandsOver serializer t object buffer
      ∧ ServerBroadcasts serializer t object buffer := by
  refine ⟨?_, ?_, ?_⟩
  · intro H handlers c reliable sent hinterface hconn
    simp [UdpPacketClient.sendPacket, hser, UdpPacketClient.sendPacketInternal,
      UdpClient.sendRaw, hinterface, hconn, take_length_mod hlen]
  · intro H handlers conn c reliable sent
    simp [UdpPacketServer.send, hser, UdpPacketServer.sendPacketInternal, UdpServer.send,
      take_length_mod hlen]
  · intro H handlers c reliable sent hclients
    simp [UdpPacketServer.broadcast, hser, UdpPacketServer.broadcastPacketInternal,
      UdpServer.broadcast, hclients, UdpServer.broadcastLoop_eq, take_length_mod hlen]

/-! ## The msgpack serializer -/

/-- End-to-end delivery of the object `x` as a msgpack packet of type `t`: the wire header
is the header in memory, the bytes after it decode to `x`, a buffer short enough to be sent
is handed over whole and delivered in both directions, and a binary receiver runs no
handler for it. -/
def MsgpackEndToEnd {Obj : Type} (m : Msgpack Obj) (conn : Connection) (t : PacketType)
    (x : Obj) : Prop :=
  ∃ packet, (msgpackPacketSerializer m).serializePacket conn t x = .ok packet
    ∧ unpackInternalPacketHeader packet.buffer = .ok (some packet.header)
    ∧ packet.header.serdeType = .msgpack ∧ packet.header.packetType = t
    ∧ (msgpackPacketSerializer m).deserializePacket (packet.buffer.drop 8) = some x
    ∧ (packet.buffer.length < 2 ^ 32 →
        (ClientHandsOver (msgpackPacketSerializer m) t x packet.buffer
          ∧ ServerDelivers (msgpackPacketSerializer m) t x packet.buffer)
        ∧ (ServerHandsOver (msgpackPacketSerializer m) t x packet.buffer
          ∧ ServerBroadcasts (msgpackPacketSerializer m) t x packet.buffer
          ∧ ClientDelivers (msgpackPacketSerializer m) t x packet.buffer))
    ∧ ∀ (H : Type) (handlers : HandlerTable H) (client : ClientInfo),
        UdpPacketServer.handlePacket
            { packetHandlers := handlers, serializer := binaryPacketSerializer } client
            packet.buffer = .ok .rejected
        ∧ UdpPacketClient.handleMessage
            { handlers := handlers, serializer := binaryPacketSerializer } none
            ⟨client.conn, packet.buffer⟩ () = .ok ((), .rejected)

/-- **Msgpack end-to-end delivery**, for every packet type, connection and object, of any
msgpack library that reads back what it packed. -/
theorem msgpack_endToEnd {Obj : Type} (m : Msgpack Obj)
    (hunpack : ∀ x, m.unpack (m.pack x) = some x) (conn : Connection) (t : PacketType)
    (x : Obj) : MsgpackEndToEnd m conn t x := by
  have hser : ∀ conn, (msgpackPacketSerializer m).serializePacket conn t x
      = .ok ⟨.create .msgpack t, headerBytes .msgpack t ++ m.pack x, conn⟩ := by
    intro conn
    exact MsgpackPacketSerializer.serializePacketInternal_eq m conn t x
  have hdrop : (headerBytes .msgpack t ++ m.pack x).drop 8 = m.pack x :=
    List.drop_left' (length_headerBytes .msgpack t)
  obtain ⟨hserver, hclient⟩ :=
    delivers_headerBytes_append (msgpackPacketSerializer m) t (hunpack x)
  refine ⟨_, hser conn, ?_, rfl, rfl, ?_, ?_, ?_⟩
  · rw [unpackInternalPacketHeader_eq, parseHeader_headerBytes_append]
  · show m.unpack _ = some x
    rw [hdrop, hunpack]
  · intro hlen
    obtain ⟨hclientSend, hserverSend, hbroadcast⟩ := handsOver_of_serializePacket hser hlen
    exact ⟨⟨hclientSend, hserver⟩, hserverSend, hbroadcast, hclient⟩
  · intro H handlers client
    have hother : SerializationType.msgpack ≠ binaryPacketSerializer.serdeType := by decide
    rw [UdpPacketServer.handlePacket_eq, UdpPacketClient.handleMessage_eq]
    simp only [dispatch_headerBytes_append, if_neg hother, and_self]

/-- msgpack on the structure `{ packet_id }` with an id below 128: a one-element array
holding a positive fixint. -/
def fixintMsgpack : Msgpack (Fin 128) where
  pack := fun x => [0x91, UInt8.ofNat x.val]
  unpack := fun bytes =>
    match bytes with
    | [0x91, b] => if h : b.toNat < 128 then some ⟨b.toNat, h⟩ else none
    | _ => none

/-- The packet of the round-trip test: type 1000, id 20. -/
theorem msgpack_endToEnd_ping : MsgpackEndToEnd fixintMsgpack 12345 1000 20 :=
  msgpack_endToEnd fixintMsgpack (by decide) 12345 1000 20

/-! ## The binary serializer -/

/-- End-to-end delivery of an object with bytes `v` as a binary packet of type `t`: the
buffer is an eight-byte header followed by `v`, the wire header is the header in memory and
names the type `t`, every way of sending hands a buffer that is short enough over whole, and
the buffer is delivered in both directions. -/
def BinaryEndToEnd (conn : Connection) (t : PacketType) (v : List UInt8) : Prop :=
  ∃ packet, binaryPacketSerializer.serializePacket conn t v = .ok packet
    ∧ (∃ header : List UInt8, header.length = 8 ∧ packet.buffer = header ++ v)
    ∧ unpackInternalPacketHeader packet.buffer = .ok (some packet.header)
    ∧ packet.header.serdeType = .bin ∧ packet.header.packetType = t
    ∧ (packet.buffer.length < 2 ^ 32 →
        ClientHandsOver binaryPacketSerializer t v packet.buffer
        ∧ ServerHandsOver binaryPacketSerializer t v packet.buffer)
    ∧ ServerDelivers binaryPacketSerializer t v packet.buffer
    ∧ ClientDelivers binaryPacketSerializer t v packet.buffer

/-- **Binary end-to-end delivery holds exactly for packets of type `unknown`.** -/
theorem binary_endToEnd_iff (conn : Connection) (t : PacketType) (v : List UInt8) :
    BinaryEndToEnd conn t v ↔ t = .unknown := by
  have hser : ∀ conn, binaryPacketSerializer.serializePacket conn t v
      = .ok ⟨.create .bin t, headerBytes .bin .unknown ++ v, conn⟩ := by
    intro conn
    exact BinaryPacketSerializer.serialize_eq conn v t
  have hparse : unpackInternalPacketHeader (headerBytes .bin .unknown ++ v)
      = .ok (some (.create .bin .unknown)) := by
    rw [unpackInternalPacketHeader_eq, parseHeader_headerBytes_append]
  constructor
  · rintro ⟨packet, hpacket, -, hheader, -, htype, -⟩
    rw [hser conn, Except.ok.injEq] at hpacket
    subst hpacket
    -- the wire header names `unknown`, the header in memory names `t`
    rw [hparse, Except.ok.injEq, Option.some.injEq] at hheader
    exact (congrArg InternalPacketHeader.packetType hheader).symm
  · rintro rfl
    have hbody : binaryPacketSerializer.deserializePacket v = some v := rfl
    obtain ⟨hserver, hclient⟩ := delivers_headerBytes_append _ .unknown hbody
    refine ⟨_, hser conn, ⟨_, length_headerBytes .bin .unknown, rfl⟩, hparse, rfl, rfl, ?_,
      hserver, hclient⟩
    intro hlen
    obtain ⟨hclientSend, hserverSend, -⟩ := handsOver_of_serializePacket hser hlen
    exact ⟨hclientSend, hserverSend⟩

/-- The packet of the round-trip test: its type 1000 does not reach the wire. -/
theorem not_binary_endToEnd_ping : ¬ BinaryEndToEnd 12345 1000 [20, 0, 0, 0] := by
  rintro ⟨packet, hpacket, -, hheader, -⟩
  have hwire : binaryPacketSerializer.serializePacket 12345 1000 [20, 0, 0, 0]
      = .ok ⟨.create .bin 1000, [0x4B, 0x42, 0x4C, 0, 0, 0, 0, 0, 20, 0, 0, 0], 12345⟩ := rfl
  rw [hwire, Except.ok.injEq] at hpacket
  subst hpacket
  have hparse : unpackInternalPacketHeader [0x4B, 0x42, 0x4C, 0, 0, 0, 0, 0, 20, 0, 0, 0]
      = .ok (some (.create .bin 0)) := rfl
  rw [hparse] at hheader
  revert hheader
  decide

end KbNetworking
