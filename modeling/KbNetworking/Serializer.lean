/-
# Packet serializers

`BasePacketSerializer` and its two implementations.  A trivially copyable object is the
list of its bytes, so its `sizeof` is the length of the list; the payload of the binary
serializer is a view of bytes.  msgpack is a library outside the repository: it enters as
its two functions `pack` and `unpack`, and the documented law `unpack (pack x) = x` is a
hypothesis where it is needed.

Both serializers are evaluated by the spec lemmas of the header writer and of the buffer
writers: `serialize_eq` and `MsgpackPacketSerializer.serializePacketInternal_eq` give the
whole packet, header and bytes.
-/
import KbNetworking.HeaderCodec

namespace KbNetworking

open Cpp

/-- What a packet endpoint uses of its serializer (`serializer_traits`,
`BasePacketSerializer`). -/
structure PacketSerializer (Obj Payload : Type) where
  serdeType : SerializationType
  serializePacket : Connection → PacketType → Obj → Checked InternalPacket
  deserializePacket : List UInt8 → Option Payload

namespace PacketSerializer

variable {Obj Payload : Type}

/-- What both clients and the server decode of a packet: the bytes behind its header. -/
def decodePayload (serializer : PacketSerializer Obj Payload) (buffer : List UInt8) :
    Checked (Option Payload) := do
  let payloadSize := sizeSub buffer.length headerSize
  let payloadBytes ← readRange buffer headerSize payloadSize
  return serializer.deserializePacket payloadBytes

theorem decodePayload_eq (serializer : PacketSerializer Obj Payload) {buffer : List UInt8}
    (h : headerSize ≤ buffer.length) :
    serializer.decodePayload buffer
      = .ok (serializer.deserializePacket (buffer.drop headerSize)) := by
  simp [decodePayload, sizeSub_of_le h, readRange_rest h]

end PacketSerializer

/-! ## The binary serializer -/

namespace BinaryPacketSerializer

/-- `BinaryPacketSerializer::serialize`.  The header written to the wire and the header
stored in the packet are built separately. -/
def serialize (conn : Connection) (data : List UInt8) (packetType : PacketType := .unknown) :
    Checked InternalPacket := do
  let dataSize := headerSize + data.length
  let buffer := allocate dataSize
  let (buffer, cursor) ← writeInternalPacketHeader buffer (.create .bin .unknown)
  let buffer ← copyLoop data cursor 0 data.length buffer
  let bytes ← contents buffer
  let header : InternalPacketHeader := { serdeType := .bin, packetType := packetType }
  return { header := header, buffer := bytes, conn := conn }

/-- `serialize_packet_internal`. -/
def serializePacketInternal (conn : Connection) (packetType : PacketType)
    (object : List UInt8) : Checked InternalPacket :=
  serialize conn object packetType

/-- `deserialize_packet_internal`: a view of the payload bytes. -/
def deserializePacketInternal (payload : List UInt8) : Option (List UInt8) := some payload

/-- `payload_as_internal<T>` with `sizeof(T) = size`: the bytes of the object. -/
def payloadAsInternal (size : ℕ) (payload : List UInt8) : Option (List UInt8) :=
  if payload.length ≠ size then none else some payload

/-- The bytes on the wire carry the packet type `unknown` whatever type was asked for; only
the header in memory carries the type. -/
theorem serialize_eq (conn : Connection) (data : List UInt8) (t : PacketType) :
    serialize conn data t
      = .ok { header := .create .bin t, buffer := headerBytes .bin .unknown ++ data,
              conn := conn } := by
  have hheader := writeInternalPacketHeader_filled (.create .bin .unknown) data.length
  have hcopy := copyLoop_filled data (headerBytes .bin .unknown) headerSize 0 data.length 0
    (by omega) (by simp)
  simp only [InternalPacketHeader.create, Nat.add_zero, List.drop_zero] at hheader hcopy
  rw [serialize, allocate_eq_filled]
  simp only [InternalPacketHeader.create, hheader, ok_bind, hcopy, contents_filled, pure_eq_ok]

end BinaryPacketSerializer

/-- `serializer_traits<serialization_type_t::bin>`. -/
def binaryPacketSerializer : PacketSerializer (List UInt8) (List UInt8) where
  serdeType := .bin
  serializePacket := BinaryPacketSerializer.serializePacketInternal
  deserializePacket := BinaryPacketSerializer.deserializePacketInternal

/-! ## The msgpack serializer -/

/-- What the serializer uses of the msgpack library; `unpack` is `none` when the library
throws. -/
structure Msgpack (Obj : Type) where
  pack : Obj → List UInt8
  unpack : List UInt8 → Option Obj

namespace MsgpackPacketSerializer

variable {Obj : Type} (m : Msgpack Obj)

/-- `serialize_packet_internal`. -/
def serializePacketInternal (conn : Connection) (packetType : PacketType) (object : Obj) :
    Checked InternalPacket := do
  let header := InternalPacketHeader.create .msgpack packetType
  let data := m.pack object
  let packetBufferSize := data.length + headerSize
  let packetBuffer := allocate packetBufferSize
  let (packetBuffer, cursor) ← writeInternalPacketHeader packetBuffer header
  let packetBuffer ← memcpy packetBuffer cursor data
  let bytes ← contents packetBuffer
  return { header := header, buffer := bytes, conn := conn }

/-- `deserialize_packet_internal`. -/
def deserializePacketInternal (payload : List UInt8) : Option Obj := m.unpack payload

/-- `payload_as_internal<T>`; `convert` is `none` when `object::convert` throws. -/
def payloadAsInternal {T : Type} (convert : Obj → Option T) (payload : Obj) : Option T :=
  convert payload

/-- The bytes on the wire are the header in memory followed by the packed object. -/
theorem serializePacketInternal_eq (conn : Connection) (t : PacketType) (x : Obj) :
    serializePacketInternal m conn t x
      = .ok { header := .create .msgpack t, buffer := headerBytes .msgpack t ++ m.pack x,
              conn := conn } := by
  have hheader := writeInternalPacketHeader_filled (.create .msgpack t) (m.pack x).length
  have hcopy := memcpy_filled (m.pack x) (headerBytes .msgpack t) 0
  simp only [InternalPacketHeader.create, Nat.add_zero, length_headerBytes] at hheader hcopy
  rw [serializePacketInternal, allocate_eq_filled, Nat.add_comm]
  simp only [InternalPacketHeader.create, hheader, ok_bind, hcopy, contents_filled, pure_eq_ok]

end MsgpackPacketSerializer

/-- `serializer_traits<serialization_type_t::msgpack>`. -/
def msgpackPacketSerializer {Obj : Type} (m : Msgpack Obj) : PacketSerializer Obj Obj where
  serdeType := .msgpack
  serializePacket := MsgpackPacketSerializer.serializePacketInternal m
  deserializePacket := MsgpackPacketSerializer.deserializePacketInternal m

end KbNetworking
