/-
# The packet server

`UdpPacketServer<SerdeT>` (`udp_packet_server.hpp`, `udp_packet_server.inl`): a table of
handlers and a serializer on top of a `UdpServer`, which is the object of the
`ServerContext` a member runs in.  A handler is an identifier; running it is recorded as an
`Invocation`.

`dispatch` states what a handler table does with a message: the header must parse, carry
the serializer's byte and name a bound type, and the bytes after the header must decode.
`handlePacket_eq` proves that `handle_packet` computes it, without a fault.
-/
import KbNetworking.Serializer
import KbNetworking.UdpServer

namespace KbNetworking

open Cpp

/-- `std::unordered_map<packet_type_t, packet_handler_func_t>`. -/
abbrev HandlerTable (H : Type) := Std.ExtTreeMap PacketType H

/-- A run of a packet handler of the server. -/
structure Invocation (H Payload : Type) where
  handler : H
  conn : Connection
  payload : Payload
  deriving DecidableEq, Repr

/-- What handling a message returns, and the handlers it ran. -/
structure HandleResult (ω : Type) where
  returned : Bool
  invoked : List ω
  deriving DecidableEq, Repr

/-- The result of every rejecting branch. -/
def HandleResult.rejected {ω : Type} : HandleResult ω := { returned := false, invoked := [] }

/-- `UdpPacketServer<SerdeT>` without its underlying server. -/
structure UdpPacketServer (Obj Payload H : Type) where
  packetHandlers : HandlerTable H := ∅
  serializer : PacketSerializer Obj Payload

/-- The handler and the payload that a byte string is for. -/
def dispatch {Obj Payload H : Type} (serializer : PacketSerializer Obj Payload)
    (handlers : HandlerTable H) (data : List UInt8) : Option (H × Payload) := do
  let header ← parseHeader data
  guard (header.serdeType = serializer.serdeType)
  let handler ← handlers[header.packetType]?
  let payload ← serializer.deserializePacket (data.drop headerSize)
  return (handler, payload)

namespace UdpPacketServer

variable {Obj Payload H ι : Type}

/-- `bind_packet_handler`. -/
def bindPacketHandler (self : UdpPacketServer Obj Payload H) (t : PacketType) (handler : H) :
    UdpPacketServer Obj Payload H × Bool :=
  if self.packetHandlers.contains t then (self, false)
  else ({ self with packetHandlers := self.packetHandlers.insert t handler }, true)

/-- `unbind_packet_handler`. -/
def unbindPacketHandler (self : UdpPacketServer Obj Payload H) (t : PacketType) :
    UdpPacketServer Obj Payload H :=
  { self with packetHandlers := self.packetHandlers.erase t }

/-- `send_packet_internal`; the size is converted to `u32`. -/
def sendPacketInternal (packet : InternalPacket) (reliable sent : Bool) (c : ServerContext ι) :
    ServerContext ι × Bool :=
  UdpServer.send packet.conn packet.buffer (UInt32.ofNat packet.buffer.length) reliable sent c

/-- `broadcast_packet_internal`; the size is converted to `u32`. -/
def broadcastPacketInternal (packet : InternalPacket) (reliable : Bool)
    (sent : Connection → Bool) (c : ServerContext ι) : ServerContext ι × Bool :=
  UdpServer.broadcast packet.buffer (UInt32.ofNat packet.buffer.length) reliable sent c

/-- `send`. -/
def send (self : UdpPacketServer Obj Payload H) (conn : Connection) (t : PacketType)
    (object : Obj) (reliable sent : Bool) (c : ServerContext ι) :
    Checked (ServerContext ι × Bool) := do
  let packet ← self.serializer.serializePacket conn t object
  return sendPacketInternal packet reliable sent c

/-- `broadcast`. -/
def broadcast (self : UdpPacketServer Obj Payload H) (t : PacketType) (object : Obj)
    (reliable : Bool) (sent : Connection → Bool) (c : ServerContext ι) :
    Checked (ServerContext ι × Bool) := do
  let packet ← self.serializer.serializePacket kInvalidConnection t object
  return broadcastPacketInternal packet reliable sent c

/-- `handle_packet`. -/
def handlePacket (self : UdpPacketServer Obj Payload H) (client : ClientInfo)
    (data : List UInt8) : Checked (HandleResult (Invocation H Payload)) := do
  match ← unpackInternalPacketHeader data with
  | none => return .rejected
  | some header =>
      if header.serdeType ≠ self.serializer.serdeType then return .rejected
      match self.packetHandlers[header.packetType]? with
      | none => return .rejected
      | some handler =>
          let payloadSize := sizeSub data.length headerSize
          assertThat (payloadSize < data.length)
          let payloadBytes ← readRange data headerSize payloadSize
          match self.serializer.deserializePacket payloadBytes with
          | none => return .rejected
          | some payload =>
              let invocation := { handler := handler, conn := client.conn, payload := payload }
              return { returned := true, invoked := [invocation] }

/-- The data callback that `create` installs; `alive` is whether the weak pointer locks. -/
def dataCallback (self : UdpPacketServer Obj Payload H) (alive : Bool) (client : ClientInfo)
    (data : List UInt8) : Checked (List (Invocation H Payload)) :=
  if alive then do
    let result ← self.handlePacket client data
    return result.invoked
  else .ok []

/-- `handle_packet` runs the handler the message is for, returns whether there is one, and
never faults. -/
theorem handlePacket_eq (self : UdpPacketServer Obj Payload H) (client : ClientInfo)
    (data : List UInt8) :
    self.handlePacket client data
      = .ok (match dispatch self.serializer self.packetHandlers data with
        | none => .rejected
        | some (handler, payload) =>
            { returned := true, invoked := [⟨handler, client.conn, payload⟩] }) := by
  unfold handlePacket dispatch
  rw [unpackInternalPacketHeader_eq, ok_bind]
  cases hparse : parseHeader data with
  | none => rfl
  | some header =>
      have hlen : headerSize ≤ data.length := headerSize_le_of_parseHeader hparse
      have hlt : data.length - headerSize < data.length := by
        unfold headerSize at hlen ⊢
        omega
      by_cases hserde : header.serdeType = self.serializer.serdeType
      · cases hhandler : self.packetHandlers[header.packetType]? with
        | none => simp [hserde, hhandler]
        | some handler =>
            cases hpayload : self.serializer.deserializePacket (data.drop headerSize) <;>
              simp [hserde, hhandler, hpayload, sizeSub_of_le hlen, hlt, readRange_rest hlen]
      · simp [hserde, guard]

end UdpPacketServer

end KbNetworking
