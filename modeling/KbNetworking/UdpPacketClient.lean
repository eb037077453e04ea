/-
# The packet client

`UdpPacketClient<SerdeT>` (`udp_packet_client.hpp`, `udp_packet_client.inl`): a table of
handlers, a serializer and an optional pre-handler on top of a `UdpClient`, which is the
object of the `ClientContext` a member runs in.  The pre-handler is a function on a state
of its own: it is what the asynchronous client registers.

`handleMessage_eq` proves that without a pre-handler a message goes where `dispatch` says,
the same function that describes the packet server.
-/
import KbNetworking.UdpClient
import KbNetworking.UdpPacketServer

namespace KbNetworking

open Cpp

/-- `UdpPacketClient<SerdeT>` without its underlying client. -/
structure UdpPacketClient (Obj Payload H : Type) where
  handlers : HandlerTable H := ∅
  serializer : PacketSerializer Obj Payload

/-- A registered pre-handler; `none` is the source's empty `std::function`. -/
abbrev PreHandler (σ : Type) := Option (IncomingViewMessage → σ → Checked (σ × Bool))

namespace UdpPacketClient

variable {Obj Payload H ι σ : Type}

/-- `bind_packet_handler`. -/
def bindPacketHandler (self : UdpPacketClient Obj Payload H) (t : PacketType) (handler : H) :
    UdpPacketClient Obj Payload H × Bool :=
  if self.handlers.contains t then (self, false)
  else ({ self with handlers := self.handlers.insertIfNew t handler }, true)

/-- `unbind_packet_handler`. -/
def unbindPacketHandler (self : UdpPacketClient Obj Payload H) (t : PacketType) :
    UdpPacketClient Obj Payload H :=
  { self with handlers := self.handlers.erase t }

/-- `send_packet_internal`. -/
def sendPacketInternal (packet : InternalPacket) (reliable sent : Bool)
    (c : ClientContext ι) : ClientContext ι × Bool :=
  UdpClient.sendRaw packet.buffer reliable sent c

/-- `send_packet`. -/
def sendPacket (self : UdpPacketClient Obj Payload H) (t : PacketType) (object : Obj)
    (reliable sent : Bool) (c : ClientContext ι) : Checked (ClientContext ι × Bool) := do
  let packet ← self.serializer.serializePacket kInvalidConnection t object
  return sendPacketInternal packet reliable sent c

/-- The part of `handle_message` after the pre-handler: find the handler, decode the
payload, run the handler. -/
def runHandler (self : UdpPacketClient Obj Payload H) (header : InternalPacketHeader)
    (data : List UInt8) : Checked (HandleResult (H × Payload)) :=
  match self.handlers[header.packetType]? with
  | none => .ok .rejected
  | some handler => do
      let payloadSize := sizeSub data.length headerSize
      let payloadBytes ← readRange data headerSize payloadSize
      match self.serializer.deserializePacket payloadBytes with
      | none => return .rejected
      | some payload => return { returned := true, invoked := [(handler, payload)] }

/-- `handle_message`: a packet that the pre-handler takes does not reach the handlers. -/
def handleMessage (self : UdpPacketClient Obj Payload H) (preHandler : PreHandler σ)
    (message : IncomingViewMessage) (s : σ) : Checked (σ × HandleResult (H × Payload)) := do
  match ← unpackInternalPacketHeader message.buffer with
  | none => return (s, .rejected)
  | some header =>
      if header.serdeType ≠ self.serializer.serdeType then return (s, .rejected)
      match preHandler with
      | none =>
          let result ← self.runHandler header message.buffer
          return (s, result)
      | some callback =>
          let (s, taken) ← callback message s
          if taken then return (s, { returned := true, invoked := [] })
          let result ← self.runHandler header message.buffer
          return (s, result)

/-- The data callback that `create` installs; `alive` is whether the weak pointer locks. -/
def dataCallback (self : UdpPacketClient Obj Payload H) (alive : Bool)
    (message : IncomingViewMessage) : Checked (List (H × Payload)) :=
  if alive then do
    let (_, result) ← self.handleMessage none message ()
    return result.invoked
  else .ok []

/-- A message without a header of the client's serializer is rejected before the pre-handler
is asked. -/
theorem handleMessage_of_no_header (self : UdpPacketClient Obj Payload H)
    {message : IncomingViewMessage}
    (h : ∀ header, parseHeader message.buffer = some header →
      header.serdeType ≠ self.serializer.serdeType) (preHandler : PreHandler σ) (s : σ) :
    self.handleMessage preHandler message s = .ok (s, .rejected) := by
  unfold handleMessage
  rw [unpackInternalPacketHeader_eq, ok_bind]
  cases hparse : parseHeader message.buffer with
  | none => rfl
  | some header =>
      dsimp only
      rw [if_pos (h header hparse)]
      rfl

/-- A message with a header of the client's serializer goes to the pre-handler, and to the
handlers when the pre-handler does not take it. -/
theorem handleMessage_of_header (self : UdpPacketClient Obj Payload H)
    {message : IncomingViewMessage} {header : InternalPacketHeader}
    (hparse : parseHeader message.buffer = some header)
    (hserde : header.serdeType = self.serializer.serdeType) (preHandler : PreHandler σ) (s : σ) :
    self.handleMessage preHandler message s
      = match preHandler with
        | none => (self.runHandler header message.buffer).map fun result => (s, result)
        | some callback => do
            let (s, taken) ← callback message s
            if taken then return (s, { returned := true, invoked := [] })
            let result ← self.runHandler header message.buffer
            return (s, result) := by
  unfold handleMessage
  rw [unpackInternalPacketHeader_eq, ok_bind, hparse]
  dsimp only
  rw [if_neg (not_not.mpr hserde)]
  cases preHandler with
  | none => cases self.runHandler header message.buffer <;> rfl
  | some callback => rfl

/-- The header of a message passes the checks, or no header of it does. -/
theorem header_or_not (serializer : PacketSerializer Obj Payload) (buffer : List UInt8) :
    (∃ header, parseHeader buffer = some header ∧ header.serdeType = serializer.serdeType)
      ∨ ∀ header, parseHeader buffer = some header → header.serdeType ≠ serializer.serdeType := by
  by_cases h : ∃ header, parseHeader buffer = some header ∧ header.serdeType = serializer.serdeType
  · exact .inl h
  · exact .inr fun header hparse hserde => h ⟨header, hparse, hserde⟩

/-- Behind a header the handler of the type is run on what the payload decodes to. -/
theorem runHandler_eq (self : UdpPacketClient Obj Payload H) (header : InternalPacketHeader)
    {data : List UInt8} (hlen : headerSize ≤ data.length) :
    self.runHandler header data
      = .ok (match self.handlers[header.packetType]? with
        | none => .rejected
        | some handler =>
            match self.serializer.deserializePacket (data.drop headerSize) with
            | none => .rejected
            | some payload => { returned := true, invoked := [(handler, payload)] }) := by
  unfold runHandler
  cases self.handlers[header.packetType]? with
  | none => rfl
  | some handler =>
      simp only [sizeSub_of_le hlen, readRange_rest hlen, ok_bind]
      cases self.serializer.deserializePacket (data.drop headerSize) <;> rfl

/-- Without a pre-handler a message is handled as `dispatch` says, without a fault. -/
theorem handleMessage_eq (self : UdpPacketClient Obj Payload H) (message : IncomingViewMessage)
    (s : σ) :
    self.handleMessage none message s
      = .ok (s, match dispatch self.serializer self.handlers message.buffer with
        | none => .rejected
        | some (handler, payload) => { returned := true, invoked := [(handler, payload)] }) := by
  rcases header_or_not self.serializer message.buffer with ⟨header, hparse, hserde⟩ | hno
  · rw [self.handleMessage_of_header hparse hserde,
      self.runHandler_eq header (headerSize_le_of_parseHeader hparse)]
    cases hhandler : self.handlers[header.packetType]? with
    | none => simp [dispatch, hparse, hserde, hhandler, Except.map]
    | some handler =>
        cases hpayload : self.serializer.deserializePacket (message.buffer.drop headerSize) <;>
          simp [dispatch, hparse, hserde, hhandler, hpayload, Except.map]
  · rw [self.handleMessage_of_no_header hno]
    have hnone : dispatch self.serializer self.handlers message.buffer = none := by
      unfold dispatch
      cases hparse : parseHeader message.buffer with
      | none => rfl
      | some header => simp [hno header hparse, guard]
    rw [hnone]

end UdpPacketClient

end KbNetworking
