/-
# The receive pipeline of the packet server

One `poll` of a packet server hands a batch of messages, one after the other, to
`handle_packet`.  `expectedInvocation` reads off the bytes of a message which handler it is
for, without reference to the code: the connection must be a client, the bytes must start
with a header of the server's serializer, the type must be bound and the rest must decode.

`receivePipeline_exact` proves that a poll runs exactly the expected handlers in message
order, whatever mixture of good and malformed messages the batch is, releases every message
once and never faults.
-/
import KbNetworking.UdpPacketServer

namespace KbNetworking

open Cpp

variable {Obj Payload H : Type}

/-- The handler run that a message should cause, read off its bytes. -/
def expectedInvocation (serializer : PacketSerializer Obj Payload) (handlers : HandlerTable H)
    (clients : ClientTable) (message : Message) : Option (Invocation H Payload) :=
  if (clients.find message.conn).isSome ∧ 8 ≤ message.data.length
      ∧ message.data.take 3 = [0x4B, 0x42, 0x4C]
      ∧ message.data[3]? = some serializer.serdeType.byte then
    match handlers[UInt32.ofNat (leValue ((message.data.drop 4).take 4))]?,
        serializer.deserializePacket (message.data.drop 8) with
    | some handler, some payload => some ⟨handler, message.conn, payload⟩
    | _, _ => none
  else none

/-- The bytes of a message decide its dispatch. -/
theorem dispatch_eq_expected (serializer : PacketSerializer Obj Payload)
    (handlers : HandlerTable H) {clients : ClientTable} {message : Message}
    (hclient : (clients.find message.conn).isSome) :
    (dispatch serializer handlers message.data).map
        (fun target => Invocation.mk target.1 message.conn target.2)
      = expectedInvocation serializer handlers clients message := by
  unfold dispatch expectedInvocation
  by_cases hlen : headerSize ≤ message.data.length
  · obtain ⟨m₀, m₁, m₂, s, t₀, t₁, t₂, t₃, p, hdata⟩ := exists_eq_of_headerSize_le hlen
    by_cases hmagic : [m₀, m₁, m₂] = [0x4B, 0x42, 0x4C]
    · by_cases hserde : s = serializer.serdeType.byte
      · cases hhandler : handlers[UInt32.ofNat (leValue [t₀, t₁, t₂, t₃])]? with
        | none =>
            simp [hdata, parseHeader, kMagicBytes, hmagic, hserde, hclient, hhandler]
        | some handler =>
            cases hpayload : serializer.deserializePacket p <;>
              simp [hdata, parseHeader, kMagicBytes, hmagic, hserde, hclient, hhandler,
                headerSize, packetTypeSize, hpayload]
      · have hne : (⟨s⟩ : SerializationType) ≠ serializer.serdeType := by
          intro heq
          exact hserde (congrArg SerializationType.byte heq)
        simp [hdata, parseHeader, kMagicBytes, hmagic, hserde, hne, guard]
    · simp [hdata, parseHeader, kMagicBytes, hmagic]
  · have hshort : ¬ 8 ≤ message.data.length := hlen
    rw [parseHeader_of_lt (Nat.not_le.mp hlen), if_neg (by tauto)]
    rfl

/-- `handle_packet` on a message of a known client: it runs the expected handler, and returns
whether there is one. -/
theorem handlePacket_eq_expected (self : UdpPacketServer Obj Payload H) {clients : ClientTable}
    {message : Message} {client : ClientInfo} (hfind : clients.find message.conn = some client) :
    self.handlePacket client message.data
      = .ok { returned :=
                (expectedInvocation self.serializer self.packetHandlers clients message).isSome
              invoked := (expectedInvocation self.serializer self.packetHandlers clients
                message).toList } := by
  rw [UdpPacketServer.handlePacket_eq, ← dispatch_eq_expected _ _ (by simp [hfind]),
    ClientTable.conn_of_find hfind]
  cases dispatch self.serializer self.packetHandlers message.data <;> rfl

/-- What the loop of `poll` does with one message of a packet server. -/
theorem dispatchMessage_eq_expected (self : UdpPacketServer Obj Payload H)
    (clients : ClientTable) (message : Message) :
    UdpServer.dispatchMessage clients (some (self.dataCallback true)) message
      = .ok (expectedInvocation self.serializer self.packetHandlers clients message).toList := by
  unfold UdpServer.dispatchMessage
  cases hfind : clients.find message.conn with
  | none => simp [expectedInvocation, hfind]
  | some client =>
      simp [UdpPacketServer.dataCallback, handlePacket_eq_expected self hfind]

/-- **The receive pipeline is exact.**  For every client table, handler table, decoder and
batch: a poll ends without a fault, the handlers run are the expected ones in message order,
every message is released exactly once, and `handle_packet` returns true exactly for the
messages that run a handler. -/
theorem receivePipeline_exact (server : UdpServer) (self : UdpPacketServer Obj Payload H)
    (batch : UdpServer.Batch) :
    server.poll (some (self.dataCallback true)) batch.received
        = .ok { outputs := batch.messages.filterMap
                  (expectedInvocation self.serializer self.packetHandlers server.clients)
                released := List.range batch.messages.length }
    ∧ ∀ message ∈ batch.messages, ∀ client, server.clients.find message.conn = some client →
        self.handlePacket client message.data
          = .ok { returned := (expectedInvocation self.serializer self.packetHandlers
                    server.clients message).isSome
                  invoked := (expectedInvocation self.serializer self.packetHandlers
                    server.clients message).toList } := by
  constructor
  · rw [UdpServer.poll_batch server (dispatchMessage_eq_expected self server.clients) batch,
      List.filterMap_eq_flatMap_toList]
  · intro message _ client hfind
    exact handlePacket_eq_expected self hfind

end KbNetworking
