/-
# The two dispatch paths agree

The header of a message is parsed and checked, its handler looked up and its payload decoded
in three places that are written separately: `UdpPacketClient::handle_message`,
`UdpPacketServer::handle_packet` and the pre-handler of the asynchronous client.

`dispatch_agrees` proves that they agree on every byte string: the client and the server
return the same and run the same handler on the same payload; the checks of the pre-handler
never fail where it is called; and with it a message goes either to the record at the front
of the queue of its type, with the payload that a handler would get, or to the handlers, as
if there were no pre-handler.
-/
import KbNetworking.AsyncUdpPacketClient

namespace KbNetworking

open Cpp

variable {Obj Payload H ω σ : Type}

/-! ## The client and the server -/

/-- The server and the client returned the same and ran the same handler, if any, on the same
payload. -/
structure SameHandling (server : HandleResult (Invocation H Payload))
    (client : HandleResult (H × Payload)) : Prop where
  returned : server.returned = client.returned
  invoked : server.invoked.map (fun run => (run.handler, run.payload)) = client.invoked
  atMostOne : client.invoked.length ≤ 1

/-- Both sides look the message up with `dispatch`. -/
theorem sameHandling (serializer : PacketSerializer Obj Payload) (handlers : HandlerTable H)
    (sender : ClientInfo) (message : IncomingViewMessage) (s : σ) :
    ∃ server client,
      UdpPacketServer.handlePacket { packetHandlers := handlers, serializer := serializer } sender
          message.buffer = .ok server
        ∧ UdpPacketClient.handleMessage { handlers := handlers, serializer := serializer } none
          message s = .ok (s, client)
        ∧ SameHandling server client := by
  refine ⟨_, _, UdpPacketServer.handlePacket_eq _ _ _, UdpPacketClient.handleMessage_eq _ _ _, ?_⟩
  cases dispatch serializer handlers message.buffer with
  | none => exact ⟨rfl, rfl, Nat.zero_le 1⟩
  | some found => exact ⟨rfl, rfl, le_rfl⟩

/-! ## Where the pre-handler is called -/

/-- The checks that the pre-handler makes: a header, of the serializer's kind. -/
def ChecksPass (serializer : PacketSerializer Obj Payload) (buffer : List UInt8) : Prop :=
  ∃ header, unpackInternalPacketHeader buffer = .ok (some header)
    ∧ header.serdeType = serializer.serdeType

/-- A pre-handler that keeps the messages it is called with. -/
def logCalls (callback : IncomingViewMessage → σ → Checked (σ × Bool))
    (message : IncomingViewMessage) (s : List IncomingViewMessage × σ) :
    Checked ((List IncomingViewMessage × σ) × Bool) := do
  let (after, taken) ← callback message s.2
  return ((s.1 ++ [message], after), taken)

/-- Whatever the pre-handler does, it is called with the message at most, and only when the
message passes its checks. -/
theorem checksPass_of_called (self : UdpPacketClient Obj Payload H)
    {callback : IncomingViewMessage → σ → Checked (σ × Bool)} {message : IncomingViewMessage}
    {s s' : σ} {calls : List IncomingViewMessage} {result : HandleResult (H × Payload)}
    (h : self.handleMessage (some (logCalls callback)) message ([], s) = .ok ((calls, s'), result))
    {called : IncomingViewMessage} (hcalled : called ∈ calls) :
    called = message ∧ ChecksPass self.serializer called.buffer := by
  rcases UdpPacketClient.header_or_not self.serializer message.buffer with
      ⟨header, hparse, hserde⟩ | hno
  · have hchecks : ChecksPass self.serializer message.buffer :=
      ⟨header, by rw [unpackInternalPacketHeader_eq, hparse], hserde⟩
    have hcalls : calls = [message] := by
      rw [self.handleMessage_of_header hparse hserde] at h
      obtain ⟨⟨⟨before, after⟩, taken⟩, hlog, h⟩ := bind_eq_ok.mp h
      obtain ⟨⟨after', taken'⟩, -, hlog⟩ := bind_eq_ok.mp hlog
      obtain ⟨⟨rfl, rfl⟩, rfl⟩ := by simpa using hlog
      cases taken' with
      | true =>
          obtain ⟨⟨rfl, -⟩, -⟩ := by simpa using h
          rfl
      | false =>
          obtain ⟨r, -, h⟩ := bind_eq_ok.mp h
          obtain ⟨⟨rfl, -⟩, -⟩ := by simpa using h
          rfl
    rw [hcalls, List.mem_singleton] at hcalled
    subst hcalled
    exact ⟨rfl, hchecks⟩
  · rw [self.handleMessage_of_no_header hno] at h
    obtain ⟨⟨rfl, -⟩, -⟩ := by simpa using h
    cases hcalled

/-! ## Where a message goes -/

/-- What a handler that is bound to the type of the message would get, without a
pre-handler. -/
def HandlersDecode (serializer : PacketSerializer Obj Payload) (t : PacketType)
    (message : IncomingViewMessage) (payload : Option Payload) : Prop :=
  ∀ (H : Type) (handlers : HandlerTable H) (handler : H), handlers[t]? = some handler →
    UdpPacketClient.handleMessage { handlers := handlers, serializer := serializer } none message ()
      = .ok ((), match payload with
        | none => .rejected
        | some payload => { returned := true, invoked := [(handler, payload)] })

variable [DecidableEq ω]

/-- The message went to the record at the front of the queue of its type, with the payload
that a handler would have got, and nowhere else. -/
structure WentToWaiter (serializer : PacketSerializer Obj Payload) (message : IncomingViewMessage)
    (s s' : AsyncUdpPacketClient ω Payload) (result : HandleResult (H × Payload)) (t : PacketType)
    (awaiter : AwaitingPacket ω Payload) : Prop where
  returned : result = { returned := true, invoked := [] }
  front : ∃ payload rest, HandlersDecode serializer t message payload
    ∧ s.queue t = awaiter :: rest
    ∧ s'.queue t = { awaiter with
        data := (payload.map fun payload => (s.claimed.length, payload)) <|> awaiter.data } :: rest
  others : ∀ u, u ≠ t → s'.queue u = s.queue u
  isSet : s'.isSet = Function.update s.isSet awaiter.event true

/-- The message went to the handlers, as without a pre-handler, and to no waiter. -/
structure WentToHandlers (self : UdpPacketClient Obj Payload H) (message : IncomingViewMessage)
    (s s' : AsyncUdpPacketClient ω Payload) (result : HandleResult (H × Payload)) : Prop where
  unchanged : s' = s
  result_eq : self.handleMessage none message s = .ok (s, result)

/-- A record is queued for the type of the message. -/
def HasWaiter (serializer : PacketSerializer Obj Payload) (message : IncomingViewMessage)
    (s : AsyncUdpPacketClient ω Payload) (t : PacketType) (awaiter : AwaitingPacket ω Payload) :
    Prop :=
  ∃ header, unpackInternalPacketHeader message.buffer = .ok (some header)
    ∧ header.serdeType = serializer.serdeType ∧ header.packetType = t
    ∧ (s.queue t).head? = some awaiter

omit [DecidableEq ω] in
theorem hasWaiter_iff {serializer : PacketSerializer Obj Payload} {message : IncomingViewMessage}
    {header : InternalPacketHeader} (hparse : parseHeader message.buffer = some header)
    (hserde : header.serdeType = serializer.serdeType) {s : AsyncUdpPacketClient ω Payload}
    {t : PacketType} {awaiter : AwaitingPacket ω Payload} :
    HasWaiter serializer message s t awaiter
      ↔ header.packetType = t ∧ (s.queue t).head? = some awaiter := by
  unfold HasWaiter
  rw [unpackInternalPacketHeader_eq, hparse]
  simp [hserde]

/-- Both paths decode the bytes behind the header. -/
theorem handlersDecode (serializer : PacketSerializer Obj Payload) {message : IncomingViewMessage}
    {header : InternalPacketHeader} (hparse : parseHeader message.buffer = some header)
    (hserde : header.serdeType = serializer.serdeType) :
    HandlersDecode serializer header.packetType message
      (serializer.deserializePacket (message.buffer.drop headerSize)) := by
  intro H handlers handler hhandler
  rw [UdpPacketClient.handleMessage_eq]
  unfold dispatch
  rw [hparse]
  cases serializer.deserializePacket (message.buffer.drop headerSize) <;> simp [hserde, hhandler]

open AsyncUdpPacketClient in
/-- What a delivery does to the queues when a record is at the front. -/
theorem wentToWaiter_deliver {serializer : PacketSerializer Obj Payload}
    {message : IncomingViewMessage} {t : PacketType} {payload : Option Payload}
    (hdecode : HandlersDecode serializer t message payload) {s : AsyncUdpPacketClient ω Payload}
    {awaiter : AwaitingPacket ω Payload} {rest : List (AwaitingPacket ω Payload)}
    (hqueue : s.queue t = awaiter :: rest) :
    (deliver t payload s).2 = true
      ∧ WentToWaiter (H := H) serializer message s (deliver t payload s).1
        { returned := true, invoked := [] } t awaiter := by
  unfold deliver
  rw [hqueue]
  cases payload with
  | none => exact ⟨rfl, rfl, ⟨none, rest, hdecode, hqueue, hqueue⟩, fun u _ => rfl, rfl⟩
  | some payload =>
      dsimp only
      rw [storePayload_eq t payload hqueue]
      refine ⟨rfl, rfl, ⟨some payload, rest, hdecode, hqueue, ?_⟩, fun u hu => ?_, rfl⟩
      · exact queue_setQueue_self s t _
      · exact queue_setQueue_of_ne s _ hu

open AsyncUdpPacketClient in
/-- Every message goes to one place: to the front waiter if there is one, and else to the
handlers. -/
theorem wentToOnePlace (self : UdpPacketClient Obj Payload H) (message : IncomingViewMessage)
    (s : AsyncUdpPacketClient ω Payload) :
    ∃ s' result, self.handleMessage (preHandler self.serializer) message s = .ok (s', result)
      ∧ (∀ t awaiter, HasWaiter self.serializer message s t awaiter →
        WentToWaiter self.serializer message s s' result t awaiter)
      ∧ ((∀ t awaiter, ¬ HasWaiter self.serializer message s t awaiter) →
        WentToHandlers self message s s' result) := by
  rcases UdpPacketClient.header_or_not self.serializer message.buffer with
      ⟨header, hparse, hserde⟩ | hno
  · have hdecode := handlersDecode self.serializer hparse hserde
    have hsteps := handleMessage_preHandler self
      (addressee_eq_some_iff.mpr ⟨header, hparse, hserde, rfl, rfl⟩) s
    generalize self.serializer.deserializePacket (message.buffer.drop headerSize) = payload
      at hsteps hdecode
    have hwaiter : ∀ t awaiter, HasWaiter self.serializer message s t awaiter
        ↔ header.packetType = t ∧ (s.queue t).head? = some awaiter :=
      fun _ _ => hasWaiter_iff hparse hserde
    cases hqueue : s.queue header.packetType with
    | nil =>
        have hdeliver : deliver header.packetType payload s = (s, false) := by
          unfold deliver
          rw [hqueue]
        rw [hdeliver, if_neg Bool.false_ne_true] at hsteps
        obtain ⟨result, hplain⟩ : ∃ result, self.handleMessage none message s = .ok (s, result) :=
          ⟨_, self.handleMessage_eq message s⟩
        refine ⟨s, result, hsteps.trans hplain, ?_, fun _ => ⟨rfl, hplain⟩⟩
        intro t awaiter hhas
        obtain ⟨rfl, hfront⟩ := (hwaiter t awaiter).mp hhas
        rw [hqueue] at hfront
        cases hfront
    | cons awaiter rest =>
        obtain ⟨htaken, hwent⟩ := wentToWaiter_deliver (H := H) hdecode hqueue
        rw [if_pos htaken] at hsteps
        refine ⟨_, _, hsteps, ?_, ?_⟩
        · intro t front hhas
          obtain ⟨rfl, hfront⟩ := (hwaiter t front).mp hhas
          rw [hqueue] at hfront
          obtain rfl := Option.some.inj hfront
          exact hwent
        · intro hnone
          refine absurd ((hwaiter _ awaiter).mpr ⟨rfl, ?_⟩) (hnone header.packetType awaiter)
          rw [hqueue]
          rfl
  · refine ⟨s, .rejected, self.handleMessage_of_no_header hno _ s, ?_, fun _ => ⟨rfl, ?_⟩⟩
    · rintro t awaiter ⟨header, hfound, hserde, -⟩
      rw [unpackInternalPacketHeader_eq, Except.ok.injEq] at hfound
      exact absurd hserde (hno header hfound)
    · exact self.handleMessage_of_no_header hno none s

/-- **The dispatch paths agree**, for every serializer, handler table and message: the client
and the server return the same and run the same handler on the same payload; a pre-handler is
only called with a message that passes its checks; and with the one of the asynchronous
client the message goes to the waiter at the front of the queue of its type, with the
payload that a handler would get, or, without one, to the handlers as if there were no
pre-handler. -/
theorem dispatch_agrees (self : UdpPacketClient Obj Payload H) (message : IncomingViewMessage) :
    (∀ sender : ClientInfo, ∃ server client,
      UdpPacketServer.handlePacket
          { packetHandlers := self.handlers, serializer := self.serializer } sender message.buffer
          = .ok server
        ∧ self.handleMessage none message () = .ok ((), client) ∧ SameHandling server client)
    ∧ (∀ (σ : Type) (callback : IncomingViewMessage → σ → Checked (σ × Bool)) (s s' : σ)
        (calls : List IncomingViewMessage) (result : HandleResult (H × Payload)),
      self.handleMessage (some (logCalls callback)) message ([], s) = .ok ((calls, s'), result) →
        ∀ called ∈ calls, called = message ∧ ChecksPass self.serializer called.buffer)
    ∧ ∀ s : AsyncUdpPacketClient ω Payload, ∃ s' result,
      self.handleMessage (AsyncUdpPacketClient.preHandler self.serializer) message s
          = .ok (s', result)
        ∧ (∀ t awaiter, HasWaiter self.serializer message s t awaiter →
          WentToWaiter self.serializer message s s' result t awaiter)
        ∧ ((∀ t awaiter, ¬ HasWaiter self.serializer message s t awaiter) →
          WentToHandlers self message s s' result) := by
  refine ⟨fun sender => ?_, ?_, wentToOnePlace self message⟩
  · exact sameHandling self.serializer self.handlers sender message ()
  · intro σ callback s s' calls result hrun called hcalled
    exact checksPass_of_called self hrun hcalled

end KbNetworking
