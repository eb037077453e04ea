/-
# The asynchronous packet client

`AsyncUdpPacketClient<SerdeT>` (`async_udp_packet_client.hpp`, `.inl`): calls of
`async_wait_for_packet` queue a record each and suspend, and the pre-handler, which runs on
the network thread, hands a packet to the record at the front of the queue of its type.

A call is named by a waiter `ω`, which also names the `coro::event` on its stack.  An event
is the library's: `set` marks it and resumes the coroutine suspended on it, and `co_await`
on a marked event does not suspend.

A packet that was claimed carries its number, the count of the packets claimed before it,
so that packets with equal payloads are told apart.  The numbers, and the orders in which
calls registered and completed, are kept for the statements only.
-/
import KbNetworking.Lib.Machine
import KbNetworking.UdpPacketClient

namespace KbNetworking

open Cpp

/-- `awaiting_packet_t`; `data` holds the payload together with the number of its packet. -/
structure AwaitingPacket (ω Payload : Type) where
  event : ω
  data : Option (ℕ × Payload) := none
  deriving DecidableEq, Repr

/-- How far a call of `async_wait_for_packet` has come; `returned` holds what
`get_packet_awaiter` gave it. -/
inductive WaitPhase (ω Payload : Type) : Type where
  | idle
  | registered (t : PacketType)
  | suspended (t : PacketType)
  | resumed (t : PacketType)
  | returned (t : PacketType) (awaiter : Option (AwaitingPacket ω Payload))

/-- The type a call is waiting for, from its registration to its pop. -/
def WaitPhase.waitsFor {ω Payload : Type} : WaitPhase ω Payload → Option PacketType
  | .registered t => some t
  | .suspended t => some t
  | .resumed t => some t
  | _ => none

/-- A call that is suspended on its event is resumed when the event is set. -/
def WaitPhase.wake {ω Payload : Type} : WaitPhase ω Payload → WaitPhase ω Payload
  | .suspended t => .resumed t
  | phase => phase

/-- The packet a call came back with. -/
def WaitPhase.packet {ω Payload : Type} : WaitPhase ω Payload → Option (ℕ × Payload)
  | .returned _ (some awaiter) => awaiter.data
  | _ => none

/-- Where `co_await` leaves a call: it does not suspend on a set event. -/
def WaitPhase.afterAwait {ω Payload : Type} (t : PacketType) : Bool → WaitPhase ω Payload
  | true => .resumed t
  | false => .suspended t

@[simp] theorem WaitPhase.waitsFor_wake {ω Payload : Type} (phase : WaitPhase ω Payload) :
    phase.wake.waitsFor = phase.waitsFor := by
  cases phase <;> rfl

@[simp] theorem WaitPhase.packet_wake {ω Payload : Type} (phase : WaitPhase ω Payload) :
    phase.wake.packet = phase.packet := by
  cases phase <;> rfl

/-- What the phase of a call says about its event: a call that has not registered or is
suspended has an unset one, and only a set event lets it go on. -/
def WaitPhase.EventIs {ω Payload : Type} : WaitPhase ω Payload → Bool → Prop
  | .idle, isSet => isSet = false
  | .suspended _, isSet => isSet = false
  | .resumed _, isSet => isSet = true
  | _, _ => True

/-- What `async_wait_for_packet<T>` returns, given what `get_packet_awaiter` gave it. -/
def asyncWaitResult {ω Payload T : Type} (payloadAs : Payload → Option T) :
    Option (AwaitingPacket ω Payload) → Option T
  | none => none
  | some awaiter =>
      match awaiter.data with
      | none => none
      | some (_, payload) => payloadAs payload

/-- `m_awaiters`, the calls with their events, and what is kept for the statements. -/
structure AsyncUdpPacketClient (ω Payload : Type) where
  awaiters : Std.ExtTreeMap PacketType (List (AwaitingPacket ω Payload)) := ∅
  isSet : ω → Bool := fun _ => false
  phase : ω → WaitPhase ω Payload := fun _ => .idle
  claimed : List Payload := []
  registrations : PacketType → List ω := fun _ => []
  completions : PacketType → List ω := fun _ => []

namespace AsyncUdpPacketClient

variable {ω Obj Payload : Type}

/-- The queue of a type; a type without an entry has an empty one. -/
def queue (s : AsyncUdpPacketClient ω Payload) (t : PacketType) :
    List (AwaitingPacket ω Payload) :=
  (s.awaiters[t]?).getD []

/-- The calls whose records are queued, from the front. -/
def waiters (s : AsyncUdpPacketClient ω Payload) (t : PacketType) : List ω :=
  (s.queue t).map (·.event)

/-! ## The member functions -/

/-- `register_packet_awaiter`. -/
def registerPacketAwaiter (t : PacketType) (awaiting : AwaitingPacket ω Payload)
    (s : AsyncUdpPacketClient ω Payload) : AsyncUdpPacketClient ω Payload :=
  { s with
    awaiters :=
      if s.awaiters.contains t then s.awaiters.insert t (s.queue t ++ [awaiting])
      else s.awaiters.insert t [awaiting] }

/-- `get_packet_awaiter`: whatever is at the front of the queue; the lookup leaves an empty
queue behind where there was none. -/
def getPacketAwaiter (t : PacketType) (s : AsyncUdpPacketClient ω Payload) :
    AsyncUdpPacketClient ω Payload × Option (AwaitingPacket ω Payload) :=
  match s.queue t with
  | [] => ({ s with awaiters := s.awaiters.insert t [] }, none)
  | awaiting :: rest => ({ s with awaiters := s.awaiters.insert t rest }, some awaiting)

/-- `awaiter->m_data = std::move(*maybe_payload);` for the record at the front. -/
def storePayload (t : PacketType) (payload : Payload) (s : AsyncUdpPacketClient ω Payload) :
    AsyncUdpPacketClient ω Payload :=
  match s.queue t with
  | [] => s
  | awaiter :: rest =>
      { s with
        awaiters := s.awaiters.insert t
          ({ awaiter with data := some (s.claimed.length, payload) } :: rest)
        claimed := s.claimed ++ [payload] }

/-! ## What the member functions do to the queues -/

/-- The queue of one type replaced. -/
def setQueue (s : AsyncUdpPacketClient ω Payload) (t : PacketType)
    (records : List (AwaitingPacket ω Payload)) : AsyncUdpPacketClient ω Payload :=
  { s with awaiters := s.awaiters.insert t records }

theorem queue_setQueue (s : AsyncUdpPacketClient ω Payload) (t : PacketType)
    (records : List (AwaitingPacket ω Payload)) (u : PacketType) :
    (s.setQueue t records).queue u = if t = u then records else s.queue u := by
  unfold setQueue queue
  rw [Std.ExtTreeMap.getElem?_insert]
  simp only [Std.LawfulEqCmp.compare_eq_iff_eq]
  split <;> rfl

@[simp] theorem queue_setQueue_self (s : AsyncUdpPacketClient ω Payload) (t : PacketType)
    (records : List (AwaitingPacket ω Payload)) : (s.setQueue t records).queue t = records := by
  rw [queue_setQueue, if_pos rfl]

theorem queue_setQueue_of_ne (s : AsyncUdpPacketClient ω Payload) {t u : PacketType}
    (records : List (AwaitingPacket ω Payload)) (h : u ≠ t) :
    (s.setQueue t records).queue u = s.queue u := by
  rw [queue_setQueue, if_neg (Ne.symm h)]

theorem registerPacketAwaiter_eq (t : PacketType) (awaiting : AwaitingPacket ω Payload)
    (s : AsyncUdpPacketClient ω Payload) :
    registerPacketAwaiter t awaiting s = s.setQueue t (s.queue t ++ [awaiting]) := by
  unfold registerPacketAwaiter setQueue
  split
  · rfl
  · rename_i hcontains
    have hempty : s.queue t = [] := by
      unfold queue
      rw [Std.ExtTreeMap.getElem?_eq_none (a := t) hcontains]
      rfl
    rw [hempty]
    rfl

theorem getPacketAwaiter_eq (t : PacketType) (s : AsyncUdpPacketClient ω Payload) :
    getPacketAwaiter t s = (s.setQueue t (s.queue t).tail, (s.queue t).head?) := by
  unfold getPacketAwaiter
  cases s.queue t <;> rfl

theorem storePayload_eq (t : PacketType) (payload : Payload)
    {s : AsyncUdpPacketClient ω Payload} {awaiter : AwaitingPacket ω Payload}
    {rest : List (AwaitingPacket ω Payload)} (h : s.queue t = awaiter :: rest) :
    storePayload t payload s
      = { s.setQueue t ({ awaiter with data := some (s.claimed.length, payload) } :: rest) with
          claimed := s.claimed ++ [payload] } := by
  unfold storePayload
  rw [h]
  rfl

variable [DecidableEq ω]

/-- `event::set`. -/
def setEvent (w : ω) (s : AsyncUdpPacketClient ω Payload) : AsyncUdpPacketClient ω Payload :=
  { s with
    isSet := Function.update s.isSet w true
    phase := Function.update s.phase w (s.phase w).wake }

@[simp] theorem queue_setEvent (w : ω) (s : AsyncUdpPacketClient ω Payload) (t : PacketType) :
    (setEvent w s).queue t = s.queue t := rfl

/-! ## The pre-handler -/

/-- `on_data_received_pre_handler`, taken as one step. -/
def onDataReceivedPreHandler (serializer : PacketSerializer Obj Payload)
    (message : IncomingViewMessage) (s : AsyncUdpPacketClient ω Payload) :
    Checked (AsyncUdpPacketClient ω Payload × Bool) := do
  match ← unpackInternalPacketHeader message.buffer with
  | none => return (s, false)
  | some header =>
      if header.serdeType ≠ serializer.serdeType then return (s, false)
      match s.queue header.packetType with
      | [] => return (s, false)
      | awaiter :: _ =>
          let payloadSize := sizeSub message.buffer.length headerSize
          let payloadBytes ← readRange message.buffer headerSize payloadSize
          match serializer.deserializePacket payloadBytes with
          | none => return (setEvent awaiter.event s, true)
          | some payload =>
              return (setEvent awaiter.event (storePayload header.packetType payload s), true)

/-- The pre-handler that `create` registers. -/
def preHandler (serializer : PacketSerializer Obj Payload) :
    PreHandler (AsyncUdpPacketClient ω Payload) :=
  some (onDataReceivedPreHandler serializer)

/-- The type a message is for and its payload, `none` where it does not decode; a message
without a header of the serializer is for no type. -/
def addressee (serializer : PacketSerializer Obj Payload) (buffer : List UInt8) :
    Option (PacketType × Option Payload) := do
  let header ← parseHeader buffer
  guard (header.serdeType = serializer.serdeType)
  return (header.packetType, serializer.deserializePacket (buffer.drop headerSize))

/-- A message of type `t` is handed to the record at the front, with its payload if it has
one. -/
def deliver (t : PacketType) (payload : Option Payload) (s : AsyncUdpPacketClient ω Payload) :
    AsyncUdpPacketClient ω Payload × Bool :=
  match s.queue t with
  | [] => (s, false)
  | awaiter :: _ =>
      match payload with
      | none => (setEvent awaiter.event s, true)
      | some payload => (setEvent awaiter.event (storePayload t payload s), true)

/-- A packet is claimed when the pre-handler decoded it and returned true. -/
theorem claimed_deliver (t : PacketType) (payload : Option Payload)
    (s : AsyncUdpPacketClient ω Payload) :
    (deliver t payload s).1.claimed
      = if (deliver t payload s).2 then s.claimed ++ payload.toList else s.claimed := by
  unfold deliver
  cases hqueue : s.queue t with
  | nil => rfl
  | cons awaiter rest =>
      cases payload with
      | none => exact (List.append_nil _).symm
      | some payload =>
          show (storePayload t payload s).claimed = s.claimed ++ [payload]
          rw [storePayload_eq t payload hqueue]

/-- The pre-handler delivers the message to the type it is for, without a fault. -/
theorem onDataReceivedPreHandler_eq (serializer : PacketSerializer Obj Payload)
    (message : IncomingViewMessage) (s : AsyncUdpPacketClient ω Payload) :
    onDataReceivedPreHandler serializer message s
      = .ok (match addressee serializer message.buffer with
        | none => (s, false)
        | some (t, payload) => deliver t payload s) := by
  unfold onDataReceivedPreHandler addressee
  rw [unpackInternalPacketHeader_eq, ok_bind]
  cases hparse : parseHeader message.buffer with
  | none => rfl
  | some header =>
      have hlen : headerSize ≤ message.buffer.length := headerSize_le_of_parseHeader hparse
      by_cases hserde : header.serdeType = serializer.serdeType
      · unfold deliver
        cases hqueue : s.queue header.packetType with
        | nil => simp [hserde, hqueue]
        | cons awaiter rest =>
            cases hpayload : serializer.deserializePacket (message.buffer.drop headerSize) <;>
              simp [hserde, hqueue, hpayload, sizeSub_of_le hlen, readRange_rest hlen]
      · simp [hserde, guard]

omit [DecidableEq ω] in
/-- A message is for the type in its header, if the header passes the checks. -/
theorem addressee_eq_some_iff {serializer : PacketSerializer Obj Payload} {buffer : List UInt8}
    {t : PacketType} {payload : Option Payload} :
    addressee serializer buffer = some (t, payload)
      ↔ ∃ header, parseHeader buffer = some header ∧ header.serdeType = serializer.serdeType
        ∧ header.packetType = t
        ∧ serializer.deserializePacket (buffer.drop headerSize) = payload := by
  unfold addressee
  cases parseHeader buffer with
  | none => simp
  | some header =>
      by_cases hserde : header.serdeType = serializer.serdeType <;> simp [hserde, guard]

/-- With the pre-handler a message that is for a type is taken where its delivery finds a
record, and is handled as without one where it does not. -/
theorem handleMessage_preHandler {H : Type} (self : UdpPacketClient Obj Payload H)
    {message : IncomingViewMessage} {t : PacketType} {payload : Option Payload}
    (h : addressee self.serializer message.buffer = some (t, payload))
    (s : AsyncUdpPacketClient ω Payload) :
    self.handleMessage (preHandler self.serializer) message s
      = if (deliver t payload s).2 then
          .ok ((deliver t payload s).1, { returned := true, invoked := [] })
        else self.handleMessage none message (deliver t payload s).1 := by
  have hpre := onDataReceivedPreHandler_eq self.serializer message s
  rw [h] at hpre
  obtain ⟨header, hparse, hserde, -⟩ := addressee_eq_some_iff.mp h
  rw [self.handleMessage_of_header hparse hserde, self.handleMessage_of_header hparse hserde]
  simp only [preHandler, hpre, ok_bind]
  cases (deliver t payload s).2 with
  | true => rfl
  | false => cases self.runHandler header message.buffer <;> rfl

end AsyncUdpPacketClient

/-! ## Steps -/

/-- The steps of the calls of `async_wait_for_packet`, and the arrival of a message. -/
inductive AsyncAction (ω : Type) : Type where
  | register (w : ω) (t : PacketType)
  | await (w : ω)
  | deliver (message : IncomingViewMessage)
  | pop (w : ω)

namespace AsyncUdpPacketClient

variable {ω Obj Payload : Type} [DecidableEq ω]

/-- `async_wait_for_packet` up to its `co_await`. -/
def register (w : ω) (t : PacketType) (s : AsyncUdpPacketClient ω Payload) :
    AsyncUdpPacketClient ω Payload :=
  { registerPacketAwaiter t { event := w } s with
    phase := Function.update s.phase w (.registered t)
    registrations := Function.update s.registrations t (s.registrations t ++ [w]) }

/-- `co_await event`. -/
def await (w : ω) (t : PacketType) (s : AsyncUdpPacketClient ω Payload) :
    AsyncUdpPacketClient ω Payload :=
  { s with phase := Function.update s.phase w (.afterAwait t (s.isSet w)) }

/-- `async_wait_for_packet` after its `co_await`. -/
def pop (w : ω) (t : PacketType) (s : AsyncUdpPacketClient ω Payload) :
    AsyncUdpPacketClient ω Payload :=
  { (getPacketAwaiter t s).1 with
    phase := Function.update s.phase w (.returned t (getPacketAwaiter t s).2)
    completions := Function.update s.completions t (s.completions t ++ [w]) }

theorem register_eq (w : ω) (t : PacketType) (s : AsyncUdpPacketClient ω Payload) :
    register w t s = { s.setQueue t (s.queue t ++ [{ event := w }]) with
      phase := Function.update s.phase w (.registered t)
      registrations := Function.update s.registrations t (s.registrations t ++ [w]) } := by
  rw [register, registerPacketAwaiter_eq]

theorem pop_eq (w : ω) (t : PacketType) (s : AsyncUdpPacketClient ω Payload) :
    pop w t s = { s.setQueue t (s.queue t).tail with
      phase := Function.update s.phase w (.returned t (s.queue t).head?)
      completions := Function.update s.completions t (s.completions t ++ [w]) } := by
  rw [pop, getPacketAwaiter_eq]

theorem phase_pop (w : ω) (t : PacketType) (s : AsyncUdpPacketClient ω Payload) :
    (pop w t s).phase = Function.update s.phase w (.returned t (s.queue t).head?) := by
  rw [pop_eq]

@[simp] theorem isSet_pop (w : ω) (t : PacketType) (s : AsyncUdpPacketClient ω Payload) :
    (pop w t s).isSet = s.isSet := by
  rw [pop_eq, setQueue]

@[simp] theorem claimed_pop (w : ω) (t : PacketType) (s : AsyncUdpPacketClient ω Payload) :
    (pop w t s).claimed = s.claimed := by
  rw [pop_eq, setQueue]

/-- One step.  A call registers once; it pops when it is past its `co_await`. -/
def step (serializer : PacketSerializer Obj Payload) (s : AsyncUdpPacketClient ω Payload) :
    AsyncAction ω → Option (AsyncUdpPacketClient ω Payload)
  | .register w t =>
      match s.phase w with
      | .idle => some (register w t s)
      | _ => none
  | .await w =>
      match s.phase w with
      | .registered t => some (await w t s)
      | _ => none
  | .deliver message =>
      match onDataReceivedPreHandler serializer message s with
      | .ok (s, _) => some s
      | .error _ => none
  | .pop w =>
      match s.phase w with
      | .resumed t => some (pop w t s)
      | _ => none

variable {serializer : PacketSerializer Obj Payload} {s s' : AsyncUdpPacketClient ω Payload}

/-- **What a step can do**, with the pre-handler evaluated. -/
theorem step_cases {a : AsyncAction ω} (h : step serializer s a = some s') :
    (∃ w t, a = .register w t ∧ s.phase w = .idle ∧ s' = register w t s)
    ∨ (∃ w t, a = .await w ∧ s.phase w = .registered t ∧ s' = await w t s)
    ∨ (∃ message, a = .deliver message ∧ addressee serializer message.buffer = none ∧ s' = s)
    ∨ (∃ message t payload, a = .deliver message
      ∧ addressee serializer message.buffer = some (t, payload) ∧ s' = (deliver t payload s).1)
    ∨ (∃ w t, a = .pop w ∧ s.phase w = .resumed t ∧ s' = pop w t s) := by
  cases a with
  | register w t =>
      left
      rw [step] at h
      split at h
      · rename_i hw
        exact ⟨w, t, rfl, hw, (Option.some.inj h).symm⟩
      · cases h
  | await w =>
      right; left
      rw [step] at h
      split at h
      · rename_i t hw
        exact ⟨w, t, rfl, hw, (Option.some.inj h).symm⟩
      · cases h
  | deliver message =>
      right; right
      rw [step, onDataReceivedPreHandler_eq] at h
      cases haddressee : addressee serializer message.buffer with
      | none =>
          rw [haddressee] at h
          exact .inl ⟨message, rfl, haddressee, (Option.some.inj h).symm⟩
      | some target =>
          rw [haddressee] at h
          exact .inr (.inl ⟨message, target.1, target.2, rfl, haddressee,
            (Option.some.inj h).symm⟩)
  | pop w =>
      right; right; right; right
      rw [step] at h
      split at h
      · rename_i t hw
        exact ⟨w, t, rfl, hw, (Option.some.inj h).symm⟩
      · cases h

theorem deliver_cases (t : PacketType) (payload : Option Payload)
    (s : AsyncUdpPacketClient ω Payload) :
    (s.queue t = [] ∧ (deliver t payload s).1 = s)
    ∨ (∃ awaiter rest, s.queue t = awaiter :: rest ∧ payload = none
      ∧ (deliver t payload s).1 = setEvent awaiter.event s)
    ∨ (∃ awaiter rest value, s.queue t = awaiter :: rest ∧ payload = some value
      ∧ (deliver t payload s).1 = setEvent awaiter.event (storePayload t value s)) := by
  unfold deliver
  cases hqueue : s.queue t with
  | nil => exact .inl ⟨rfl, rfl⟩
  | cons awaiter rest =>
      cases payload with
      | none => exact .inr (.inl ⟨awaiter, rest, rfl, rfl, rfl⟩)
      | some value => exact .inr (.inr ⟨awaiter, rest, value, rfl, rfl, rfl⟩)

/-! ## What the steps do to the queues -/

theorem queue_register (w : ω) (t : PacketType) (s : AsyncUdpPacketClient ω Payload)
    (u : PacketType) : (register w t s).queue u
      = if t = u then s.queue t ++ [{ event := w }] else s.queue u := by
  rw [register_eq]
  exact queue_setQueue s t _ u

@[simp] theorem queue_await (w : ω) (t : PacketType) (s : AsyncUdpPacketClient ω Payload)
    (u : PacketType) : (await w t s).queue u = s.queue u := rfl

theorem queue_pop (w : ω) (t : PacketType) (s : AsyncUdpPacketClient ω Payload)
    (u : PacketType) :
    (pop w t s).queue u = if t = u then (s.queue t).tail else s.queue u := by
  rw [pop_eq]
  exact queue_setQueue s t _ u

theorem queue_deliver_of_ne {t u : PacketType} (h : u ≠ t) (payload : Option Payload)
    (s : AsyncUdpPacketClient ω Payload) : (deliver t payload s).1.queue u = s.queue u := by
  rcases deliver_cases t payload s with
      ⟨-, heq⟩ | ⟨awaiter, rest, -, -, heq⟩ | ⟨awaiter, rest, value, hqueue, -, heq⟩
  · rw [heq]
  · rw [heq, queue_setEvent]
  · rw [heq, queue_setEvent, storePayload_eq t value hqueue]
    exact queue_setQueue_of_ne s _ h

end AsyncUdpPacketClient

/-- The waiting calls of one asynchronous client. -/
def asyncWaits (ω : Type) [DecidableEq ω] {Obj Payload : Type}
    (serializer : PacketSerializer Obj Payload) :
    Machine (AsyncUdpPacketClient ω Payload) (AsyncAction ω) where
  init := {}
  step := AsyncUdpPacketClient.step serializer

end KbNetworking
