/-
# The reference that a delivery keeps

`on_data_received_pre_handler` takes a reference to the record at the front of a queue under
the lock, and uses it after the lock: it decodes the payload, stores it in the record, and sets
the event that the record names.  Meanwhile other threads register records, wait and pop.
`std::queue` keeps a reference valid until the element itself is popped.

`onDataReceivedPreHandler_eq_steps` shows that the steps together are the pre-handler.
`writesQueued_iff` proves that every write reaches a record that is still queued exactly when
no delivery that found the event of its record set already is overtaken by the pop of that
record.
-/
import KbNetworking.AsyncRequests

namespace KbNetworking

open Cpp

/-! ## The steps of the pre-handler -/

namespace AsyncUdpPacketClient

variable {ω Obj Payload : Type}

/-- `on_data_received_pre_handler` up to the end of its lock: the type of the record at the
front and the event that names it. -/
def locateAwaiter (serializer : PacketSerializer Obj Payload) (message : IncomingViewMessage)
    (s : AsyncUdpPacketClient ω Payload) : Checked (Option (PacketType × ω)) := do
  match ← unpackInternalPacketHeader message.buffer with
  | none => return none
  | some header =>
      if header.serdeType ≠ serializer.serdeType then return none
      match s.queue header.packetType with
      | [] => return none
      | awaiter :: _ => return some (header.packetType, awaiter.event)

variable [DecidableEq ω]

/-- `*awaiter`: a record leaves its queue from the front only, so the referenced one is at the
front or gone. -/
def derefAwaiter (t : PacketType) (w : ω) (s : AsyncUdpPacketClient ω Payload) : Checked Unit :=
  match s.queue t with
  | [] => .error .useAfterFree
  | awaiter :: _ => if awaiter.event = w then .ok () else .error .useAfterFree

/-- `awaiter->m_data = std::move(*maybe_payload);` through the reference. -/
def storeAwaiter (t : PacketType) (w : ω) (payload : Payload)
    (s : AsyncUdpPacketClient ω Payload) : Checked (AsyncUdpPacketClient ω Payload) := do
  s.derefAwaiter t w
  return storePayload t payload s

/-- `if (awaiter->m_event) { awaiter->m_event->set(); }` through the reference. -/
def setAwaiter (t : PacketType) (w : ω) (s : AsyncUdpPacketClient ω Payload) :
    Checked (AsyncUdpPacketClient ω Payload) := do
  s.derefAwaiter t w
  return setEvent w s

omit [DecidableEq ω] in
theorem headerSize_le_of_addressee {serializer : PacketSerializer Obj Payload}
    {buffer : List UInt8} {t : PacketType} {payload : Option Payload}
    (h : addressee serializer buffer = some (t, payload)) : headerSize ≤ buffer.length := by
  obtain ⟨header, hparse, -⟩ := addressee_eq_some_iff.mp h
  exact headerSize_le_of_parseHeader hparse

omit [DecidableEq ω] in
/-- A message that is for a type has a header, and its payload is what the bytes behind the
header decode to. -/
theorem decodePayload_of_addressee {serializer : PacketSerializer Obj Payload}
    {buffer : List UInt8} {t : PacketType} {payload : Option Payload}
    (h : addressee serializer buffer = some (t, payload)) :
    serializer.decodePayload buffer = .ok payload := by
  have hlen := headerSize_le_of_addressee h
  obtain ⟨header, -, -, -, rfl⟩ := addressee_eq_some_iff.mp h
  exact serializer.decodePayload_eq hlen

omit [DecidableEq ω] in
/-- The lookup finds the front of the queue for the message, and does not fault. -/
theorem locateAwaiter_eq (serializer : PacketSerializer Obj Payload)
    (message : IncomingViewMessage) (s : AsyncUdpPacketClient ω Payload) :
    locateAwaiter serializer message s
      = .ok (do
          let (t, _) ← addressee serializer message.buffer
          let awaiter ← (s.queue t).head?
          return (t, awaiter.event)) := by
  unfold locateAwaiter addressee
  rw [unpackInternalPacketHeader_eq, ok_bind]
  cases hparse : parseHeader message.buffer with
  | none => rfl
  | some header =>
      by_cases hserde : header.serdeType = serializer.serdeType
      · cases hqueue : s.queue header.packetType <;> simp [hserde, hqueue]
      · simp [hserde, guard]

omit [DecidableEq ω] in
/-- A record that is located is at the front of its queue, and the message has a header. -/
theorem of_locateAwaiter {serializer : PacketSerializer Obj Payload}
    {message : IncomingViewMessage} {s : AsyncUdpPacketClient ω Payload} {t : PacketType} {w : ω}
    (h : locateAwaiter serializer message s = .ok (some (t, w))) :
    (∃ payload, addressee serializer message.buffer = some (t, payload))
      ∧ ∃ awaiter rest, s.queue t = awaiter :: rest ∧ awaiter.event = w := by
  rw [locateAwaiter_eq, Except.ok.injEq] at h
  obtain ⟨⟨u, payload⟩, haddressee, h⟩ := Option.bind_eq_some_iff.mp h
  obtain ⟨awaiter, hhead, h⟩ := Option.bind_eq_some_iff.mp h
  obtain ⟨rfl, rfl⟩ := Prod.mk.inj (Option.some.inj h)
  obtain ⟨rest, hqueue⟩ := List.head?_eq_some_iff.mp hhead
  exact ⟨⟨payload, haddressee⟩, awaiter, rest, hqueue, rfl⟩

theorem derefAwaiter_of_cons {s : AsyncUdpPacketClient ω Payload} {t : PacketType}
    {awaiter : AwaitingPacket ω Payload} {rest : List (AwaitingPacket ω Payload)}
    (h : s.queue t = awaiter :: rest) : s.derefAwaiter t awaiter.event = .ok () := by
  unfold derefAwaiter
  rw [h]
  exact if_pos rfl

theorem storeAwaiter_of_cons {s : AsyncUdpPacketClient ω Payload} {t : PacketType}
    {awaiter : AwaitingPacket ω Payload} {rest : List (AwaitingPacket ω Payload)}
    (h : s.queue t = awaiter :: rest) (payload : Payload) :
    storeAwaiter t awaiter.event payload s = .ok (storePayload t payload s) := by
  rw [storeAwaiter, derefAwaiter_of_cons h, ok_bind]
  rfl

theorem setAwaiter_of_cons {s : AsyncUdpPacketClient ω Payload} {t : PacketType}
    {awaiter : AwaitingPacket ω Payload} {rest : List (AwaitingPacket ω Payload)}
    (h : s.queue t = awaiter :: rest) :
    setAwaiter t awaiter.event s = .ok (setEvent awaiter.event s) := by
  rw [setAwaiter, derefAwaiter_of_cons h, ok_bind]
  rfl

omit [DecidableEq ω] in
/-- The record at the front stays there when its payload is stored. -/
theorem queue_storePayload_of_cons {s : AsyncUdpPacketClient ω Payload} {t : PacketType}
    {awaiter : AwaitingPacket ω Payload} {rest : List (AwaitingPacket ω Payload)}
    (h : s.queue t = awaiter :: rest) (payload : Payload) :
    (storePayload t payload s).queue t
      = { awaiter with data := some (s.claimed.length, payload) } :: rest := by
  rw [storePayload_eq t payload h]
  exact queue_setQueue_self s t _

/-- The steps of `on_data_received_pre_handler`, run in turn, are the pre-handler. -/
theorem onDataReceivedPreHandler_eq_steps (serializer : PacketSerializer Obj Payload)
    (message : IncomingViewMessage) (s : AsyncUdpPacketClient ω Payload) :
    onDataReceivedPreHandler serializer message s
      = (do
          match ← locateAwaiter serializer message s with
          | none => return (s, false)
          | some (t, w) =>
              match ← serializer.decodePayload message.buffer with
              | none => return (← setAwaiter t w s, true)
              | some payload =>
                  let s ← storeAwaiter t w payload s
                  return (← setAwaiter t w s, true)) := by
  rw [onDataReceivedPreHandler_eq, locateAwaiter_eq, ok_bind]
  cases haddressee : addressee serializer message.buffer with
  | none => rfl
  | some target =>
      obtain ⟨t, payload⟩ := target
      have hdecode := decodePayload_of_addressee haddressee
      cases hqueue : s.queue t with
      | nil => simp [hqueue, deliver]
      | cons awaiter rest =>
          cases payload with
          | none => simp [hqueue, hdecode, deliver, setAwaiter_of_cons hqueue]
          | some payload =>
              have hstored := setAwaiter_of_cons (queue_storePayload_of_cons hqueue payload)
              simp [hqueue, hdecode, deliver, storeAwaiter_of_cons hqueue, hstored]

end AsyncUdpPacketClient

/-! ## A delivery among the waiting calls -/

/-- How far a delivery has come since its lookup. -/
inductive DeliveryProgress (Payload : Type) : Type where
  | located (buffer : List UInt8)
  | decoded (payload : Option Payload)
  | stored

/-- A delivery after its lookup: its reference, which names the queue and the event of the
record, and how far it has come.  `wasSet` tells whether the event was set at the lookup, and
`overtaken` whether the call of the record has popped since; both are kept for the statements
only. -/
structure Delivery (ω Payload : Type) where
  packetType : PacketType
  event : ω
  progress : DeliveryProgress Payload
  wasSet : Bool
  overtaken : Bool := false

/-- The waiting calls and the delivery that the network thread is in. -/
structure DeliveringClient (ω Payload : Type) where
  waits : AsyncUdpPacketClient ω Payload := {}
  delivery : Option (Delivery ω Payload) := none
  fault : Option Fault := none

/-- A step of a call of `async_wait_for_packet`, or the next step of the pre-handler. -/
inductive DeliveryAction (ω : Type) : Type where
  | call (a : AsyncAction ω)
  | lookup (message : IncomingViewMessage)
  | decode
  | store
  | set

namespace Delivery

variable {ω Payload : Type} [DecidableEq ω]

/-- A delivery takes note of the pop of the call whose record it refers to. -/
def note (d : Delivery ω Payload) : AsyncAction ω → Delivery ω Payload
  | .pop w => { d with overtaken := d.overtaken || decide (d.event = w) }
  | _ => d

end Delivery

namespace DeliveringClient

variable {ω Obj Payload : Type}

/-- The state after a step of the network thread, which may run into a fault. -/
def settle (s : DeliveringClient ω Payload) :
    Checked (DeliveringClient ω Payload) → DeliveringClient ω Payload
  | .ok s' => s'
  | .error e => { s with fault := some e }

variable [DecidableEq ω]

/-- The lookup under the lock. -/
def lookup (serializer : PacketSerializer Obj Payload) (message : IncomingViewMessage)
    (s : DeliveringClient ω Payload) : Checked (DeliveringClient ω Payload) := do
  match ← s.waits.locateAwaiter serializer message with
  | none => return s
  | some (t, w) =>
      let delivery : Delivery ω Payload :=
        { packetType := t
          event := w
          progress := .located message.buffer
          wasSet := s.waits.isSet w }
      return { s with delivery := some delivery }

/-- The decoding, which needs no record. -/
def decode (serializer : PacketSerializer Obj Payload) (buffer : List UInt8)
    (d : Delivery ω Payload) (s : DeliveringClient ω Payload) :
    Checked (DeliveringClient ω Payload) := do
  let payload ← serializer.decodePayload buffer
  return { s with delivery := some { d with progress := .decoded payload } }

/-- The store into the record. -/
def store (payload : Payload) (d : Delivery ω Payload) (s : DeliveringClient ω Payload) :
    Checked (DeliveringClient ω Payload) := do
  let waits ← s.waits.storeAwaiter d.packetType d.event payload
  return { s with waits := waits, delivery := some { d with progress := .stored } }

/-- The event of the record is set, and the delivery is over. -/
def set (d : Delivery ω Payload) (s : DeliveringClient ω Payload) :
    Checked (DeliveringClient ω Payload) := do
  let waits ← s.waits.setAwaiter d.packetType d.event
  return { s with waits := waits, delivery := none }

/-- One step.  The network thread delivers one message at a time; a payload that does not
decode is not stored, but its event is set. -/
def step (serializer : PacketSerializer Obj Payload) (s : DeliveringClient ω Payload)
    (a : DeliveryAction ω) : Option (DeliveringClient ω Payload) :=
  if s.fault.isSome then none
  else
    match a, s.delivery with
    | .call (.deliver _), _ => none
    | .call a, delivery =>
        (AsyncUdpPacketClient.step serializer s.waits a).map fun waits =>
          { s with waits := waits, delivery := delivery.map fun d => d.note a }
    | .lookup message, none => some (s.settle (lookup serializer message s))
    | .decode, some d =>
        match d.progress with
        | .located buffer => some (s.settle (decode serializer buffer d s))
        | _ => none
    | .store, some d =>
        match d.progress with
        | .decoded (some payload) => some (s.settle (store payload d s))
        | _ => none
    | .set, some d =>
        match d.progress with
        | .decoded none => some (s.settle (set d s))
        | .stored => some (s.settle (set d s))
        | _ => none
    | _, _ => none

/-- The machine of one asynchronous client whose deliveries are taken in steps. -/
def machine (ω : Type) [DecidableEq ω] (serializer : PacketSerializer Obj Payload) :
    Machine (DeliveringClient ω Payload) (DeliveryAction ω) where
  init := {}
  step := step serializer

/-! ## What a step can do -/

variable {serializer : PacketSerializer Obj Payload} {s s' : DeliveringClient ω Payload}

/-- **What a step can do**, with the guards evaluated. -/
theorem step_cases {a : DeliveryAction ω} (h : step serializer s a = some s') :
    (∃ b waits, a = .call b ∧ (∀ message, b ≠ .deliver message)
      ∧ AsyncUdpPacketClient.step serializer s.waits b = some waits
      ∧ s' = { s with waits := waits, delivery := s.delivery.map fun d => d.note b })
    ∨ (∃ message, a = .lookup message ∧ s.delivery = none
      ∧ s' = s.settle (lookup serializer message s))
    ∨ (∃ d buffer, a = .decode ∧ s.delivery = some d ∧ d.progress = .located buffer
      ∧ s' = s.settle (decode serializer buffer d s))
    ∨ (∃ d payload, a = .store ∧ s.delivery = some d ∧ s' = s.settle (store payload d s))
    ∨ (∃ d, a = .set ∧ s.delivery = some d ∧ s' = s.settle (set d s)) := by
  unfold step at h
  split at h
  · cases h
  split at h
  · cases h
  · rename_i b hnot
    obtain ⟨waits, hstep, rfl⟩ := Option.map_eq_some_iff.mp h
    exact .inl ⟨b, waits, rfl, fun message hb => hnot message hb, hstep, rfl⟩
  · rename_i message hdelivery
    exact .inr (.inl ⟨message, rfl, hdelivery, (Option.some.inj h).symm⟩)
  · rename_i d hdelivery
    split at h
    · rename_i buffer hprogress
      exact .inr (.inr (.inl ⟨d, buffer, rfl, hdelivery, hprogress, (Option.some.inj h).symm⟩))
    · cases h
  · rename_i d hdelivery
    split at h
    · rename_i payload hprogress
      exact .inr (.inr (.inr (.inl ⟨d, payload, rfl, hdelivery, (Option.some.inj h).symm⟩)))
    · cases h
  · rename_i d hdelivery
    split at h
    · exact .inr (.inr (.inr (.inr ⟨d, rfl, hdelivery, (Option.some.inj h).symm⟩)))
    · exact .inr (.inr (.inr (.inr ⟨d, rfl, hdelivery, (Option.some.inj h).symm⟩)))
    · cases h
  · cases h

/-! ## What a reference refers to -/

open AsyncUdpPacketClient

/-- A reference is to the record at the front until its call pops, and a call whose event was
not set at the lookup cannot pop before this delivery sets it. -/
structure Refers (waits : AsyncUdpPacketClient ω Payload) (d : Delivery ω Payload) : Prop where
  front : d.overtaken = false → ∃ awaiter rest, waits.queue d.packetType = awaiter :: rest
    ∧ awaiter.event = d.event
  back : d.overtaken = true → (waits.phase d.event).isReturned = true
  fresh : d.wasSet = false → waits.isSet d.event = false ∧ d.overtaken = false

/-- The invariant of the machine while no write has gone wrong. -/
structure ReferenceMatches (s : DeliveringClient ω Payload) : Prop where
  notFailed : s.fault = none
  consistent : Consistent s.waits
  header : ∀ d buffer, s.delivery = some d → d.progress = .located buffer →
    headerSize ≤ buffer.length
  refers : ∀ d, s.delivery = some d → Refers s.waits d

theorem isReturned_step {waits waits' : AsyncUdpPacketClient ω Payload} {b : AsyncAction ω}
    {w : ω}
    (hs : Consistent waits) (hstep : AsyncUdpPacketClient.step serializer waits b = some waits')
    (hw : (waits.phase w).isReturned = true) : (waits'.phase w).isReturned = true := by
  cases hphase : waits.phase w with
  | returned t awaiter =>
      rw [phase_of_returned hs hstep hphase]
      rfl
  | _ =>
      rw [hphase] at hw
      cases hw

/-- A step of a call keeps a reference, or overtakes it. -/
theorem refers_call {waits waits' : AsyncUdpPacketClient ω Payload} {b : AsyncAction ω}
    {d : Delivery ω Payload} (hs : Consistent waits) (hnot : ∀ message, b ≠ .deliver message)
    (hstep : AsyncUdpPacketClient.step serializer waits b = some waits') (h : Refers waits d) :
    Refers waits' (d.note b) := by
  have hback := fun hd => isReturned_step hs hstep (h.back hd)
  rcases AsyncUdpPacketClient.step_cases hstep with
      ⟨v, u, rfl, -, rfl⟩ | ⟨v, u, rfl, -, rfl⟩ | ⟨message, rfl, -⟩ | ⟨message, u, payload, rfl, -⟩
      | ⟨v, u, rfl, hv, rfl⟩
  · refine ⟨fun hd => ?_, hback, ?_⟩
    · obtain ⟨awaiter, rest, hqueue, hevent⟩ := h.front hd
      show ∃ awaiter rest, (register v u waits).queue d.packetType = awaiter :: rest
        ∧ awaiter.event = d.event
      rw [queue_register]
      split
      · rename_i hu
        subst hu
        exact ⟨awaiter, rest ++ [{ event := v }], by rw [hqueue]; rfl, hevent⟩
      · exact ⟨awaiter, rest, hqueue, hevent⟩
    · rw [register_eq]
      exact h.fresh
  · exact ⟨h.front, hback, h.fresh⟩
  · exact absurd rfl (hnot message)
  · exact absurd rfl (hnot message)
  -- a pop takes the record of its own call, which has a set event
  · refine ⟨?_, ?_, ?_⟩
    · intro hd
      obtain ⟨hd, hne⟩ := Bool.or_eq_false_iff.mp hd
      have hne : d.event ≠ v := of_decide_eq_false hne
      obtain ⟨awaiter, rest, hqueue, hevent⟩ := h.front hd
      obtain ⟨awaiter', rest', hqueue', rfl⟩ := hs.front_of_resumed hv
      refine ⟨awaiter, rest, ?_, hevent⟩
      show (pop awaiter'.event u waits).queue d.packetType = _
      rw [queue_pop, if_neg, hqueue]
      rintro rfl
      obtain rfl := (List.cons.inj (hqueue.symm.trans hqueue')).1
      exact hne hevent.symm
    · intro hd
      rcases Bool.or_eq_true_iff.mp hd with hd | heq
      · exact hback hd
      · have heq : d.event = v := of_decide_eq_true heq
        show ((pop v u waits).phase d.event).isReturned = true
        rw [phase_pop, heq, Function.update_self]
        rfl
    · intro hd
      obtain ⟨hunset, hnot⟩ := h.fresh hd
      have hne : d.event ≠ v := by
        rintro rfl
        have hset := hs.event d.event
        rw [hv] at hset
        cases hunset.symm.trans hset
      refine ⟨?_, Bool.or_eq_false_iff.mpr ⟨hnot, decide_eq_false hne⟩⟩
      show (pop v u waits).isSet d.event = false
      rw [isSet_pop]
      exact hunset

omit [DecidableEq ω] in
/-- A store through a reference that was not overtaken keeps the record at the front. -/
theorem refers_storePayload {waits : AsyncUdpPacketClient ω Payload} {d : Delivery ω Payload}
    {awaiter : AwaitingPacket ω Payload} {rest : List (AwaitingPacket ω Payload)}
    (hqueue : waits.queue d.packetType = awaiter :: rest) (hevent : awaiter.event = d.event)
    (hnot : d.overtaken = false) (h : Refers waits d) (payload : Payload) :
    Refers (storePayload d.packetType payload waits) { d with progress := .stored } := by
  refine ⟨fun _ => ⟨_, rest, queue_storePayload_of_cons hqueue payload, hevent⟩, ?_, ?_⟩
  · intro hd
    cases hnot.symm.trans hd
  · rw [storePayload_eq _ payload hqueue]
    exact h.fresh

/-! ## The steps keep the reference -/

/-- The record that the delivery refers to is in its queue, and its call has not come back. -/
def RecordQueued (waits : AsyncUdpPacketClient ω Payload) (d : Delivery ω Payload) : Prop :=
  (∃ record ∈ waits.queue d.packetType, record.event = d.event)
    ∧ (waits.phase d.event).isReturned = false

/-- The payload is stored, and the event set, while the record is queued. -/
def WritesQueued (s : DeliveringClient ω Payload) (a : DeliveryAction ω)
    (_ : DeliveringClient ω Payload) : Prop :=
  match a with
  | .store => ∀ d, s.delivery = some d → RecordQueued s.waits d
  | .set => ∀ d, s.delivery = some d → RecordQueued s.waits d
  | _ => True

/-- No delivery whose record had a set event at the lookup writes after the call of that
record has popped. -/
def NotOvertaken (s : DeliveringClient ω Payload) : DeliveryAction ω → Prop
  | .store => ∀ d, s.delivery = some d → ¬ (d.wasSet = true ∧ d.overtaken = true)
  | .set => ∀ d, s.delivery = some d → ¬ (d.wasSet = true ∧ d.overtaken = true)
  | _ => True

omit [DecidableEq ω] in
theorem ReferenceMatches.overtaken_eq_false (h : ReferenceMatches s) {d : Delivery ω Payload}
    (hd : s.delivery = some d) (hok : ¬ (d.wasSet = true ∧ d.overtaken = true)) :
    d.overtaken = false := by
  cases hset : d.wasSet with
  | false => exact ((h.refers d hd).fresh hset).2
  | true => exact Bool.eq_false_iff.mpr fun hovertaken => hok ⟨hset, hovertaken⟩

omit [DecidableEq ω] in
/-- A record that is at the front is queued, and its call has not come back. -/
theorem recordQueued_of_front {waits : AsyncUdpPacketClient ω Payload} {d : Delivery ω Payload}
    {awaiter : AwaitingPacket ω Payload} {rest : List (AwaitingPacket ω Payload)}
    (hs : Consistent waits) (hqueue : waits.queue d.packetType = awaiter :: rest)
    (hevent : awaiter.event = d.event) : RecordQueued waits d := by
  refine ⟨⟨awaiter, hqueue ▸ List.mem_cons_self, hevent⟩, ?_⟩
  have hmem : d.event ∈ waits.waiters d.packetType := by
    rw [waiters_eq_cons hqueue, hevent]
    exact List.mem_cons_self
  have hwaits := (hs.waiting _ _).mpr hmem
  cases hphase : waits.phase d.event with
  | returned t awaiter =>
      rw [hphase] at hwaits
      cases hwaits
  | _ => rfl

omit [DecidableEq ω] in
/-- A record that is queued was not overtaken. -/
theorem ReferenceMatches.not_overtaken (h : ReferenceMatches s) {d : Delivery ω Payload}
    (hd : s.delivery = some d) (hqueued : RecordQueued s.waits d) :
    ¬ (d.wasSet = true ∧ d.overtaken = true) := by
  rintro ⟨-, hovertaken⟩
  cases hqueued.2.symm.trans ((h.refers d hd).back hovertaken)

theorem referenceMatches_call {b : AsyncAction ω} {waits : AsyncUdpPacketClient ω Payload}
    (h : ReferenceMatches s) (hnot : ∀ message, b ≠ .deliver message)
    (hstep : AsyncUdpPacketClient.step serializer s.waits b = some waits) :
    ReferenceMatches { s with waits := waits, delivery := s.delivery.map fun d => d.note b } := by
  refine ⟨h.notFailed, consistent_step hstep h.consistent, ?_, ?_⟩
  · intro d' buffer hd' hprogress
    obtain ⟨d, hd, rfl⟩ := Option.map_eq_some_iff.mp hd'
    refine h.header d buffer hd ?_
    rw [← hprogress]
    cases b <;> rfl
  · intro d' hd'
    obtain ⟨d, hd, rfl⟩ := Option.map_eq_some_iff.mp hd'
    exact refers_call h.consistent hnot hstep (h.refers d hd)

omit [DecidableEq ω] in
theorem referenceMatches_lookup (h : ReferenceMatches s) (message : IncomingViewMessage) :
    ReferenceMatches (s.settle (lookup serializer message s)) := by
  cases hlocated : s.waits.locateAwaiter serializer message with
  | error e =>
      rw [locateAwaiter_eq] at hlocated
      cases hlocated
  | ok located =>
      unfold lookup
      rw [hlocated]
      cases located with
      | none => exact h
      | some found =>
          obtain ⟨⟨payload, haddressee⟩, hfront⟩ := of_locateAwaiter hlocated
          refine ⟨h.notFailed, h.consistent, ?_, ?_⟩
          · rintro d buffer ⟨⟩ ⟨⟩
            exact headerSize_le_of_addressee haddressee
          · rintro d ⟨⟩
            exact ⟨fun _ => hfront, nofun, fun hunset => ⟨hunset, rfl⟩⟩

omit [DecidableEq ω] in
theorem referenceMatches_decode (h : ReferenceMatches s) {d : Delivery ω Payload}
    {buffer : List UInt8} (hd : s.delivery = some d) (hprogress : d.progress = .located buffer) :
    ReferenceMatches (s.settle (decode serializer buffer d s)) := by
  unfold decode
  rw [serializer.decodePayload_eq (h.header d buffer hd hprogress), ok_bind]
  refine ⟨h.notFailed, h.consistent, ?_, ?_⟩
  · rintro d' buffer' ⟨⟩ hlocated
    cases hlocated
  · rintro d' ⟨⟩
    have hrefers := h.refers d hd
    exact ⟨hrefers.front, hrefers.back, hrefers.fresh⟩

theorem referenceMatches_store (h : ReferenceMatches s) {d : Delivery ω Payload}
    (hd : s.delivery = some d) (hnot : d.overtaken = false) (payload : Payload) :
    ReferenceMatches (s.settle (store payload d s)) := by
  have hrefers := h.refers d hd
  obtain ⟨awaiter, rest, hqueue, hevent⟩ := hrefers.front hnot
  have hstore := storeAwaiter_of_cons hqueue payload
  rw [hevent] at hstore
  unfold store
  rw [hstore, ok_bind]
  refine ⟨h.notFailed, consistent_storePayload h.consistent hqueue payload, ?_, ?_⟩
  · rintro d' buffer' ⟨⟩ hlocated
    cases hlocated
  · rintro d' ⟨⟩
    exact refers_storePayload hqueue hevent hnot hrefers payload

theorem referenceMatches_set (h : ReferenceMatches s) {d : Delivery ω Payload}
    (hd : s.delivery = some d) (hnot : d.overtaken = false) :
    ReferenceMatches (s.settle (set d s)) := by
  obtain ⟨awaiter, rest, hqueue, hevent⟩ := (h.refers d hd).front hnot
  have hset := setAwaiter_of_cons hqueue
  rw [hevent] at hset
  have hfront : s.waits.waiters d.packetType = d.event :: rest.map (·.event) :=
    hevent ▸ waiters_eq_cons hqueue
  unfold set
  rw [hset, ok_bind]
  exact ⟨h.notFailed, consistent_setEvent h.consistent hfront, nofun, nofun⟩

/-- A step that is not overtaken writes to a queued record, and keeps the invariant. -/
theorem referenceMatches_step {a : DeliveryAction ω} (hstep : step serializer s a = some s')
    (h : ReferenceMatches s) (hok : NotOvertaken s a) :
    ReferenceMatches s' ∧ WritesQueued s a s' := by
  have hqueued : ∀ d, s.delivery = some d → d.overtaken = false → RecordQueued s.waits d := by
    intro d hd hnot
    obtain ⟨awaiter, rest, hqueue, hevent⟩ := (h.refers d hd).front hnot
    exact recordQueued_of_front h.consistent hqueue hevent
  rcases step_cases hstep with
      ⟨b, waits, rfl, hnot, hcall, rfl⟩ | ⟨message, rfl, -, rfl⟩
      | ⟨d, buffer, rfl, hd, hprogress, rfl⟩ | ⟨d, payload, rfl, hd, rfl⟩ | ⟨d, rfl, hd, rfl⟩
  · exact ⟨referenceMatches_call h hnot hcall, trivial⟩
  · exact ⟨referenceMatches_lookup h message, trivial⟩
  · exact ⟨referenceMatches_decode h hd hprogress, trivial⟩
  · refine ⟨referenceMatches_store h hd (h.overtaken_eq_false hd (hok d hd)) payload, ?_⟩
    exact fun d hd => hqueued d hd (h.overtaken_eq_false hd (hok d hd))
  · refine ⟨referenceMatches_set h hd (h.overtaken_eq_false hd (hok d hd)), ?_⟩
    exact fun d hd => hqueued d hd (h.overtaken_eq_false hd (hok d hd))

theorem referenceMatches_init (serializer : PacketSerializer Obj Payload) :
    ReferenceMatches (machine ω serializer).init :=
  ⟨rfl, consistent_init, nofun, nofun⟩

/-- **When a delivery writes to a queued record**: along a run every payload is stored, and
every event set, while the record is queued and its call has not come back, exactly when no
delivery whose record had a set event at the lookup writes after the pop of that record. -/
theorem writesQueued_iff (serializer : PacketSerializer Obj Payload)
    (as : List (DeliveryAction ω)) :
    (machine ω serializer).EachStep WritesQueued (machine ω serializer).init as
      ↔ (machine ω serializer).EachStep (fun s a _ => NotOvertaken s a)
          (machine ω serializer).init as := by
  refine Machine.eachStep_iff_eachStep (M := machine ω serializer) (I := ReferenceMatches)
    (fun s a s' hstep h hok => referenceMatches_step hstep h hok) ?_
    (referenceMatches_init serializer) as
  intro s a s' _ h hqueued
  cases a with
  | store => exact fun d hd => h.not_overtaken hd (hqueued d hd)
  | set => exact fun d hd => h.not_overtaken hd (hqueued d hd)
  | _ => trivial

/-- Two packets of one type reach the only call that waits for it.  The second delivery finds
the event set by the first, and the call pops its record before the payload is stored. -/
theorem not_writesQueued_second_packet :
    ¬ ∀ as : List (DeliveryAction Unit),
      (machine Unit binaryPacketSerializer).EachStep WritesQueued
        (machine Unit binaryPacketSerializer).init as := by
  intro h
  let message : IncomingViewMessage := { buffer := headerBytes .bin .unknown ++ [1], conn := 7 }
  have hrun := h [.call (.register () .unknown), .lookup message, .decode, .store, .set,
    .lookup message, .call (.await ()), .call (.pop ()), .decode, .store]
  have hstore := ((((((((((hrun _ rfl).2 _ rfl).2 _ rfl).2 _ rfl).2 _ rfl).2 _ rfl).2 _ rfl).2
    _ rfl).2 _ rfl).2 _ rfl).1
  exact absurd (hstore _ rfl).2 (by decide)

end DeliveringClient

end KbNetworking
