/-
# A request and the wait for its reply

An application sends a request and then calls `async_wait_for_packet`, which registers its
record once the coroutine runs on the thread pool.  The network thread handles the reply at
any moment after the request was sent.  `on_data_received_pre_handler` takes a packet only
when it finds a record, and a packet that it does not take goes to the handlers.

`replyReceived_iff` proves that the reply is the result of the wait exactly when it is
handled after the wait has registered its record.
-/
import KbNetworking.AsyncDelivery
import KbNetworking.PacketDelivery

namespace KbNetworking

open Cpp

/-! ## A message that the asynchronous client handles -/

/-- The result of `handle_message` for a packet that the pre-handler takes. -/
def HandleResult.taken {ω : Type} : HandleResult ω := { returned := true, invoked := [] }

namespace UdpPacketClient

variable {ω Obj Payload H : Type}

/-- Without a pre-handler a packet is accepted only by running a handler. -/
theorem handleMessage_ne_taken {σ : Type} (self : UdpPacketClient Obj Payload H)
    (message : IncomingViewMessage) (s : σ) :
    ∃ result, result ≠ .taken ∧ self.handleMessage none message s = .ok (s, result) := by
  refine ⟨_, ?_, self.handleMessage_eq message s⟩
  cases dispatch self.serializer self.handlers message.buffer <;>
    simp [HandleResult.rejected, HandleResult.taken]

variable [DecidableEq ω]

open AsyncUdpPacketClient in
/-- `handle_message` with the pre-handler of the asynchronous client: a packet is taken where
its delivery finds a record. -/
theorem handleMessage_of_addressee (self : UdpPacketClient Obj Payload H)
    {message : IncomingViewMessage} {t : PacketType} {payload : Option Payload}
    (h : addressee self.serializer message.buffer = some (t, payload))
    (s : AsyncUdpPacketClient ω Payload) :
    ∃ result, result ≠ .taken
      ∧ self.handleMessage (preHandler self.serializer) message s
        = .ok ((deliver t payload s).1, if (deliver t payload s).2 then .taken else result) := by
  obtain ⟨result, hne, hplain⟩ := self.handleMessage_ne_taken message (deliver t payload s).1
  refine ⟨result, hne, ?_⟩
  rw [handleMessage_preHandler self h s, hplain]
  cases (deliver t payload s).2 <;> rfl

end UdpPacketClient

/-- Whether a call has come back. -/
def WaitPhase.isReturned {ω Payload : Type} : WaitPhase ω Payload → Bool
  | .returned _ _ => true
  | _ => false

/-! ## What a step does for one call -/

namespace AsyncUdpPacketClient

variable {ω Obj Payload : Type} [DecidableEq ω] {serializer : PacketSerializer Obj Payload}
  {s s' : AsyncUdpPacketClient ω Payload}

/-- A packet that finds no record is not taken. -/
theorem deliver_of_nil {t : PacketType} (h : s.queue t = []) (payload : Option Payload) :
    deliver t payload s = (s, false) := by
  unfold deliver
  rw [h]

theorem deliver_of_cons {t : PacketType} {awaiter : AwaitingPacket ω Payload}
    {rest : List (AwaitingPacket ω Payload)} (h : s.queue t = awaiter :: rest)
    (payload : Payload) :
    deliver t (some payload) s = (setEvent awaiter.event (storePayload t payload s), true) := by
  unfold deliver
  rw [h]

/-- A delivery leaves a call alone whose record is not at the front. -/
theorem deliver_other {t : PacketType} {w : ω} (hw : w ∉ s.waiters t) (payload : Option Payload) :
    (deliver t payload s).1.phase w = s.phase w
      ∧ (deliver t payload s).1.isSet w = s.isSet w := by
  have hne : ∀ {awaiter : AwaitingPacket ω Payload} {rest : List (AwaitingPacket ω Payload)},
      s.queue t = awaiter :: rest → w ≠ awaiter.event := by
    rintro awaiter rest hqueue rfl
    rw [waiters_eq_cons hqueue] at hw
    exact hw List.mem_cons_self
  rcases deliver_cases t payload s with
      ⟨-, heq⟩ | ⟨awaiter, rest, hqueue, -, heq⟩ | ⟨awaiter, rest, value, hqueue, -, heq⟩
  · rw [heq]
    exact ⟨rfl, rfl⟩
  · rw [heq]
    exact ⟨Function.update_of_ne (hne hqueue) _ _, Function.update_of_ne (hne hqueue) _ _⟩
  · rw [heq, storePayload_eq t value hqueue]
    exact ⟨Function.update_of_ne (hne hqueue) _ _, Function.update_of_ne (hne hqueue) _ _⟩

/-- A step that is about other types and other calls leaves the queue of `t` and the call `w`
alone, so that the steps which change them are those of `w` itself. -/
theorem own_or_other {a : AsyncAction ω} {w : ω} {t : PacketType} (hs : Consistent s)
    (hstep : step serializer s a = some s') (honly : ∀ v ∈ s.waiters t, v = w)
    (hhere : ∀ u, w ∈ s.waiters u → u = t)
    (hregister : ∀ v u, a = .register v u → (v = w ↔ u = t))
    (hdeliver : ∀ message u payload, a = .deliver message →
      addressee serializer message.buffer = some (u, payload) → u ≠ t) :
    (s'.queue t = s.queue t ∧ s'.phase w = s.phase w ∧ s'.isSet w = s.isSet w)
    ∨ (s.phase w = .idle ∧ s' = register w t s)
    ∨ (∃ u, s.phase w = .registered u ∧ s' = await w u s)
    ∨ (∃ u, s.phase w = .resumed u ∧ s' = pop w u s) := by
  rcases step_cases hstep with
      ⟨v, u, rfl, hv, rfl⟩ | ⟨v, u, rfl, hv, rfl⟩ | ⟨message, rfl, -, rfl⟩
      | ⟨message, u, payload, rfl, haddressee, rfl⟩ | ⟨v, u, rfl, hv, rfl⟩
  · by_cases hvw : v = w
    · obtain rfl := (hregister v u rfl).mp hvw
      obtain rfl := hvw
      exact .inr (.inl ⟨hv, rfl⟩)
    · have hut : u ≠ t := fun hu => hvw ((hregister v u rfl).mpr hu)
      refine .inl ⟨?_, Function.update_of_ne (Ne.symm hvw) _ _, rfl⟩
      rw [queue_register, if_neg hut]
  · by_cases hvw : v = w
    · obtain rfl := hvw
      exact .inr (.inr (.inl ⟨u, hv, rfl⟩))
    · exact .inl ⟨queue_await v u s t, Function.update_of_ne (Ne.symm hvw) _ _, rfl⟩
  · exact .inl ⟨rfl, rfl, rfl⟩
  · have hut : u ≠ t := hdeliver message u payload rfl haddressee
    have hw : w ∉ s.waiters u := fun hmem => hut (hhere u hmem)
    obtain ⟨hphase, hisSet⟩ := deliver_other hw payload
    exact .inl ⟨queue_deliver_of_ne (Ne.symm hut) payload s, hphase, hisSet⟩
  · by_cases hvw : v = w
    · obtain rfl := hvw
      exact .inr (.inr (.inr ⟨u, hv, rfl⟩))
    · have hmem : v ∈ s.waiters u := (hs.waiting v u).mp (by rw [hv]; rfl)
      have hut : u ≠ t := by
        rintro rfl
        exact hvw (honly v hmem)
      refine .inl ⟨?_, ?_, ?_⟩
      · rw [queue_pop, if_neg hut]
      · rw [phase_pop, Function.update_of_ne (Ne.symm hvw)]
      · rw [isSet_pop]

/-- A set event stays set. -/
theorem isSet_step {a : AsyncAction ω} (hstep : step serializer s a = some s') {w : ω}
    (hset : s.isSet w = true) : s'.isSet w = true := by
  rcases step_cases hstep with
      ⟨v, u, -, -, rfl⟩ | ⟨v, u, -, -, rfl⟩ | ⟨message, -, -, rfl⟩
      | ⟨message, u, payload, -, -, rfl⟩ | ⟨v, u, -, -, rfl⟩
  · rw [register_eq]
    exact hset
  · exact hset
  · exact hset
  · rcases deliver_cases u payload s with
        ⟨-, heq⟩ | ⟨awaiter, rest, -, -, heq⟩ | ⟨awaiter, rest, value, hqueue, -, heq⟩
    · rw [heq]
      exact hset
    · rw [heq]
      exact isSet_setEvent hset _
    · rw [heq, storePayload_eq u value hqueue]
      exact isSet_setEvent hset _
  · rw [isSet_pop]
    exact hset

/-- A call that has come back stays as it is. -/
theorem phase_of_returned {a : AsyncAction ω} (hs : Consistent s)
    (hstep : step serializer s a = some s') {w : ω} {t : PacketType}
    {awaiter : Option (AwaitingPacket ω Payload)} (hw : s.phase w = .returned t awaiter) :
    s'.phase w = .returned t awaiter := by
  have hnobody : ∀ u, w ∉ s.waiters u := by
    intro u hmem
    have hwaits := (hs.waiting w u).mpr hmem
    rw [hw] at hwaits
    cases hwaits
  have hother : ∀ {v : ω} {phase : WaitPhase ω Payload}, s.phase v = phase →
      phase.isReturned = false → w ≠ v := by
    rintro v phase hv hphase rfl
    rw [hw] at hv
    subst hv
    cases hphase
  rw [← hw]
  rcases step_cases hstep with
      ⟨v, u, -, hv, rfl⟩ | ⟨v, u, -, hv, rfl⟩ | ⟨message, -, -, rfl⟩
      | ⟨message, u, payload, -, -, rfl⟩ | ⟨v, u, -, hv, rfl⟩
  · exact Function.update_of_ne (hother hv rfl) _ _
  · exact Function.update_of_ne (hother hv rfl) _ _
  · rfl
  · exact (deliver_other (hnobody u) payload).1
  · rw [phase_pop]
    exact Function.update_of_ne (hother hv rfl) _ _

end AsyncUdpPacketClient

/-! ## A request and its reply -/

/-- The asynchronous client between a request and the wait for its reply: its waiting calls,
the `UdpClient` that sends, and what `handle_message` did with the reply. -/
structure RequestingClient (ω Payload H ι : Type) where
  waits : AsyncUdpPacketClient ω Payload := {}
  context : ClientContext ι
  requested : Bool := false
  reply : Option (Payload × HandleResult (H × Payload)) := none

/-- `send_packet` for the request, a step of the calls of `async_wait_for_packet` or another
message, and the reply. -/
inductive RequestAction (ω Obj : Type) : Type where
  | send (requestType : PacketType) (object : Obj) (reliable sent : Bool)
  | wait (a : AsyncAction ω)
  | reply (message : IncomingViewMessage)

namespace RequestingClient

variable {ω Obj Payload H ι : Type}

/-- The request is out and the call `w` has not come back. -/
def awaited (w : ω) (s : RequestingClient ω Payload H ι) : Bool :=
  s.requested && !(s.waits.phase w).isReturned

variable [DecidableEq ω]

/-- What the other threads may do until the call `w` comes back: no other call waits for `t`,
`w` waits for nothing else, and the reply is the only packet of type `t`. -/
def allowed (serializer : PacketSerializer Obj Payload) (w : ω) (t : PacketType)
    (s : RequestingClient ω Payload H ι) : AsyncAction ω → Bool
  | .register v u => !s.awaited w || (decide (v = w) == decide (u = t))
  | .deliver message =>
      !s.awaited w
        || ((AsyncUdpPacketClient.addressee serializer message.buffer).map (·.1) != some t)
  | _ => true

/-- The network thread handles the reply. -/
def handleReply (self : UdpPacketClient Obj Payload H) (message : IncomingViewMessage)
    (payload : Payload) (s : RequestingClient ω Payload H ι) :
    Checked (RequestingClient ω Payload H ι) := do
  let (waits, result) ← self.handleMessage (AsyncUdpPacketClient.preHandler self.serializer)
    message s.waits
  return { s with waits := waits, reply := some (payload, result) }

/-- One step.  The request is sent once, before `w` registers and while no call waits for `t`;
the reply is a packet of type `t` that decodes. -/
def step (self : UdpPacketClient Obj Payload H) (w : ω) (t : PacketType)
    (s : RequestingClient ω Payload H ι) :
    RequestAction ω Obj → Option (RequestingClient ω Payload H ι)
  | .send requestType object reliable sent =>
      match s.requested, s.waits.phase w, s.waits.queue t with
      | false, .idle, [] =>
          match self.sendPacket requestType object reliable sent s.context with
          | .ok (context, _) => some { s with context := context, requested := true }
          | .error _ => none
      | _, _, _ => none
  | .wait a =>
      if s.allowed self.serializer w t a then
        (AsyncUdpPacketClient.step self.serializer s.waits a).map fun waits =>
          { s with waits := waits }
      else none
  | .reply message =>
      match s.requested, s.reply, AsyncUdpPacketClient.addressee self.serializer message.buffer with
      | true, none, some (u, some payload) =>
          if u = t then (handleReply self message payload s).toOption else none
      | _, _, _ => none

/-- The machine of one request of the call `w` for a reply of type `t`. -/
def machine (self : UdpPacketClient Obj Payload H) (w : ω) (t : PacketType)
    (context : ClientContext ι) :
    Machine (RequestingClient ω Payload H ι) (RequestAction ω Obj) where
  init := { context := context }
  step := step self w t

/-! ## What a step can do -/

variable {self : UdpPacketClient Obj Payload H} {w : ω} {t : PacketType}
  {s s' : RequestingClient ω Payload H ι}

/-- **What a step can do**, with the guards evaluated and the reply handled. -/
theorem step_cases {a : RequestAction ω Obj} (h : step self w t s a = some s') :
    (∃ context, s.requested = false ∧ s.waits.phase w = .idle ∧ s.waits.queue t = []
      ∧ (∀ message, a ≠ .reply message)
      ∧ s' = { s with context := context, requested := true })
    ∨ (∃ b waits, a = .wait b ∧ s.allowed self.serializer w t b = true
      ∧ AsyncUdpPacketClient.step self.serializer s.waits b = some waits
      ∧ s' = { s with waits := waits })
    ∨ (∃ message payload result, a = .reply message ∧ s.requested = true ∧ s.reply = none
      ∧ result ≠ .taken
      ∧ s' = { s with
          waits := (AsyncUdpPacketClient.deliver t (some payload) s.waits).1
          reply := some (payload,
            if (AsyncUdpPacketClient.deliver t (some payload) s.waits).2 then .taken
            else result) }) := by
  cases a with
  | send requestType object reliable sent =>
      rw [step] at h
      split at h
      · rename_i hrequested hphase hqueue
        split at h
        · rename_i context _ _
          exact .inl ⟨context, hrequested, hphase, hqueue, nofun, (Option.some.inj h).symm⟩
        · cases h
      · cases h
  | wait b =>
      rw [step] at h
      split at h
      · rename_i hallowed
        obtain ⟨waits, hstep, rfl⟩ := Option.map_eq_some_iff.mp h
        exact .inr (.inl ⟨b, waits, rfl, hallowed, hstep, rfl⟩)
      · cases h
  | reply message =>
      rw [step] at h
      split at h
      · rename_i u payload hrequested hreply haddressee
        split at h
        · rename_i hu
          subst hu
          obtain ⟨result, hne, hhandle⟩ := self.handleMessage_of_addressee haddressee s.waits
          unfold handleReply at h
          rw [hhandle, ok_bind] at h
          exact .inr (.inr ⟨message, payload, result, rfl, hrequested, hreply, hne,
            (Option.some.inj h).symm⟩)
        · cases h
      · cases h

/-! ## Where the reply is -/

/-- How far the request has come.  Nothing waits for `t` when it is sent; from its registration
to its pop the call `w` alone waits for `t`. -/
inductive Stage (w : ω) (t : PacketType) (s : RequestingClient ω Payload H ι) : Prop
  | unsent (hrequested : s.requested = false) (hreply : s.reply = none)
  | sent (hrequested : s.requested = true) (hreply : s.reply = none)
      (hphase : s.waits.phase w = .idle) (hqueue : s.waits.queue t = [])
  | waiting (hrequested : s.requested = true) (hreply : s.reply = none)
      (record : AwaitingPacket ω Payload) (hqueue : s.waits.queue t = [record])
      (hevent : record.event = w) (hisSet : s.waits.isSet w = false)
  | answered (hrequested : s.requested = true) (payload : Payload) (n : ℕ)
      (hreply : s.reply = some (payload, .taken))
      (record : AwaitingPacket ω Payload) (hqueue : s.waits.queue t = [record])
      (hevent : record.event = w) (hdata : record.data = some (n, payload))
      (hisSet : s.waits.isSet w = true)
  | back (hrequested : s.requested = true) (payload : Payload) (n : ℕ)
      (hreply : s.reply = some (payload, .taken)) (u : PacketType)
      (record : AwaitingPacket ω Payload)
      (hphase : s.waits.phase w = .returned u (some record))
      (hdata : record.data = some (n, payload)) (hisSet : s.waits.isSet w = true)

/-- The reply with this payload is the result of the call `w`: `handle_message` left it to the
pre-handler, the call has it, nothing holds the call up, and it comes back with the payload. -/
structure IsResult (w : ω) (s : RequestingClient ω Payload H ι) (payload : Payload)
    (handled : HandleResult (H × Payload)) : Prop where
  taken : handled = .taken
  holds : ∃ n, AsyncUdpPacketClient.Holds s.waits w (n, payload)
  canReturn : s.waits.isSet w = true ∧ ∀ u, s.waits.phase w ≠ .suspended u
  result : ∀ u awaiter, s.waits.phase w = .returned u awaiter →
    ∀ {T : Type} (payloadAs : Payload → Option T), asyncWaitResult payloadAs awaiter
      = payloadAs payload

/-- A reply that was handled is the result of the call `w`. -/
def ReplyReceived (w : ω) (s : RequestingClient ω Payload H ι) : Prop :=
  ∀ payload handled, s.reply = some (payload, handled) → IsResult w s payload handled

/-- The reply is handled after the call `w` has registered its record. -/
def AfterRegistration (w : ω) (s : RequestingClient ω Payload H ι) : RequestAction ω Obj → Prop
  | .reply _ => s.waits.phase w ≠ .idle
  | _ => True

omit [DecidableEq ω] in
theorem waiters_of_singleton {waits : AsyncUdpPacketClient ω Payload}
    {record : AwaitingPacket ω Payload} (hqueue : waits.queue t = [record])
    (hevent : record.event = w) : waits.waiters t = [w] := by
  rw [AsyncUdpPacketClient.waiters_eq_cons hqueue, hevent]
  rfl

omit [DecidableEq ω] in
open AsyncUdpPacketClient in
theorem Stage.replyReceived (hs : Consistent s.waits) (h : Stage w t s) : ReplyReceived w s := by
  intro payload handled hreply
  cases h with
  | unsent _ hnone => cases hnone.symm.trans hreply
  | sent _ hnone => cases hnone.symm.trans hreply
  | waiting _ hnone => cases hnone.symm.trans hreply
  | answered _ payload' n hsome record hqueue hevent hdata hisSet =>
      obtain ⟨rfl, rfl⟩ := Prod.mk.inj (Option.some.inj (hsome.symm.trans hreply))
      have hwaits : (s.waits.phase w).waitsFor = some t := by
        rw [hs.waiting w t, waiters_of_singleton hqueue hevent]
        exact List.mem_singleton_self w
      refine ⟨rfl, ⟨n, .inl ⟨t, record, ?_, hevent, hdata⟩⟩, ⟨hisSet, ?_⟩, ?_⟩
      · rw [hqueue]
        exact List.mem_singleton_self record
      · intro u hphase
        have hunset := hs.event w
        rw [hphase, hisSet] at hunset
        cases hunset
      · intro u awaiter hphase
        rw [hphase] at hwaits
        cases hwaits
  | back _ payload' n hsome u record hphase hdata hisSet =>
      obtain ⟨rfl, rfl⟩ := Prod.mk.inj (Option.some.inj (hsome.symm.trans hreply))
      refine ⟨rfl, ⟨n, .inr ?_⟩, ⟨hisSet, ?_⟩, ?_⟩
      · unfold Returned
        rw [hphase]
        exact hdata
      · intro v hsuspended
        cases hphase.symm.trans hsuspended
      · intro v awaiter hreturned T payloadAs
        cases hphase.symm.trans hreturned
        rw [asyncWaitResult, hdata]

/-! ## The steps keep the stage -/

open AsyncUdpPacketClient in
/-- What is allowed while the call `w` is awaited is about other types and other calls. -/
theorem allowed_of_awaited {serializer : PacketSerializer Obj Payload} {b : AsyncAction ω}
    (hallowed : s.allowed serializer w t b = true) (hawaited : s.awaited w = true) :
    (∀ v u, b = .register v u → (v = w ↔ u = t))
      ∧ ∀ message u payload, b = .deliver message →
        addressee serializer message.buffer = some (u, payload) → u ≠ t := by
  constructor
  · rintro v u rfl
    simpa [allowed, hawaited] using hallowed
  · rintro message u payload rfl haddressee rfl
    simp [allowed, hawaited, haddressee] at hallowed

omit [DecidableEq ω] in
theorem awaited_eq {phase : WaitPhase ω Payload} (hrequested : s.requested = true)
    (hphase : s.waits.phase w = phase) : s.awaited w = !phase.isReturned := by
  rw [awaited, hrequested, hphase, Bool.true_and]

omit [DecidableEq ω] in
theorem awaited_of_waitsFor (hrequested : s.requested = true)
    (hwaits : (s.waits.phase w).waitsFor = some t) : s.awaited w = true := by
  cases hphase : s.waits.phase w with
  | returned u awaiter =>
      rw [hphase] at hwaits
      cases hwaits
  | _ => exact awaited_eq hrequested hphase

open AsyncUdpPacketClient in
/-- Before the wait has registered nothing but its registration concerns it. -/
theorem stage_wait_of_sent {b : AsyncAction ω} {waits : AsyncUdpPacketClient ω Payload}
    (hs : Consistent s.waits) (hrequested : s.requested = true) (hreply : s.reply = none)
    (hphase : s.waits.phase w = .idle) (hqueue : s.waits.queue t = [])
    (hallowed : s.allowed self.serializer w t b = true)
    (hstep : AsyncUdpPacketClient.step self.serializer s.waits b = some waits) :
    Stage w t { s with waits := waits } := by
  obtain ⟨hregister, hdeliver⟩ := allowed_of_awaited hallowed (awaited_eq hrequested hphase)
  have honly : ∀ v ∈ s.waits.waiters t, v = w := by
    intro v hv
    rw [waiters, hqueue] at hv
    cases hv
  have hhere : ∀ u, w ∈ s.waits.waiters u → u = t := fun u hu =>
    absurd hu (hs.fresh_of_idle hphase u)
  rcases own_or_other hs hstep honly hhere hregister hdeliver with
      ⟨hqueue', hphase', -⟩ | ⟨-, rfl⟩ | ⟨u, hregistered, -⟩ | ⟨u, hresumed, -⟩
  · exact .sent hrequested hreply (hphase'.trans hphase) (hqueue'.trans hqueue)
  · have hunset := hs.event w
    rw [hphase] at hunset
    refine .waiting hrequested hreply { event := w } ?_ rfl hunset
    show (register w t s.waits).queue t = _
    rw [queue_register, if_pos rfl, hqueue, List.nil_append]
  · cases hphase.symm.trans hregistered
  · cases hphase.symm.trans hresumed

open AsyncUdpPacketClient in
/-- The steps of the call `w` alone change its record, its phase and its event while it
waits. -/
theorem own_or_other_of_singleton {b : AsyncAction ω} {waits : AsyncUdpPacketClient ω Payload}
    {record : AwaitingPacket ω Payload} (hs : Consistent s.waits)
    (hrequested : s.requested = true) (hqueue : s.waits.queue t = [record])
    (hevent : record.event = w) (hallowed : s.allowed self.serializer w t b = true)
    (hstep : AsyncUdpPacketClient.step self.serializer s.waits b = some waits) :
    (waits.queue t = [record] ∧ waits.isSet w = s.waits.isSet w)
    ∨ (s.waits.isSet w = true ∧ waits.isSet w = true
      ∧ waits.phase w = .returned t (some record)) := by
  have hwaiters : s.waits.waiters t = [w] := waiters_of_singleton hqueue hevent
  have hwaits : (s.waits.phase w).waitsFor = some t := by
    rw [hs.waiting w t, hwaiters]
    exact List.mem_singleton_self w
  obtain ⟨hregister, hdeliver⟩ :=
    allowed_of_awaited hallowed (awaited_of_waitsFor hrequested hwaits)
  have honly : ∀ v ∈ s.waits.waiters t, v = w := by
    intro v hv
    rw [hwaiters] at hv
    exact List.mem_singleton.mp hv
  have hhere : ∀ u, w ∈ s.waits.waiters u → u = t := fun u hu =>
    Option.some.inj (((hs.waiting w u).mpr hu).symm.trans hwaits)
  rcases own_or_other hs hstep honly hhere hregister hdeliver with
      ⟨hqueue', -, hisSet⟩ | ⟨hidle, -⟩ | ⟨u, -, rfl⟩ | ⟨u, hresumed, rfl⟩
  · exact .inl ⟨hqueue'.trans hqueue, hisSet⟩
  · rw [hidle] at hwaits
    cases hwaits
  · exact .inl ⟨(queue_await w u s.waits t).trans hqueue, rfl⟩
  -- a pop takes the record away, and only a set event lets the call come to it
  · rw [hresumed] at hwaits
    obtain rfl : u = t := Option.some.inj hwaits
    have hset := hs.event w
    rw [hresumed] at hset
    refine .inr ⟨hset, ?_, ?_⟩
    · rw [isSet_pop]
      exact hset
    · rw [phase_pop, Function.update_self, hqueue]
      rfl

open AsyncUdpPacketClient in
theorem stage_wait {b : AsyncAction ω} {waits : AsyncUdpPacketClient ω Payload}
    (hs : Consistent s.waits) (h : Stage w t s)
    (hallowed : s.allowed self.serializer w t b = true)
    (hstep : AsyncUdpPacketClient.step self.serializer s.waits b = some waits) :
    Stage w t { s with waits := waits } := by
  cases h with
  | unsent hrequested hreply => exact .unsent hrequested hreply
  | sent hrequested hreply hphase hqueue =>
      exact stage_wait_of_sent hs hrequested hreply hphase hqueue hallowed hstep
  | waiting hrequested hreply record hqueue hevent hisSet =>
      rcases own_or_other_of_singleton hs hrequested hqueue hevent hallowed hstep with
          ⟨hqueue', hisSet'⟩ | ⟨hset, -, -⟩
      · exact .waiting hrequested hreply record hqueue' hevent (hisSet'.trans hisSet)
      · cases hisSet.symm.trans hset
  | answered hrequested payload n hreply record hqueue hevent hdata hisSet =>
      rcases own_or_other_of_singleton hs hrequested hqueue hevent hallowed hstep with
          ⟨hqueue', hisSet'⟩ | ⟨-, hset, hphase⟩
      · exact .answered hrequested payload n hreply record hqueue' hevent hdata
          (hisSet'.trans hisSet)
      · exact .back hrequested payload n hreply t record hphase hdata hset
  | back hrequested payload n hreply u record hphase hdata hisSet =>
      exact .back hrequested payload n hreply u record (phase_of_returned hs hstep hphase) hdata
        (isSet_step hstep hisSet)

open AsyncUdpPacketClient in
/-- A reply that finds the record of the call `w` is stored there, and wakes the call. -/
theorem stage_reply_of_waiting {record : AwaitingPacket ω Payload}
    (hrequested : s.requested = true) (hqueue : s.waits.queue t = [record])
    (hevent : record.event = w) (payload : Payload) (result : HandleResult (H × Payload)) :
    Stage w t { s with
      waits := (deliver t (some payload) s.waits).1
      reply := some (payload,
        if (deliver t (some payload) s.waits).2 then .taken else result) } := by
  rw [deliver_of_cons hqueue, hevent]
  refine .answered hrequested payload s.waits.claimed.length rfl
    { record with data := some (s.waits.claimed.length, payload) } ?_ hevent rfl
    (Function.update_self _ _ _)
  show (storePayload t payload s.waits).queue t = _
  rw [storePayload_eq t payload hqueue]
  exact queue_setQueue_self s.waits t _

open AsyncUdpPacketClient in
/-- A step whose reply comes after the registration keeps the stage. -/
theorem stage_step {a : RequestAction ω Obj} (hstep : step self w t s a = some s')
    (hs : Consistent s.waits) (h : Stage w t s) (hok : AfterRegistration w s a) :
    Consistent s'.waits ∧ Stage w t s' := by
  rcases step_cases hstep with
      ⟨context, hrequested, hphase, hqueue, -, rfl⟩ | ⟨b, waits, rfl, hallowed, hwait, rfl⟩
      | ⟨message, payload, result, rfl, hrequested, hreply, -, rfl⟩
  · refine ⟨hs, ?_⟩
    cases h with
    | unsent _ hnone => exact .sent rfl hnone hphase hqueue
    | sent htrue => cases hrequested.symm.trans htrue
    | waiting htrue => cases hrequested.symm.trans htrue
    | answered htrue => cases hrequested.symm.trans htrue
    | back htrue => cases hrequested.symm.trans htrue
  · exact ⟨consistent_step hwait hs, stage_wait hs h hallowed hwait⟩
  · refine ⟨consistent_deliver hs t (some payload), ?_⟩
    cases h with
    | unsent hfalse => cases hrequested.symm.trans hfalse
    | sent _ _ hphase => exact absurd hphase hok
    | waiting _ _ record hqueue hevent =>
        exact stage_reply_of_waiting hrequested hqueue hevent payload result
    | answered _ _ _ hsome => cases hreply.symm.trans hsome
    | back _ _ _ hsome => cases hreply.symm.trans hsome

open AsyncUdpPacketClient in
/-- A reply that comes before the registration is not taken. -/
theorem not_replyReceived_of_not_afterRegistration {a : RequestAction ω Obj}
    (hstep : step self w t s a = some s') (hs : Consistent s.waits) (h : Stage w t s)
    (hearly : ¬ AfterRegistration w s a) : ¬ ReplyReceived w s' := by
  rcases step_cases hstep with
      ⟨context, -, -, -, hsend, rfl⟩ | ⟨b, waits, rfl, -, -, rfl⟩
      | ⟨message, payload, result, rfl, hrequested, hreply, hne, rfl⟩
  · cases a with
    | reply message => exact absurd rfl (hsend message)
    | _ => exact absurd trivial hearly
  · exact absurd trivial hearly
  · have hidle : s.waits.phase w = .idle := not_not.mp hearly
    cases h with
    | unsent hfalse => cases hrequested.symm.trans hfalse
    | sent _ _ _ hqueue =>
        intro hreceived
        have htaken := (hreceived payload _ rfl).taken
        rw [deliver_of_nil hqueue] at htaken
        exact hne htaken
    | waiting _ _ record hqueue hevent =>
        have hmem : w ∈ s.waits.waiters t := by
          rw [waiters_of_singleton hqueue hevent]
          exact List.mem_singleton_self w
        exact absurd hmem (hs.fresh_of_idle hidle t)
    | answered _ _ _ hsome => cases hreply.symm.trans hsome
    | back _ _ _ hsome => cases hreply.symm.trans hsome

/-- **When the reply is not lost**: along a run of one request and its wait the reply is the
result of the wait, in every state after it was handled, exactly when it is handled after the
wait has registered its record. -/
theorem replyReceived_iff (self : UdpPacketClient Obj Payload H) (w : ω) (t : PacketType)
    (context : ClientContext ι) (as : List (RequestAction ω Obj)) :
    (machine self w t context).Always (ReplyReceived w) (machine self w t context).init as
      ↔ (machine self w t context).EachStep (fun s a _ => AfterRegistration w s a)
          (machine self w t context).init as :=
  Machine.always_iff_eachStep (M := machine self w t context)
    (I := fun s => AsyncUdpPacketClient.Consistent s.waits ∧ Stage w t s)
    (fun _ h => h.2.replyReceived h.1)
    (fun _ _ _ hstep h hok => stage_step hstep h.1 h.2 hok)
    (fun _ _ _ hstep h hearly => not_replyReceived_of_not_afterRegistration hstep h.1 h.2 hearly)
    ⟨AsyncUdpPacketClient.consistent_init, .unsent rfl rfl⟩ as

/-- A connected msgpack client that sends a ping and waits for the pong, of type 1000. -/
def pingPong : Machine (RequestingClient Unit (Fin 128) Unit Unit) (RequestAction Unit (Fin 128)) :=
  machine { serializer := msgpackPacketSerializer fixintMsgpack } () 1000
    { sInstance := some (), self := { running := true, interface := true, conn := 5 }, trace := [] }

/-- The pong comes before the wait for it has registered. -/
theorem not_replyReceived_early_pong :
    ¬ ∀ as : List (RequestAction Unit (Fin 128)),
      pingPong.Always (ReplyReceived ()) pingPong.init as := by
  intro h
  have hlast := (h [.send 1001 0 true true,
    .reply { buffer := headerBytes .msgpack 1000 ++ [0x91, 1], conn := 5 }]).last rfl
  exact absurd (hlast _ _ rfl).taken (by decide)

end RequestingClient

end KbNetworking
