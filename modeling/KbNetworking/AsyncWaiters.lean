/-
# The queues of the asynchronous client

`get_packet_awaiter` pops whatever is at the front of the queue of a type.  That a woken
call finds its own record there rests on an invariant of the queues (`Consistent`): they
hold one record for each call between its registration and its pop, and only the event of
the record at the front can have been set, because a delivery sets no other.

`asyncWaits_ordered` states what follows for every interleaving of registrations, waits,
deliveries and pops: a woken call pops its own record, the calls of a type complete in the
order in which they registered, and the steps of one type leave the other queues alone.
-/
import KbNetworking.AsyncUdpPacketClient

namespace KbNetworking

namespace AsyncUdpPacketClient

variable {ω Obj Payload : Type} {s s' : AsyncUdpPacketClient ω Payload}

/-! ## The waiters of a type -/

theorem waiters_setQueue (s : AsyncUdpPacketClient ω Payload) (t : PacketType)
    (records : List (AwaitingPacket ω Payload)) (u : PacketType) :
    (s.setQueue t records).waiters u
      = if t = u then records.map (·.event) else s.waiters u := by
  unfold waiters
  rw [queue_setQueue]
  split <;> rfl

theorem waiters_eq_cons {t : PacketType} {awaiter : AwaitingPacket ω Payload}
    {rest : List (AwaitingPacket ω Payload)} (h : s.queue t = awaiter :: rest) :
    s.waiters t = awaiter.event :: rest.map (·.event) := by
  unfold waiters
  rw [h]
  rfl

theorem waiters_storePayload (s : AsyncUdpPacketClient ω Payload) (t : PacketType)
    (payload : Payload) (u : PacketType) :
    (storePayload t payload s).waiters u = s.waiters u := by
  cases hqueue : s.queue t with
  | nil =>
      unfold storePayload
      rw [hqueue]
  | cons awaiter rest =>
      rw [storePayload_eq t payload hqueue]
      show (s.setQueue t _).waiters u = s.waiters u
      rw [waiters_setQueue]
      split
      · rename_i heq
        rw [← heq, waiters_eq_cons hqueue]
        rfl
      · rfl

/-! ## The invariant -/

/-- The queues and the calls agree. -/
structure Consistent (s : AsyncUdpPacketClient ω Payload) : Prop where
  waiting : ∀ w t, (s.phase w).waitsFor = some t ↔ w ∈ s.waiters t
  nodup : ∀ t, (s.waiters t).Nodup
  onlyFront : ∀ t, ∀ w ∈ (s.waiters t).tail, s.isSet w = false
  event : ∀ w, (s.phase w).EventIs (s.isSet w)
  inOrder : ∀ t, s.registrations t = s.completions t ++ s.waiters t

theorem Consistent.fresh_of_idle (h : Consistent s) {w : ω} (hw : s.phase w = .idle)
    (t : PacketType) : w ∉ s.waiters t := by
  intro hmem
  have hwaits := (h.waiting w t).mpr hmem
  rw [hw] at hwaits
  cases hwaits

/-- A call whose event is set has its record at the front. -/
theorem Consistent.front_of_isSet (h : Consistent s) {w : ω} {t : PacketType}
    (hw : w ∈ s.waiters t) (hset : s.isSet w = true) :
    ∃ awaiter rest, s.queue t = awaiter :: rest ∧ awaiter.event = w := by
  cases hqueue : s.queue t with
  | nil =>
      unfold waiters at hw
      rw [hqueue] at hw
      cases hw
  | cons awaiter rest =>
      refine ⟨awaiter, rest, rfl, ?_⟩
      have htail := h.onlyFront t
      rw [waiters_eq_cons hqueue] at hw htail
      rcases List.mem_cons.mp hw with heq | hrest
      · exact heq.symm
      · rw [htail w hrest] at hset
        cases hset

/-- A woken call finds its own record at the front. -/
theorem Consistent.front_of_resumed (h : Consistent s) {w : ω} {t : PacketType}
    (hw : s.phase w = .resumed t) :
    ∃ awaiter rest, s.queue t = awaiter :: rest ∧ awaiter.event = w := by
  have hmem : w ∈ s.waiters t := (h.waiting w t).mp (by rw [hw]; rfl)
  have hset := h.event w
  rw [hw] at hset
  exact h.front_of_isSet hmem hset

/-- The invariant speaks of the waiters of the queues only, not of the data in them. -/
theorem Consistent.of_waiters_eq (h : Consistent s) (hwaiters : ∀ t, s'.waiters t = s.waiters t)
    (hphase : s'.phase = s.phase) (hisSet : s'.isSet = s.isSet)
    (hregistrations : s'.registrations = s.registrations)
    (hcompletions : s'.completions = s.completions) : Consistent s' := by
  constructor
  · intro w t
    rw [hphase, hwaiters]
    exact h.waiting w t
  · intro t
    rw [hwaiters]
    exact h.nodup t
  · intro t
    rw [hwaiters, hisSet]
    exact h.onlyFront t
  · rw [hphase, hisSet]
    exact h.event
  · intro t
    rw [hregistrations, hcompletions, hwaiters]
    exact h.inOrder t

/-! ## The steps keep the invariant -/

theorem mem_tail_append_singleton {ws : List ω} {v w : ω} (h : v ∈ (ws ++ [w]).tail) :
    v ∈ ws.tail ∨ v = w := by
  cases ws with
  | nil => cases h
  | cons x xs =>
      rcases List.mem_append.mp h with hold | hnew
      · exact .inl hold
      · exact .inr (List.mem_singleton.mp hnew)

theorem consistent_init : Consistent ({} : AsyncUdpPacketClient ω Payload) := by
  have hwaiters : ∀ t, ({} : AsyncUdpPacketClient ω Payload).waiters t = [] := by
    intro t
    simp [waiters, queue]
  refine ⟨?_, ?_, ?_, fun _ => rfl, ?_⟩
  · intro w t
    rw [hwaiters]
    simp [WaitPhase.waitsFor]
  · intro t
    rw [hwaiters]
    exact List.nodup_nil
  · intro t
    rw [hwaiters]
    exact nofun
  · intro t
    rw [hwaiters]
    rfl

/-- Storing a payload moves no record. -/
theorem consistent_storePayload (h : Consistent s) {t : PacketType}
    {awaiter : AwaitingPacket ω Payload} {rest : List (AwaitingPacket ω Payload)}
    (hqueue : s.queue t = awaiter :: rest) (payload : Payload) :
    Consistent (storePayload t payload s) := by
  refine h.of_waiters_eq (waiters_storePayload s t payload) ?_ ?_ ?_ ?_ <;>
    rw [storePayload_eq t payload hqueue] <;> rfl

variable [DecidableEq ω] {serializer : PacketSerializer Obj Payload}

/-- The events still agree when one call moves to a phase that agrees with its own. -/
theorem eventIs_update {phase : ω → WaitPhase ω Payload} {isSet : ω → Bool}
    (h : ∀ v, (phase v).EventIs (isSet v)) {w : ω} {next : WaitPhase ω Payload}
    (hnext : next.EventIs (isSet w)) (v : ω) :
    (Function.update phase w next v).EventIs (isSet v) := by
  by_cases hv : v = w
  · subst hv
    rw [Function.update_self]
    exact hnext
  · rw [Function.update_of_ne hv]
    exact h v

/-- A registration appends a record whose event nobody has set. -/
theorem consistent_register (h : Consistent s) {w : ω} (t : PacketType)
    (hw : s.phase w = .idle) : Consistent (register w t s) := by
  have hfresh := h.fresh_of_idle hw
  have hwaiters : ∀ u, (register w t s).waiters u
      = if t = u then s.waiters t ++ [w] else s.waiters u := by
    intro u
    unfold waiters
    rw [queue_register]
    split <;> simp
  constructor
  -- `w` begins to wait for `t`, and its record is the new one
  · intro v u
    rw [hwaiters]
    show (Function.update s.phase w (.registered t) v).waitsFor = some u ↔ _
    by_cases hv : v = w
    · subst hv
      rw [Function.update_self]
      by_cases hu : t = u <;> simp [WaitPhase.waitsFor, hu, hfresh u]
    · rw [Function.update_of_ne hv, h.waiting v u]
      by_cases hu : t = u <;> simp [hu, hv]
  · intro u
    rw [hwaiters]
    split
    · exact (h.nodup t).append (List.nodup_singleton w)
        (List.disjoint_singleton.mpr (hfresh t))
    · exact h.nodup u
  -- behind other records the new one must have an unset event, and `w` was idle
  · intro u v
    rw [hwaiters]
    show _ → s.isSet v = false
    split
    · intro hv
      rcases mem_tail_append_singleton hv with hold | rfl
      · exact h.onlyFront t v hold
      · have hset := h.event v
        rw [hw] at hset
        exact hset
    · exact h.onlyFront u v
  · exact eventIs_update h.event trivial
  · intro u
    rw [hwaiters]
    show Function.update s.registrations t (s.registrations t ++ [w]) u = s.completions u ++ _
    by_cases hu : u = t
    · subst hu
      rw [Function.update_self, if_pos rfl, h.inOrder u, List.append_assoc]
    · rw [Function.update_of_ne hu, if_neg (Ne.symm hu)]
      exact h.inOrder u

/-- A call that goes on waiting may change its phase, and its event where no record is in
front of its own. -/
theorem Consistent.rephase (h : Consistent s) (w : ω) (next : WaitPhase ω Payload) (isSet : Bool)
    (hwaits : next.waitsFor = (s.phase w).waitsFor) (hevent : next.EventIs isSet)
    (hfront : ∀ t, w ∈ (s.waiters t).tail → isSet = false) :
    Consistent { s with
      phase := Function.update s.phase w next
      isSet := Function.update s.isSet w isSet } := by
  constructor
  · intro v u
    show (Function.update s.phase w next v).waitsFor = some u ↔ v ∈ s.waiters u
    by_cases hv : v = w
    · subst hv
      rw [Function.update_self, hwaits]
      exact h.waiting v u
    · rw [Function.update_of_ne hv]
      exact h.waiting v u
  · exact h.nodup
  · intro u v hv
    show Function.update s.isSet w isSet v = false
    by_cases hne : v = w
    · subst hne
      rw [Function.update_self]
      exact hfront u hv
    · rw [Function.update_of_ne hne]
      exact h.onlyFront u v hv
  · intro v
    show (Function.update s.phase w next v).EventIs (Function.update s.isSet w isSet v)
    by_cases hv : v = w
    · subst hv
      rw [Function.update_self, Function.update_self]
      exact hevent
    · rw [Function.update_of_ne hv, Function.update_of_ne hv]
      exact h.event v
  · exact h.inOrder

theorem consistent_await (h : Consistent s) {w : ω} {t : PacketType}
    (hw : s.phase w = .registered t) : Consistent (await w t s) := by
  have hkept := h.rephase w (.afterAwait t (s.isSet w)) (s.isSet w) ?_ ?_
    fun u hu => h.onlyFront u w hu
  · rw [Function.update_eq_self] at hkept
    exact hkept
  · rw [hw]
    cases s.isSet w <;> rfl
  · cases s.isSet w <;> rfl

/-- Setting the event at the front of a queue wakes its call. -/
theorem consistent_setEvent (h : Consistent s) {t : PacketType} {w : ω} {ws : List ω}
    (hfront : s.waiters t = w :: ws) : Consistent (setEvent w s) := by
  have hmem : w ∈ s.waiters t := by
    rw [hfront]
    exact List.mem_cons_self
  have hwaits := (h.waiting _ t).mpr hmem
  refine h.rephase _ _ _ (WaitPhase.waitsFor_wake _) ?_ ?_
  · cases hphase : s.phase w with
    | idle =>
        rw [hphase] at hwaits
        cases hwaits
    | _ => first | rfl | trivial
  -- a call has one record, so the one at the front is not behind another
  · intro u hu
    obtain rfl : t = u := Option.some.inj
      (hwaits.symm.trans ((h.waiting _ u).mpr (List.mem_of_mem_tail hu)))
    have hnodup := h.nodup t
    rw [hfront] at hnodup hu
    exact absurd hu (List.nodup_cons.mp hnodup).1

/-- A woken call takes its own record away. -/
theorem consistent_pop (h : Consistent s) {w : ω} {t : PacketType}
    (hw : s.phase w = .resumed t) : Consistent (pop w t s) := by
  obtain ⟨awaiter, rest, hqueue, rfl⟩ := h.front_of_resumed hw
  have hold := waiters_eq_cons hqueue
  have hnodup : (awaiter.event :: rest.map (·.event)).Nodup := hold ▸ h.nodup t
  have hwaiters : ∀ u, (pop awaiter.event t s).waiters u
      = if t = u then rest.map (·.event) else s.waiters u := by
    intro u
    unfold waiters
    rw [queue_pop, hqueue]
    split <;> rfl
  have hwaits : ∀ u, awaiter.event ∈ s.waiters u ↔ t = u := by
    intro u
    rw [← h.waiting, hw]
    exact Option.some.injEq t u ▸ Iff.rfl
  rw [pop_eq] at hwaiters ⊢
  constructor
  -- `w` waits no longer, and the record that is gone was its own
  · intro v u
    rw [hwaiters]
    show (Function.update s.phase awaiter.event _ v).waitsFor = some u ↔ _
    by_cases hv : v = awaiter.event
    · subst hv
      rw [Function.update_self]
      split
      · simp [WaitPhase.waitsFor, (List.nodup_cons.mp hnodup).1]
      · rename_i hu
        simp [WaitPhase.waitsFor, hwaits, hu]
    · rw [Function.update_of_ne hv, h.waiting v u]
      split
      · rename_i hu
        rw [← hu, hold, List.mem_cons, or_iff_right hv]
      · rfl
  · intro u
    rw [hwaiters]
    split
    · exact (List.nodup_cons.mp hnodup).2
    · exact h.nodup u
  -- the record that comes to the front was behind another one until now
  · intro u v
    rw [hwaiters]
    show _ → s.isSet v = false
    split
    · intro hv
      refine h.onlyFront t v ?_
      rw [hold]
      exact List.mem_of_mem_tail hv
    · exact h.onlyFront u v
  · exact eventIs_update h.event trivial
  · intro u
    rw [hwaiters]
    show s.registrations u
      = Function.update s.completions t (s.completions t ++ [awaiter.event]) u ++ _
    rw [h.inOrder u]
    by_cases hu : u = t
    · subst hu
      rw [Function.update_self, if_pos rfl, hold, List.append_assoc]
      rfl
    · rw [Function.update_of_ne hu, if_neg (Ne.symm hu)]

theorem consistent_deliver (h : Consistent s) (t : PacketType) (payload : Option Payload) :
    Consistent (deliver t payload s).1 := by
  rcases deliver_cases t payload s with
      ⟨-, heq⟩ | ⟨awaiter, rest, hqueue, -, heq⟩ | ⟨awaiter, rest, value, hqueue, -, heq⟩
  · rw [heq]
    exact h
  · rw [heq]
    exact consistent_setEvent h (waiters_eq_cons hqueue)
  · rw [heq]
    exact consistent_setEvent (consistent_storePayload h hqueue value)
      ((waiters_storePayload s t value t).trans (waiters_eq_cons hqueue))

/-- Every step keeps the queues and the calls in agreement. -/
theorem consistent_step {a : AsyncAction ω} (hstep : step serializer s a = some s')
    (h : Consistent s) : Consistent s' := by
  rcases step_cases hstep with
      ⟨w, t, -, hw, rfl⟩ | ⟨w, t, -, hw, rfl⟩ | ⟨message, -, -, rfl⟩
      | ⟨message, t, payload, -, -, rfl⟩ | ⟨w, t, -, hw, rfl⟩
  · exact consistent_register h t hw
  · exact consistent_await h hw
  · exact h
  · exact consistent_deliver h t payload
  · exact consistent_pop h hw

/-! ## Own record, order of completion and isolation of types -/

/-- What the queues look like between two steps: only the event of a front record has been
set, a woken call has its own record at the front, and the calls of a type that completed
are the first that registered. -/
structure Ordered (s : AsyncUdpPacketClient ω Payload) : Prop where
  onlyFront : ∀ t, ∀ w ∈ (s.waiters t).tail, s.isSet w = false
  ownRecord : ∀ w t, s.phase w = .resumed t →
    ∃ awaiter rest, s.queue t = awaiter :: rest ∧ awaiter.event = w
  inOrder : ∀ t, s.registrations t = s.completions t ++ s.waiters t

/-- What a step does to the queues: one type is concerned at most, and a pop returns the
record of the call that pops. -/
def StepOrdered (serializer : PacketSerializer Obj Payload) (s : AsyncUdpPacketClient ω Payload)
    (a : AsyncAction ω) (s' : AsyncUdpPacketClient ω Payload) : Prop :=
  match a with
  | .register _ t => ∀ u, u ≠ t → s'.queue u = s.queue u
  | .await _ => ∀ u, s'.queue u = s.queue u
  | .deliver message => ∀ u, (∀ payload, addressee serializer message.buffer ≠ some (u, payload)) →
      s'.queue u = s.queue u
  | .pop w => ∃ t awaiter, awaiter.event = w ∧ s.queue t = awaiter :: s'.queue t
      ∧ s.phase w = .resumed t ∧ s'.phase w = .returned t (some awaiter)
      ∧ ∀ u, u ≠ t → s'.queue u = s.queue u

omit [DecidableEq ω] in
theorem Consistent.ordered (h : Consistent s) : Ordered s where
  onlyFront := h.onlyFront
  ownRecord := fun _ _ hw => h.front_of_resumed hw
  inOrder := h.inOrder

theorem Consistent.stepOrdered {a : AsyncAction ω} (h : Consistent s)
    (hstep : step serializer s a = some s') : StepOrdered serializer s a s' := by
  rcases step_cases hstep with
      ⟨w, t, rfl, -, rfl⟩ | ⟨w, t, rfl, -, rfl⟩ | ⟨message, rfl, -, rfl⟩
      | ⟨message, t, payload, rfl, haddressee, rfl⟩ | ⟨w, t, rfl, hw, rfl⟩
  · intro u hu
    rw [queue_register, if_neg (Ne.symm hu)]
  · exact queue_await w t s
  · exact fun u _ => rfl
  · intro u hu
    refine queue_deliver_of_ne ?_ payload s
    rintro rfl
    exact hu payload haddressee
  · obtain ⟨awaiter, rest, hqueue, rfl⟩ := h.front_of_resumed hw
    refine ⟨t, awaiter, rfl, ?_, hw, ?_, ?_⟩
    · rw [queue_pop, if_pos rfl, hqueue]
      rfl
    · rw [pop_eq, hqueue]
      exact Function.update_self _ _ _
    · intro u hu
      rw [queue_pop, if_neg (Ne.symm hu)]

/-- **Own record, order and isolation**: along every run, in every state only the event of
a front record has been set and the calls of a type complete in the order in which they
registered; every pop returns the record the call registered itself, and no step touches
the queue of a type it is not about. -/
theorem asyncWaits_ordered (serializer : PacketSerializer Obj Payload)
    (as : List (AsyncAction ω)) :
    (asyncWaits ω serializer).Always Ordered (asyncWaits ω serializer).init as
      ∧ (asyncWaits ω serializer).EachStep (StepOrdered serializer)
          (asyncWaits ω serializer).init as := by
  constructor
  · have hconsistent := Machine.always_of_step (M := asyncWaits ω serializer)
      (fun s a s' hstep h => consistent_step hstep h) consistent_init as
    exact hconsistent.mono fun s h => h.ordered
  · exact Machine.eachStep_of_step (I := Consistent)
      (fun s a s' hstep h => ⟨consistent_step hstep h, h.stepOrdered hstep⟩) consistent_init as

end AsyncUdpPacketClient

end KbNetworking
