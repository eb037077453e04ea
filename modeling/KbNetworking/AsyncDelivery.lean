/-
# What becomes of a claimed packet

A packet is claimed when the pre-handler finds a waiting call for its type and decodes its
payload: it returns true, so no handler sees the packet, and the payload goes to the record
at the front of the queue.  The record stays there until its call pops it, and the
pre-handler does not look whether it has a payload already, so a second packet that arrives
before the pop takes the place of the first (`not_accounted_second_packet`), even while
another call waits for the type.

`accounted_iff` states that this is the only way to lose a packet: along a run every claimed
packet is with exactly one call exactly when no decodable packet arrives while the record at
the front holds the payload of an earlier one.
-/
import KbNetworking.AsyncWaiters

namespace KbNetworking

namespace AsyncUdpPacketClient

variable {ω Obj Payload : Type} {s s' : AsyncUdpPacketClient ω Payload}

/-! ## Who has a packet -/

/-- A queued record of the call has the packet. -/
def Queued (s : AsyncUdpPacketClient ω Payload) (w : ω) (packet : ℕ × Payload) : Prop :=
  ∃ t, ∃ awaiter ∈ s.queue t, awaiter.event = w ∧ awaiter.data = some packet

/-- The call came back with the packet. -/
def Returned (s : AsyncUdpPacketClient ω Payload) (w : ω) (packet : ℕ × Payload) : Prop :=
  (s.phase w).packet = some packet

/-- The packet is with the call: it came back with it, or will find it in its record. -/
def Holds (s : AsyncUdpPacketClient ω Payload) (w : ω) (packet : ℕ × Payload) : Prop :=
  Queued s w packet ∨ Returned s w packet

/-- The result of a call that came back with a packet is its payload, as the type the
caller asked for. -/
theorem Returned.asyncWaitResult_eq {w : ω} {n : ℕ} {payload : Payload}
    (h : Returned s w (n, payload)) {T : Type} (payloadAs : Payload → Option T) :
    ∃ t awaiter, s.phase w = .returned t awaiter
      ∧ asyncWaitResult payloadAs awaiter = payloadAs payload := by
  unfold Returned at h
  cases hphase : s.phase w with
  | returned t awaiter =>
      rw [hphase] at h
      cases awaiter with
      | none => cases h
      | some awaiter =>
          refine ⟨t, some awaiter, rfl, ?_⟩
          have hdata : awaiter.data = some (n, payload) := h
          rw [asyncWaitResult, hdata]
  | _ =>
      rw [hphase] at h
      cases h

/-- **No packet lost or duplicated**: every claimed packet is with exactly one call, no call
has two, and none has a packet that was not claimed.  A call with a packet in its queued
record is free to go on, and once no call waits every claimed packet is the result of
exactly one. -/
structure Accounted (s : AsyncUdpPacketClient ω Payload) : Prop where
  oneHolder : ∀ n payload, s.claimed[n]? = some payload → ∃! w, Holds s w (n, payload)
  distinct : ∀ w packet packet', Holds s w packet → Holds s w packet' → packet = packet'
  isClaimed : ∀ w n payload, Holds s w (n, payload) → s.claimed[n]? = some payload
  canReturn : ∀ w packet, Queued s w packet →
    s.isSet w = true ∧ ∀ t, s.phase w ≠ .suspended t
  result : (∀ w, (s.phase w).waitsFor = none) →
    ∀ n payload, s.claimed[n]? = some payload → ∃! w, Returned s w (n, payload)

/-- What the steps keep about the packets. -/
structure Tracked (s : AsyncUdpPacketClient ω Payload) : Prop where
  oneHolder : ∀ n payload, s.claimed[n]? = some payload → ∃! w, Holds s w (n, payload)
  isClaimed : ∀ w n payload, Holds s w (n, payload) → s.claimed[n]? = some payload
  isSet : ∀ w packet, Queued s w packet → s.isSet w = true

theorem Queued.mem_waiters {w : ω} {packet : ℕ × Payload} (h : Queued s w packet) :
    ∃ t, w ∈ s.waiters t := by
  obtain ⟨t, awaiter, hmem, rfl, -⟩ := h
  exact ⟨t, List.mem_map.mpr ⟨awaiter, hmem, rfl⟩⟩

/-- A call with a queued record has not come back. -/
theorem Consistent.not_returned (h : Consistent s) {w : ω} {t : PacketType}
    (hw : w ∈ s.waiters t) (packet : ℕ × Payload) : ¬ Returned s w packet := by
  have hwaits := (h.waiting w t).mpr hw
  unfold Returned
  intro hpacket
  cases hphase : s.phase w with
  | returned u awaiter =>
      rw [hphase] at hwaits
      cases hwaits
  | _ =>
      rw [hphase] at hpacket
      cases hpacket

/-- A call has one record only. -/
theorem Consistent.record_unique (h : Consistent s) {t u : PacketType}
    {awaiter awaiter' : AwaitingPacket ω Payload} (hmem : awaiter ∈ s.queue t)
    (hmem' : awaiter' ∈ s.queue u) (hevent : awaiter.event = awaiter'.event) :
    t = u ∧ awaiter = awaiter' := by
  have hw : awaiter.event ∈ s.waiters t := List.mem_map.mpr ⟨awaiter, hmem, rfl⟩
  have hw' : awaiter.event ∈ s.waiters u := List.mem_map.mpr ⟨awaiter', hmem', hevent.symm⟩
  obtain rfl : t = u := Option.some.inj
    (((h.waiting _ t).mpr hw).symm.trans ((h.waiting _ u).mpr hw'))
  exact ⟨rfl, List.inj_on_of_nodup_map (h.nodup t) hmem hmem' hevent⟩

/-- A record that is not the one at the front is of another call. -/
theorem Consistent.event_ne_front (h : Consistent s) {t u : PacketType}
    {awaiter record : AwaitingPacket ω Payload} {rest : List (AwaitingPacket ω Payload)}
    (hqueue : s.queue t = awaiter :: rest) (hmem : record ∈ s.queue u)
    (hrest : u = t → record ∈ rest) : record.event ≠ awaiter.event := by
  intro hevent
  have hfront : awaiter ∈ s.queue t := hqueue ▸ List.mem_cons_self
  obtain ⟨rfl, rfl⟩ := h.record_unique hmem hfront hevent
  have hnodup := h.nodup u
  rw [waiters_eq_cons hqueue] at hnodup
  exact (List.nodup_cons.mp hnodup).1 (List.mem_map.mpr ⟨record, hrest rfl, rfl⟩)

/-- A tracked packet is accounted for. -/
theorem Tracked.accounted (h : Tracked s) (hs : Consistent s) : Accounted s where
  oneHolder := h.oneHolder
  isClaimed := h.isClaimed
  distinct := by
    rintro w packet packet' (⟨t, awaiter, hmem, hevent, hdata⟩ | hreturned) hholds'
    · rcases hholds' with ⟨u, awaiter', hmem', hevent', hdata'⟩ | hreturned'
      · obtain ⟨-, rfl⟩ := hs.record_unique hmem hmem' (hevent.trans hevent'.symm)
        exact Option.some.inj (hdata.symm.trans hdata')
      · have hw : w ∈ s.waiters t := List.mem_map.mpr ⟨awaiter, hmem, hevent⟩
        exact absurd hreturned' (hs.not_returned hw packet')
    · rcases hholds' with hqueued' | hreturned'
      · obtain ⟨t, hw⟩ := hqueued'.mem_waiters
        exact absurd hreturned (hs.not_returned hw packet)
      · exact Option.some.inj (hreturned.symm.trans hreturned')
  canReturn := by
    intro w packet hqueued
    have hset := h.isSet w packet hqueued
    refine ⟨hset, fun t hphase => ?_⟩
    have hevent := hs.event w
    rw [hphase, hset] at hevent
    cases hevent
  result := by
    intro hidle n payload hclaimed
    have hiff : ∀ w, Holds s w (n, payload) ↔ Returned s w (n, payload) := by
      intro w
      refine or_iff_right fun hqueued => ?_
      obtain ⟨t, hw⟩ := hqueued.mem_waiters
      have hwaits := (hs.waiting w t).mpr hw
      rw [hidle w] at hwaits
      cases hwaits
    exact (existsUnique_congr hiff).mp (h.oneHolder n payload hclaimed)

/-! ## Steps that hand no packet over -/

theorem tracked_init : Tracked ({} : AsyncUdpPacketClient ω Payload) := by
  have hnobody : ∀ w packet, ¬ Holds ({} : AsyncUdpPacketClient ω Payload) w packet := by
    rintro w packet (⟨t, awaiter, hmem, -⟩ | hreturned)
    · simp [queue] at hmem
    · cases hreturned
  refine ⟨?_, ?_, ?_⟩
  · intro n payload hclaimed
    cases hclaimed
  · intro w n payload hholds
    exact absurd hholds (hnobody w _)
  · intro w packet hqueued
    exact absurd (.inl hqueued) (hnobody w packet)

/-- Packets stay tracked when no packet changes hands. -/
theorem Tracked.of_holds_iff (h : Tracked s)
    (hholds : ∀ w packet, Holds s' w packet ↔ Holds s w packet)
    (hclaimed : s'.claimed = s.claimed)
    (hisSet : ∀ w packet, Queued s' w packet → s'.isSet w = true) : Tracked s' := by
  refine ⟨?_, ?_, hisSet⟩
  · intro n payload hn
    rw [hclaimed] at hn
    exact (existsUnique_congr fun w => hholds w (n, payload)).mpr (h.oneHolder n payload hn)
  · intro w n payload hw
    rw [hclaimed]
    exact h.isClaimed w n payload ((hholds w _).mp hw)

variable [DecidableEq ω] {serializer : PacketSerializer Obj Payload}

/-- A call that moves between two phases without a packet comes back with none. -/
theorem packet_update (phase : ω → WaitPhase ω Payload) {w : ω} {next : WaitPhase ω Payload}
    (hnext : next.packet = (phase w).packet) (v : ω) :
    (Function.update phase w next v).packet = (phase v).packet := by
  by_cases hv : v = w
  · subst hv
    rw [Function.update_self, hnext]
  · rw [Function.update_of_ne hv]

theorem queued_register {w : ω} {t : PacketType} {v : ω} {packet : ℕ × Payload} :
    Queued (register w t s) v packet ↔ Queued s v packet := by
  constructor
  · rintro ⟨u, awaiter, hmem, hevent, hdata⟩
    refine ⟨u, awaiter, ?_, hevent, hdata⟩
    rw [queue_register] at hmem
    split at hmem
    · rename_i hu
      rcases List.mem_append.mp hmem with hold | hnew
      · exact hu ▸ hold
      · obtain rfl := List.mem_singleton.mp hnew
        cases hdata
    · exact hmem
  · rintro ⟨u, awaiter, hmem, hevent, hdata⟩
    refine ⟨u, awaiter, ?_, hevent, hdata⟩
    rw [queue_register]
    split
    · rename_i hu
      exact List.mem_append_left _ (hu ▸ hmem)
    · exact hmem

theorem holds_register {w : ω} (t : PacketType) (hw : s.phase w = .idle) (v : ω)
    (packet : ℕ × Payload) : Holds (register w t s) v packet ↔ Holds s v packet := by
  have hnext : (WaitPhase.registered t : WaitPhase ω Payload).packet = (s.phase w).packet := by
    rw [hw]
    rfl
  exact or_congr queued_register (Eq.congr_left (packet_update s.phase hnext v))

theorem holds_await {w : ω} {t : PacketType} (hw : s.phase w = .registered t) (v : ω)
    (packet : ℕ × Payload) : Holds (await w t s) v packet ↔ Holds s v packet := by
  have hnext : (WaitPhase.afterAwait t (s.isSet w) : WaitPhase ω Payload).packet
      = (s.phase w).packet := by
    rw [hw]
    cases s.isSet w <;> rfl
  exact or_congr Iff.rfl (Eq.congr_left (packet_update s.phase hnext v))

theorem tracked_register (h : Tracked s) {w : ω} (t : PacketType) (hw : s.phase w = .idle) :
    Tracked (register w t s) :=
  h.of_holds_iff (holds_register t hw) rfl
    fun v packet hqueued => h.isSet v packet (queued_register.mp hqueued)

theorem tracked_await (h : Tracked s) {w : ω} {t : PacketType}
    (hw : s.phase w = .registered t) : Tracked (await w t s) :=
  h.of_holds_iff (holds_await hw) rfl h.isSet

/-- A set event stays set. -/
theorem isSet_setEvent {v : ω} (hv : s.isSet v = true) (w : ω) :
    (setEvent w s).isSet v = true := by
  show Function.update s.isSet w true v = true
  by_cases heq : v = w
  · subst heq
    exact Function.update_self _ _ _
  · rw [Function.update_of_ne heq]
    exact hv

theorem holds_setEvent (w v : ω) (packet : ℕ × Payload) :
    Holds (setEvent w s) v packet ↔ Holds s v packet :=
  or_congr Iff.rfl (Eq.congr_left (packet_update s.phase (WaitPhase.packet_wake (s.phase w)) v))

theorem tracked_setEvent (h : Tracked s) (w : ω) : Tracked (setEvent w s) :=
  h.of_holds_iff (holds_setEvent w) rfl
    fun v packet hqueued => isSet_setEvent (h.isSet v packet hqueued) w

theorem queued_of_pop {w : ω} {t : PacketType} {v : ω} {packet : ℕ × Payload}
    (h : Queued (pop w t s) v packet) : Queued s v packet := by
  obtain ⟨u, awaiter, hmem, hevent, hdata⟩ := h
  refine ⟨u, awaiter, ?_, hevent, hdata⟩
  rw [queue_pop] at hmem
  split at hmem
  · rename_i hu
    exact hu ▸ List.mem_of_mem_tail hmem
  · exact hmem

/-- A pop moves the packet of a call from its queued record into its result. -/
theorem holds_pop (hs : Consistent s) {w : ω} {t : PacketType} (hw : s.phase w = .resumed t)
    (v : ω) (packet : ℕ × Payload) : Holds (pop w t s) v packet ↔ Holds s v packet := by
  obtain ⟨awaiter, rest, hqueue, rfl⟩ := hs.front_of_resumed hw
  have hself : Returned (pop awaiter.event t s) awaiter.event packet
      ↔ awaiter.data = some packet := by
    unfold Returned
    rw [phase_pop, hqueue, Function.update_self]
    exact Iff.rfl
  have hother : ∀ v, v ≠ awaiter.event →
      (Returned (pop awaiter.event t s) v packet
        ↔ Returned s v packet) := by
    intro v hv
    unfold Returned
    rw [phase_pop, Function.update_of_ne hv]
  constructor
  · rintro (hqueued | hreturned)
    · exact .inl (queued_of_pop hqueued)
    · by_cases hv : v = awaiter.event
      · subst hv
        have hmem : awaiter ∈ s.queue t := hqueue ▸ List.mem_cons_self
        exact .inl ⟨t, awaiter, hmem, rfl, hself.mp hreturned⟩
      · exact .inr ((hother v hv).mp hreturned)
  -- a queued record is the popped one, behind it, or of another type
  · rintro (⟨u, record, hmem, rfl, hdata⟩ | hreturned)
    · by_cases hu : t = u
      · subst hu
        rw [hqueue] at hmem
        rcases List.mem_cons.mp hmem with rfl | hrest
        · exact .inr (hself.mpr hdata)
        · refine .inl ⟨t, record, ?_, rfl, hdata⟩
          rw [queue_pop, if_pos rfl, hqueue]
          exact hrest
      · refine .inl ⟨u, record, ?_, rfl, hdata⟩
        rw [queue_pop, if_neg hu]
        exact hmem
    · have hv : v ≠ awaiter.event := by
        rintro rfl
        unfold Returned at hreturned
        rw [hw] at hreturned
        cases hreturned
      exact .inr ((hother v hv).mpr hreturned)

theorem tracked_pop (h : Tracked s) (hs : Consistent s) {w : ω} {t : PacketType}
    (hw : s.phase w = .resumed t) : Tracked (pop w t s) := by
  refine h.of_holds_iff (holds_pop hs hw) (claimed_pop w t s) fun v packet hqueued => ?_
  rw [isSet_pop]
  exact h.isSet v packet (queued_of_pop hqueued)

/-! ## Storing a payload -/

omit [DecidableEq ω] in
/-- Where a call has a packet once a payload is stored for the record at the front. -/
theorem queued_storePayload {t : PacketType} {awaiter : AwaitingPacket ω Payload}
    {rest : List (AwaitingPacket ω Payload)} (hqueue : s.queue t = awaiter :: rest)
    (payload : Payload) {w : ω} {packet : ℕ × Payload} :
    Queued (storePayload t payload s) w packet
      ↔ (w = awaiter.event ∧ packet = (s.claimed.length, payload))
        ∨ ∃ u, ∃ record ∈ s.queue u, (u = t → record ∈ rest)
          ∧ record.event = w ∧ record.data = some packet := by
  rw [storePayload_eq t payload hqueue]
  constructor
  · rintro ⟨u, record, hmem, hevent, hdata⟩
    change record ∈ (s.setQueue t _).queue u at hmem
    rw [queue_setQueue] at hmem
    split at hmem
    · rename_i hu
      rcases List.mem_cons.mp hmem with rfl | hrest
      · exact .inl ⟨hevent.symm, (Option.some.inj hdata).symm⟩
      · refine .inr ⟨t, record, ?_, fun _ => hrest, hevent, hdata⟩
        rw [hqueue]
        exact List.mem_cons_of_mem _ hrest
    · rename_i hu
      exact .inr ⟨u, record, hmem, fun heq => absurd heq.symm hu, hevent, hdata⟩
  · rintro (⟨rfl, rfl⟩ | ⟨u, record, hmem, hrest, hevent, hdata⟩)
    · refine ⟨t, { awaiter with data := some (s.claimed.length, payload) }, ?_, rfl, rfl⟩
      show _ ∈ (s.setQueue t _).queue t
      rw [queue_setQueue_self]
      exact List.mem_cons_self
    · refine ⟨u, record, ?_, hevent, hdata⟩
      show record ∈ (s.setQueue t _).queue u
      rw [queue_setQueue]
      split
      · rename_i hu
        exact List.mem_cons_of_mem _ (hrest hu.symm)
      · exact hmem

omit [DecidableEq ω] in
theorem returned_storePayload {t : PacketType} {payload : Payload} {w : ω}
    {packet : ℕ × Payload} :
    Returned (storePayload t payload s) w packet ↔ Returned s w packet := by
  unfold Returned storePayload
  split <;> rfl

omit [DecidableEq ω] in
/-- A payload that is stored where there was none is with the call at the front, and every
other packet stays where it was. -/
theorem queued_storePayload_of_empty {t : PacketType} {awaiter : AwaitingPacket ω Payload}
    {rest : List (AwaitingPacket ω Payload)} (hqueue : s.queue t = awaiter :: rest)
    (hempty : awaiter.data = none) (payload : Payload) (w : ω) (packet : ℕ × Payload) :
    Queued (storePayload t payload s) w packet
      ↔ (w = awaiter.event ∧ packet = (s.claimed.length, payload)) ∨ Queued s w packet := by
  rw [queued_storePayload hqueue]
  refine or_congr Iff.rfl ⟨?_, ?_⟩
  · rintro ⟨u, record, hmem, -, hevent, hdata⟩
    exact ⟨u, record, hmem, hevent, hdata⟩
  · rintro ⟨u, record, hmem, hevent, hdata⟩
    refine ⟨u, record, hmem, ?_, hevent, hdata⟩
    rintro rfl
    rw [hqueue] at hmem
    rcases List.mem_cons.mp hmem with rfl | hrest
    · rw [hempty] at hdata
      cases hdata
    · exact hrest

theorem holds_storePayload_of_empty {t : PacketType} {awaiter : AwaitingPacket ω Payload}
    {rest : List (AwaitingPacket ω Payload)} (hqueue : s.queue t = awaiter :: rest)
    (hempty : awaiter.data = none) (payload : Payload) (w : ω) (packet : ℕ × Payload) :
    Holds (setEvent awaiter.event (storePayload t payload s)) w packet
      ↔ (w = awaiter.event ∧ packet = (s.claimed.length, payload)) ∨ Holds s w packet := by
  rw [holds_setEvent, Holds, queued_storePayload_of_empty hqueue hempty, returned_storePayload,
    or_assoc]
  exact Iff.rfl

/-- The new packet has one holder, and the holders of the others stay the same. -/
theorem tracked_storePayload (h : Tracked s) {t : PacketType}
    {awaiter : AwaitingPacket ω Payload} {rest : List (AwaitingPacket ω Payload)}
    (hqueue : s.queue t = awaiter :: rest) (hempty : awaiter.data = none) (payload : Payload) :
    Tracked (setEvent awaiter.event (storePayload t payload s)) := by
  have hqueued := queued_storePayload_of_empty hqueue hempty payload
  have hholds := holds_storePayload_of_empty hqueue hempty payload
  have hclaimed : (setEvent awaiter.event (storePayload t payload s)).claimed
      = s.claimed ++ [payload] := by
    rw [storePayload_eq t payload hqueue]
    rfl
  refine ⟨?_, ?_, ?_⟩
  · intro n value hn
    rw [hclaimed, List.getElem?_append] at hn
    by_cases hlt : n < s.claimed.length
    · rw [if_pos hlt] at hn
      refine (existsUnique_congr fun w => ?_).mpr (h.oneHolder n value hn)
      rw [hholds, or_iff_right]
      rintro ⟨-, hnew⟩
      exact absurd (Prod.mk.inj hnew).1 hlt.ne
    -- the new packet: an older holder of its number would have claimed it before
    · rw [if_neg hlt, List.getElem?_singleton] at hn
      split at hn
      · obtain rfl : n = s.claimed.length := by omega
        obtain rfl := Option.some.inj hn
        refine ⟨awaiter.event, (hholds _ _).mpr (.inl ⟨rfl, rfl⟩), fun w hw => ?_⟩
        rcases (hholds w _).mp hw with ⟨hevent, -⟩ | hold
        · exact hevent
        · have hn := h.isClaimed w _ _ hold
          rw [List.getElem?_eq_none le_rfl] at hn
          cases hn
      · cases hn
  · rintro w n value hw
    rw [hclaimed]
    rcases (hholds w _).mp hw with ⟨-, hnew⟩ | hold
    · obtain ⟨rfl, rfl⟩ := Prod.mk.inj hnew
      exact List.getElem?_concat_length
    · have hn := h.isClaimed w n value hold
      rw [List.getElem?_append_left (List.getElem?_eq_some_iff.mp hn).1]
      exact hn
  · intro w packet hw
    rcases (hqueued w packet).mp hw with ⟨rfl, -⟩ | hold
    · exact Function.update_self _ _ _
    · refine isSet_setEvent ?_ _
      rw [storePayload_eq t payload hqueue]
      exact h.isSet w packet hold

/-- A payload that is stored over another one loses that one. -/
theorem not_accounted_of_overwritten (h : Tracked s) (hs : Consistent s) {t : PacketType}
    {awaiter : AwaitingPacket ω Payload} {rest : List (AwaitingPacket ω Payload)}
    (hqueue : s.queue t = awaiter :: rest) {packet : ℕ × Payload}
    (hdata : awaiter.data = some packet) (payload : Payload) :
    ¬ Accounted (setEvent awaiter.event (storePayload t payload s)) := by
  intro haccounted
  have hfront : awaiter ∈ s.queue t := hqueue ▸ List.mem_cons_self
  have hholder : Holds s awaiter.event packet := .inl ⟨t, awaiter, hfront, rfl, hdata⟩
  have hclaimed := h.isClaimed _ _ _ hholder
  have hlt : packet.1 < s.claimed.length := (List.getElem?_eq_some_iff.mp hclaimed).1
  have hunique : ∀ w, Holds s w packet → w = awaiter.event := by
    intro w hw
    obtain ⟨v, -, hv⟩ := h.oneHolder _ _ hclaimed
    exact (hv w hw).trans (hv _ hholder).symm
  have hstill : (setEvent awaiter.event (storePayload t payload s)).claimed[packet.1]?
      = some packet.2 := by
    rw [storePayload_eq t payload hqueue]
    exact (List.getElem?_append_left hlt).trans hclaimed
  obtain ⟨w, hw, -⟩ := haccounted.oneHolder _ _ hstill
  rcases (holds_setEvent _ _ _).mp hw with hqueued | hreturned
  -- the packet is neither the new one nor in a record that was left alone
  · rcases (queued_storePayload hqueue payload).mp hqueued with
      ⟨-, hnew⟩ | ⟨u, record, hmem, hrest, hevent, hrecord⟩
    · exact absurd (Prod.mk.inj hnew).1 hlt.ne
    · have hw := hunique w (.inl ⟨u, record, hmem, hevent, hrecord⟩)
      exact hs.event_ne_front hqueue hmem hrest (hevent.trans hw)
  · have hold := returned_storePayload.mp hreturned
    obtain rfl := hunique w (.inr hold)
    exact hs.not_returned (List.mem_map.mpr ⟨awaiter, hfront, rfl⟩) _ hold

/-! ## Runs -/

/-- No decodable packet arrives while the record at the front of the queue of its type has
the payload of an earlier one. -/
def KeepsPayload (serializer : PacketSerializer Obj Payload) (s : AsyncUdpPacketClient ω Payload) :
    AsyncAction ω → Prop
  | .deliver message => ∀ t payload awaiter rest,
      addressee serializer message.buffer = some (t, some payload) →
      s.queue t = awaiter :: rest → awaiter.data = none
  | _ => True

theorem tracked_step {a : AsyncAction ω} (hstep : step serializer s a = some s')
    (hs : Consistent s) (h : Tracked s) (hkeeps : KeepsPayload serializer s a) : Tracked s' := by
  rcases step_cases hstep with
      ⟨w, t, -, hw, rfl⟩ | ⟨w, t, -, hw, rfl⟩ | ⟨message, -, -, rfl⟩
      | ⟨message, t, payload, rfl, haddressee, rfl⟩ | ⟨w, t, -, hw, rfl⟩
  · exact tracked_register h t hw
  · exact tracked_await h hw
  · exact h
  · rcases deliver_cases t payload s with
        ⟨-, heq⟩ | ⟨awaiter, rest, -, -, heq⟩ | ⟨awaiter, rest, value, hqueue, rfl, heq⟩
    · rw [heq]
      exact h
    · rw [heq]
      exact tracked_setEvent h awaiter.event
    · rw [heq]
      exact tracked_storePayload h hqueue (hkeeps t value awaiter rest haddressee hqueue) value
  · exact tracked_pop h hs hw

/-- A step that does not keep a payload loses a packet. -/
theorem not_accounted_of_not_keepsPayload {a : AsyncAction ω}
    (hstep : step serializer s a = some s') (hs : Consistent s) (h : Tracked s)
    (hloses : ¬ KeepsPayload serializer s a) : ¬ Accounted s' := by
  cases a with
  | deliver message =>
      simp only [KeepsPayload, not_forall] at hloses
      obtain ⟨t, payload, awaiter, rest, haddressee, hqueue, hdata⟩ := hloses
      obtain ⟨packet, hdata⟩ := Option.ne_none_iff_exists'.mp hdata
      rw [step, onDataReceivedPreHandler_eq, haddressee] at hstep
      obtain rfl := Option.some.inj hstep
      simp only [hqueue]
      exact not_accounted_of_overwritten h hs hqueue hdata payload
  | _ => exact absurd trivial hloses

/-- **When no claimed packet is lost or duplicated**: along a run every claimed packet is
with exactly one call in every state exactly when no decodable packet arrives while the
record at the front of its queue has the payload of an earlier one. -/
theorem accounted_iff (serializer : PacketSerializer Obj Payload) (as : List (AsyncAction ω)) :
    (asyncWaits ω serializer).Always Accounted (asyncWaits ω serializer).init as
      ↔ (asyncWaits ω serializer).EachStep (fun s a _ => KeepsPayload serializer s a)
          (asyncWaits ω serializer).init as :=
  Machine.always_iff_eachStep (I := fun s => Consistent s ∧ Tracked s)
    (fun _ h => h.2.accounted h.1)
    (fun _ _ _ hstep h hkeeps =>
      ⟨consistent_step hstep h.1, tracked_step hstep h.1 h.2 hkeeps⟩)
    (fun _ _ _ hstep h hloses => not_accounted_of_not_keepsPayload hstep h.1 h.2 hloses)
    ⟨consistent_init, tracked_init⟩ as

/-- Two calls wait for binary packets of type `unknown` when two such packets arrive: the
second payload takes the place of the first in the record of the first call. -/
theorem not_accounted_second_packet :
    ¬ ∀ as : List (AsyncAction Bool),
      (asyncWaits Bool binaryPacketSerializer).Always Accounted
        (asyncWaits Bool binaryPacketSerializer).init as := by
  intro h
  let waiting : AsyncUdpPacketClient Bool (List UInt8) :=
    register false .unknown (register true .unknown {})
  let delivered := setEvent true (storePayload .unknown [1] waiting)
  have hconsistent : Consistent waiting :=
    consistent_register (consistent_register consistent_init .unknown rfl) .unknown rfl
  have htracked : Tracked waiting :=
    tracked_register (tracked_register tracked_init .unknown rfl) .unknown rfl
  have hqueue : waiting.queue .unknown = [{ event := true }, { event := false }] := rfl
  have hdelivered : Tracked delivered := tracked_storePayload htracked hqueue rfl [1]
  have hqueue' : delivered.queue .unknown
      = [{ event := true, data := some (0, [1]) }, { event := false }] := rfl
  refine not_accounted_of_overwritten hdelivered
    (consistent_deliver hconsistent .unknown (some [1])) hqueue' rfl [2] ?_
  exact (h [.register true .unknown, .register false .unknown,
    .deliver { buffer := headerBytes .bin .unknown ++ [1], conn := 7 },
    .deliver { buffer := headerBytes .bin .unknown ++ [2], conn := 7 }]).last rfl

end AsyncUdpPacketClient

end KbNetworking
