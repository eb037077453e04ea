/-
# The view that a binary waiter reads

The payload of the binary serializer is a view into the buffer of its message.  The
pre-handler stores the view in a record; `async_wait_for_packet` pops the record and
`payload_as` copies the bytes out of the view.  `poll_messages` delivers every message of a
batch and then releases every message, after which the transport may use the buffers for
something else.

A call that is suspended when its event is set is resumed inside `set`, on the network
thread, if the events of the library do so (`resumesInside`); any other call goes on by
itself.

`run_poll` shows that the network steps of a poll, taken in turn, are the two loops of
`poll_messages`.  `readsDelivered_iff` proves that every waiter reads the bytes it was sent
exactly when every call that is not run inside `set` reads before the release of its message.
-/
import KbNetworking.AsyncDelivery

namespace KbNetworking

open Cpp

/-! ## Views -/

/-- The payload of the binary serializer, a `std::span` into the buffer of a message. -/
structure MessageView where
  message : ℕ
  offset : ℕ
  size : ℕ
  deriving DecidableEq, Repr

/-- The bytes that the view shows in the memory of the messages. -/
def MessageView.read (memory : ℕ → ℕ → UInt8) (view : MessageView) : List UInt8 :=
  (List.range view.size).map fun i => memory view.message (view.offset + i)

@[simp] theorem MessageView.length_read (memory : ℕ → ℕ → UInt8) (view : MessageView) :
    (view.read memory).length = view.size := by
  simp [read]

/-- The binary serializer on the buffer of message `n`: `deserialize_packet_internal` keeps
the address and the size of the bytes behind the header. -/
def viewSerializer (n : ℕ) : PacketSerializer (List UInt8) MessageView where
  serdeType := .bin
  serializePacket := BinaryPacketSerializer.serializePacketInternal
  deserializePacket := fun payload =>
    some { message := n, offset := headerSize, size := payload.length }

/-! ## Who holds which payload -/

namespace AsyncUdpPacketClient

variable {ω Obj Payload : Type} [DecidableEq ω] {serializer : PacketSerializer Obj Payload}
  {s s' : AsyncUdpPacketClient ω Payload}

/-- The steps of the calls hand no packet over. -/
theorem holds_call {a : AsyncAction ω} (hs : Consistent s)
    (hstep : step serializer s a = some s') (hnot : ∀ message, a ≠ .deliver message) (v : ω)
    (packet : ℕ × Payload) : Holds s' v packet ↔ Holds s v packet := by
  rcases step_cases hstep with
      ⟨w, t, -, hw, rfl⟩ | ⟨w, t, -, hw, rfl⟩ | ⟨message, rfl, -⟩ | ⟨message, t, payload, rfl, -⟩
      | ⟨w, t, -, hw, rfl⟩
  · exact holds_register t hw v packet
  · exact holds_await hw v packet
  · exact absurd rfl (hnot message)
  · exact absurd rfl (hnot message)
  · exact holds_pop hs hw v packet

/-- After a delivery the call at the front has the new packet, and every other packet stays
where it was. -/
theorem of_holds_deliver {t : PacketType} {payload : Payload} {v : ω} {packet : ℕ × Payload}
    (h : Holds (deliver t (some payload) s).1 v packet) :
    packet.2 = payload
    ∨ Holds s v packet
      ∧ ∀ awaiter rest, Consistent s → s.queue t = awaiter :: rest → v ≠ awaiter.event := by
  rcases deliver_cases t (some payload) s with
      ⟨hqueue, heq⟩ | ⟨awaiter, rest, -, hnone, -⟩ | ⟨awaiter, rest, value, hqueue, hsome, heq⟩
  · rw [heq] at h
    refine .inr ⟨h, fun awaiter rest _ hcons => ?_⟩
    cases hqueue.symm.trans hcons
  · cases hnone
  · obtain rfl := Option.some.inj hsome
    rw [heq, holds_setEvent] at h
    rcases h with hqueued | hreturned
    · rcases (queued_storePayload hqueue payload).mp hqueued with
        ⟨-, rfl⟩ | ⟨u, record, hmem, hrest, rfl, hdata⟩
      · exact .inl rfl
      · refine .inr ⟨.inl ⟨u, record, hmem, rfl, hdata⟩, fun awaiter' rest' hs hcons => ?_⟩
        obtain ⟨rfl, rfl⟩ := List.cons.inj (hqueue.symm.trans hcons)
        exact hs.event_ne_front hqueue hmem hrest
    · have hold := returned_storePayload.mp hreturned
      refine .inr ⟨.inr hold, fun awaiter' rest' hs hcons => ?_⟩
      rintro rfl
      have hmem : awaiter'.event ∈ s.waiters t := by
        rw [waiters_eq_cons hcons]
        exact List.mem_cons_self
      exact hs.not_returned hmem packet hold

end AsyncUdpPacketClient

/-! ## The waiting calls and the poll -/

open AsyncUdpPacketClient

/-- The asynchronous client with the messages of its connection.  The messages are delivered
and released in the order in which they arrived; `inside` is the call that the network thread
runs inside `set`. -/
structure ViewingClient (ω : Type) where
  waits : AsyncUdpPacketClient ω MessageView := {}
  messages : List IncomingViewMessage := []
  delivered : ℕ := 0
  released : ℕ := 0
  inside : Option ω := none
  finished : ω → Bool := fun _ => false

/-- A step of a call up to its pop, a step of `poll_messages`, or the end of a call, which
reads an object of `size` bytes. -/
inductive ViewAction (ω : Type) : Type where
  | call (a : AsyncAction ω)
  | receive (batch : List IncomingViewMessage)
  | deliver
  | release
  | read (w : ω) (size : ℕ)

namespace ViewingClient

variable {ω : Type}

/-- The memory of the messages: a released buffer holds whatever it holds. -/
def memory (s : ViewingClient ω) (garbage : ℕ → ℕ → UInt8) (n i : ℕ) : UInt8 :=
  if n < s.released then garbage n i
  else ((s.messages[n]?.map fun message => message.buffer.getD i 0)).getD 0

/-- The payload bytes of the packet that the view was made of, as they were delivered. -/
def payloadOf (s : ViewingClient ω) (view : MessageView) : List UInt8 :=
  (s.messages[view.message]?.map fun message => message.buffer.drop headerSize).getD []

/-- What a call of `async_wait_for_packet<T>` returns, given what it popped and
`sizeof(T) = size`: the bytes of the object. -/
def result (s : ViewingClient ω) (garbage : ℕ → ℕ → UInt8) (size : ℕ)
    (awaiter : Option (AwaitingPacket ω MessageView)) : Option (List UInt8) :=
  asyncWaitResult
    (fun view => BinaryPacketSerializer.payloadAsInternal size (view.read (s.memory garbage)))
    awaiter

/-- The same with the bytes that were delivered. -/
def deliveredResult (s : ViewingClient ω) (size : ℕ)
    (awaiter : Option (AwaitingPacket ω MessageView)) : Option (List UInt8) :=
  asyncWaitResult
    (fun view => BinaryPacketSerializer.payloadAsInternal size (s.payloadOf view)) awaiter

/-- The call that `set` resumes when the message is delivered. -/
def resumedBy (serializer : PacketSerializer (List UInt8) MessageView)
    (message : IncomingViewMessage) (waits : AsyncUdpPacketClient ω MessageView) : Option ω :=
  match addressee serializer message.buffer with
  | none => none
  | some (t, _) =>
      match waits.queue t with
      | [] => none
      | awaiter :: _ =>
          match waits.phase awaiter.event with
          | .suspended _ => some awaiter.event
          | _ => none

variable [DecidableEq ω]

/-- One step.  A poll receives a batch when everything was released, and the network thread
goes on when no call runs inside `set`.  An object has at least one byte. -/
def step (resumesInside : Bool) (s : ViewingClient ω) : ViewAction ω → Option (ViewingClient ω)
  | .call (.deliver _) => none
  | .call a =>
      (AsyncUdpPacketClient.step (viewSerializer s.delivered) s.waits a).map fun waits =>
        { s with waits := waits }
  | .receive batch =>
      if s.inside.isNone ∧ s.released = s.messages.length
          ∧ batch.length ≤ UdpClient.kDefaultPollMessageCount then
        some { s with messages := s.messages ++ batch }
      else none
  | .deliver =>
      match s.inside, s.messages[s.delivered]? with
      | none, some message =>
          match onDataReceivedPreHandler (viewSerializer s.delivered) message s.waits with
          | .error _ => none
          | .ok (waits, _) =>
              some { s with
                waits := waits
                delivered := s.delivered + 1
                inside :=
                  if resumesInside then resumedBy (viewSerializer s.delivered) message s.waits
                  else none }
      | _, _ => none
  | .release =>
      if s.inside.isNone ∧ s.delivered = s.messages.length ∧ s.released < s.delivered then
        some { s with released := s.released + 1 }
      else none
  | .read w size =>
      if size = 0 ∨ s.finished w = true then none
      else
        match s.waits.phase w with
        | .returned _ _ =>
            some { s with
              finished := Function.update s.finished w true
              inside := if s.inside = some w then none else s.inside }
        | _ => none

/-- The machine of one asynchronous binary client. -/
def machine (ω : Type) [DecidableEq ω] (resumesInside : Bool) :
    Machine (ViewingClient ω) (ViewAction ω) where
  init := {}
  step := step resumesInside

variable {resumesInside : Bool} {s s' : ViewingClient ω}

/-- **What a step can do**, with the guards and the pre-handler evaluated. -/
theorem step_cases {a : ViewAction ω} (h : step resumesInside s a = some s') :
    (∃ b waits, a = .call b ∧ (∀ message, b ≠ .deliver message)
      ∧ AsyncUdpPacketClient.step (viewSerializer s.delivered) s.waits b = some waits
      ∧ s' = { s with waits := waits })
    ∨ (∃ batch, a = .receive batch ∧ s.inside = none ∧ s.released = s.messages.length
      ∧ s' = { s with messages := s.messages ++ batch })
    ∨ (∃ message, a = .deliver ∧ s.inside = none ∧ s.messages[s.delivered]? = some message
      ∧ s' = { s with
          waits := match addressee (viewSerializer s.delivered) message.buffer with
            | none => s.waits
            | some (t, payload) => (AsyncUdpPacketClient.deliver t payload s.waits).1
          delivered := s.delivered + 1
          inside :=
            if resumesInside then resumedBy (viewSerializer s.delivered) message s.waits
            else none })
    ∨ (a = .release ∧ s.inside = none ∧ s.delivered = s.messages.length
      ∧ s.released < s.delivered ∧ s' = { s with released := s.released + 1 })
    ∨ (∃ w size t awaiter, a = .read w size ∧ 0 < size
      ∧ s.waits.phase w = .returned t awaiter
      ∧ s' = { s with
          finished := Function.update s.finished w true
          inside := if s.inside = some w then none else s.inside }) := by
  cases a with
  | call b =>
      cases b with
      | deliver message => cases h
      | _ =>
          obtain ⟨waits, hstep, rfl⟩ := Option.map_eq_some_iff.mp h
          exact .inl ⟨_, waits, rfl, nofun, hstep, rfl⟩
  | receive batch =>
      rw [step] at h
      split at h
      · rename_i hguard
        obtain ⟨hinside, hreleased, -⟩ := hguard
        exact .inr (.inl ⟨batch, rfl, Option.isNone_iff_eq_none.mp hinside, hreleased,
          (Option.some.inj h).symm⟩)
      · cases h
  | deliver =>
      rw [step] at h
      split at h
      · rename_i message hinside hmessage
        rw [onDataReceivedPreHandler_eq] at h
        refine .inr (.inr (.inl ⟨message, rfl, hinside, hmessage, ?_⟩))
        rw [← Option.some.inj h]
        cases addressee (viewSerializer s.delivered) message.buffer <;> rfl
      · cases h
  | release =>
      rw [step] at h
      split at h
      · rename_i hguard
        obtain ⟨hinside, hdelivered, hreleased⟩ := hguard
        exact .inr (.inr (.inr (.inl ⟨rfl, Option.isNone_iff_eq_none.mp hinside, hdelivered,
          hreleased, (Option.some.inj h).symm⟩)))
      · cases h
  | read w size =>
      rw [step] at h
      split at h
      · cases h
      · rename_i hguard
        split at h
        · rename_i t awaiter hphase
          exact .inr (.inr (.inr (.inr ⟨w, size, t, awaiter, rfl,
            Nat.pos_of_ne_zero fun hzero => hguard (.inl hzero), hphase,
            (Option.some.inj h).symm⟩)))
        · cases h

/-! ## A poll taken in turn -/

/-- A delivery is always possible while a message is left and no call runs inside `set`. -/
theorem run_deliver (k : ℕ) {s : ViewingClient ω} (hinside : s.inside = none)
    (hk : s.delivered + k ≤ s.messages.length) :
    ∃ s', s'.messages = s.messages ∧ s'.delivered = s.delivered + k ∧ s'.released = s.released
      ∧ s'.inside = none
      ∧ ∀ rest, (machine ω false).run s (List.replicate k .deliver ++ rest)
        = (machine ω false).run s' rest := by
  induction k generalizing s with
  | zero => exact ⟨s, rfl, rfl, rfl, hinside, fun _ => rfl⟩
  | succ k ih =>
      have hmessage : s.messages[s.delivered]? = some s.messages[s.delivered] :=
        List.getElem?_eq_getElem (by omega)
      obtain ⟨next, hstep, hmessages, hdelivered, hreleased, hnext⟩ :
          ∃ next, step false s .deliver = some next ∧ next.messages = s.messages
            ∧ next.delivered = s.delivered + 1 ∧ next.released = s.released
            ∧ next.inside = none := by
        simp only [step, hinside, hmessage, onDataReceivedPreHandler_eq]
        exact ⟨_, rfl, rfl, rfl, rfl, rfl⟩
      obtain ⟨s', hmessages', hdelivered', hreleased', hinside', hrun⟩ :=
        ih hnext (by rw [hmessages, hdelivered]; omega)
      refine ⟨s', hmessages'.trans hmessages, ?_, hreleased'.trans hreleased, hinside', ?_⟩
      · rw [hdelivered', hdelivered]
        omega
      · intro rest
        have hstep : (machine ω false).step s .deliver = some next := hstep
        rw [List.replicate_succ, List.cons_append, Machine.run_cons, hstep]
        exact hrun rest

theorem run_release (k : ℕ) {s : ViewingClient ω} (hinside : s.inside = none)
    (hdelivered : s.delivered = s.messages.length) (hk : s.released + k = s.delivered) :
    (machine ω false).run s (List.replicate k .release)
      = some { s with released := s.released + k } := by
  induction k generalizing s with
  | zero => rfl
  | succ k ih =>
      have hstep : (machine ω false).step s .release
          = some { s with released := s.released + 1 } := by
        show step false s .release = _
        rw [step, if_pos ⟨Option.isNone_iff_eq_none.mpr hinside, hdelivered, by omega⟩]
      have hrest := ih (s := { s with released := s.released + 1 }) hinside hdelivered
        (by show s.released + 1 + k = s.delivered; omega)
      rw [List.replicate_succ, Machine.run_cons, hstep]
      refine hrest.trans ?_
      show some { s with released := s.released + 1 + k } = _
      rw [Nat.add_right_comm, Nat.add_assoc]

/-- The network steps of a poll, taken in turn, are `poll_messages`: they deliver the messages
that its first loop hands out, and release as many. -/
theorem run_poll {self : UdpClient} (hinterface : self.interface = true)
    (hconn : self.conn ≠ kInvalidConnection) {slots : List (List UInt8)}
    (hlen : slots.length ≤ UdpClient.kDefaultPollMessageCount) {s : ViewingClient ω}
    (hinside : s.inside = none) (hdelivered : s.delivered = s.messages.length)
    (hreleased : s.released = s.messages.length) :
    ∃ output s', self.pollMessages (some fun message => .ok [message])
        { count := slots.length, slots := slots } = .ok output
      ∧ (machine ω false).run s (.receive output.outputs
          :: (List.replicate output.outputs.length .deliver
            ++ List.replicate output.released.length .release)) = some s'
      ∧ s'.messages = s.messages ++ output.outputs
      ∧ s'.delivered = s'.messages.length ∧ s'.released = s'.messages.length := by
  have hslots : slots.length < 2 ^ 64 := by
    unfold UdpClient.kDefaultPollMessageCount at hlen
    omega
  have hpoll := UdpClient.pollMessages_eq (f := fun message => [message]) (fun _ => rfl)
    hinterface hconn hslots
  set batch : List IncomingViewMessage := slots.flatMap _ with hbatch
  have hlength : batch.length = slots.length := by simp [hbatch]
  have hreceive : (machine ω false).step s (.receive batch)
      = some { s with messages := s.messages ++ batch } := by
    show step false s (.receive batch) = _
    rw [step, if_pos ⟨Option.isNone_iff_eq_none.mpr hinside, hreleased, hlength ▸ hlen⟩]
  have hall : (s.messages ++ batch).length = s.messages.length + batch.length :=
    List.length_append
  obtain ⟨s₁, hmessages, hdelivered₁, hreleased₁, hinside₁, hdeliver⟩ :=
    run_deliver batch.length (s := { s with messages := s.messages ++ batch }) hinside
      (by show s.delivered + batch.length ≤ (s.messages ++ batch).length; omega)
  change s₁.messages = s.messages ++ batch at hmessages
  change s₁.delivered = s.delivered + batch.length at hdelivered₁
  change s₁.released = s.released at hreleased₁
  rw [← hmessages] at hall
  have hend : s₁.delivered = s₁.messages.length := by omega
  have hlast : s₁.released + slots.length = s₁.messages.length := by omega
  refine ⟨_, { s₁ with released := s₁.released + slots.length }, hpoll, ?_, hmessages, hend, hlast⟩
  rw [Machine.run_cons, hreceive, List.length_range]
  exact (hdeliver _).trans (run_release slots.length hinside₁ hend (hlast.trans hend.symm))

/-! ## What a waiter holds -/

/-- The view was made of the payload of a message that was received. -/
structure Shows (s : ViewingClient ω) (view : MessageView) : Prop where
  offset : view.offset = headerSize
  message : ∃ message, s.messages[view.message]? = some message
    ∧ view.size = (message.buffer.drop headerSize).length

omit [DecidableEq ω] in
/-- A view shows the same message in a client that has received the same messages. -/
theorem Shows.of_messages_eq {s t : ViewingClient ω} {view : MessageView}
    (h : Shows s view) (hmessages : t.messages = s.messages) : Shows t view := by
  refine ⟨h.offset, ?_⟩
  rw [hmessages]
  exact h.message

/-- The invariant of the machine: what a call holds is a view of a received message, and the
message of a call that runs inside `set` has not been released. -/
structure ViewsMatch (s : ViewingClient ω) : Prop where
  consistent : Consistent s.waits
  releasedLast : s.released ≤ s.delivered
  shows : ∀ w packet, Holds s.waits w packet → Shows s packet.2
  insideFirst : ∀ w, s.inside = some w → ∀ packet, Holds s.waits w packet →
    s.released ≤ packet.2.message

omit [DecidableEq ω] in
theorem length_payloadOf {view : MessageView} (h : Shows s view) :
    (s.payloadOf view).length = view.size := by
  obtain ⟨message, hmessage, hsize⟩ := h.message
  rw [payloadOf, hmessage, hsize]
  rfl

omit [DecidableEq ω] in
/-- Before the release a view shows the payload of its message. -/
theorem read_eq_payloadOf {view : MessageView} (h : Shows s view)
    (hreleased : s.released ≤ view.message) (garbage : ℕ → ℕ → UInt8) :
    view.read (s.memory garbage) = s.payloadOf view := by
  obtain ⟨message, hmessage, hsize⟩ := h.message
  refine List.ext_getElem ?_ fun i hi hi' => ?_
  · rw [MessageView.length_read, length_payloadOf h]
  · have hlt : headerSize + i < message.buffer.length := by
      rw [length_payloadOf h, hsize, List.length_drop] at hi'
      omega
    simp only [MessageView.read, List.getElem_map, List.getElem_range, memory, payloadOf,
      hmessage, h.offset, Option.map_some, Option.getD_some, List.getElem_drop]
    rw [if_neg (Nat.not_lt.mpr hreleased)]
    exact (List.getD_eq_getElem _ 0 hlt)

omit [DecidableEq ω] in
/-- After the release there are bytes in the buffer that are not those of the payload. -/
theorem exists_read_ne_payloadOf {view : MessageView} (hsize : 0 < view.size)
    (hreleased : view.message < s.released) :
    ∃ garbage, view.read (s.memory garbage) ≠ s.payloadOf view := by
  obtain ⟨byte, hbyte⟩ : ∃ byte : UInt8, (s.payloadOf view).head? ≠ some byte := by
    by_cases hzero : (s.payloadOf view).head? = some 0
    · refine ⟨1, ?_⟩
      rw [hzero]
      decide
    · exact ⟨0, hzero⟩
  refine ⟨fun _ _ => byte, fun heq => hbyte ?_⟩
  rw [← heq, MessageView.read]
  obtain ⟨k, hk⟩ := Nat.exists_eq_add_of_lt hsize
  rw [hk, Nat.zero_add, List.range_succ_eq_map, List.map_cons, List.head?_cons, memory,
    if_pos hreleased]

/-! ## The steps keep the invariant -/

omit [DecidableEq ω] in
/-- The payload of a message is the view of the bytes behind its header. -/
theorem payload_of_addressee {n : ℕ} {buffer : List UInt8} {t : PacketType}
    {payload : Option MessageView} (h : addressee (viewSerializer n) buffer = some (t, payload)) :
    payload = some
      { message := n, offset := headerSize, size := (buffer.drop headerSize).length } := by
  obtain ⟨header, _, h⟩ := Option.bind_eq_some_iff.mp h
  obtain ⟨_, _, h⟩ := Option.bind_eq_some_iff.mp h
  obtain ⟨-, rfl⟩ := Prod.mk.inj (Option.some.inj h)
  rfl

omit [DecidableEq ω] in
/-- The call that `set` resumes is the one whose record is at the front. -/
theorem of_resumedBy {serializer : PacketSerializer (List UInt8) MessageView}
    {message : IncomingViewMessage} {waits : AsyncUdpPacketClient ω MessageView} {w : ω}
    (h : resumedBy serializer message waits = some w) :
    ∃ t payload awaiter rest, addressee serializer message.buffer = some (t, payload)
      ∧ waits.queue t = awaiter :: rest ∧ awaiter.event = w := by
  unfold resumedBy at h
  split at h
  · cases h
  · rename_i t payload haddressee
    split at h
    · cases h
    · rename_i awaiter rest hqueue
      split at h
      · exact ⟨t, payload, awaiter, rest, haddressee, hqueue, Option.some.inj h⟩
      · cases h

theorem viewsMatch_call (h : ViewsMatch s) {b : AsyncAction ω}
    {waits : AsyncUdpPacketClient ω MessageView} (hnot : ∀ message, b ≠ .deliver message)
    (hstep : AsyncUdpPacketClient.step (viewSerializer s.delivered) s.waits b = some waits) :
    ViewsMatch { s with waits := waits } := by
  have hholds := holds_call h.consistent hstep hnot
  refine ⟨consistent_step hstep h.consistent, h.releasedLast, ?_, ?_⟩
  · intro w packet hw
    exact (h.shows w packet ((hholds w packet).mp hw)).of_messages_eq rfl
  · intro w hw packet hpacket
    exact h.insideFirst w hw packet ((hholds w packet).mp hpacket)

omit [DecidableEq ω] in
theorem viewsMatch_receive (h : ViewsMatch s) (batch : List IncomingViewMessage) :
    ViewsMatch { s with messages := s.messages ++ batch } := by
  refine ⟨h.consistent, h.releasedLast, ?_, h.insideFirst⟩
  intro w packet hw
  have hshows := h.shows w packet hw
  obtain ⟨message, hmessage, hsize⟩ := hshows.message
  refine ⟨hshows.offset, message, ?_, hsize⟩
  exact (List.getElem?_append_left (List.getElem?_eq_some_iff.mp hmessage).1).trans hmessage

/-- A delivery hands out a view of its own message, which comes after the released ones. -/
theorem viewsMatch_deliver (h : ViewsMatch s) {message : IncomingViewMessage}
    (hmessage : s.messages[s.delivered]? = some message) :
    ViewsMatch { s with
      waits := match addressee (viewSerializer s.delivered) message.buffer with
        | none => s.waits
        | some (t, payload) => (AsyncUdpPacketClient.deliver t payload s.waits).1
      delivered := s.delivered + 1
      inside :=
        if resumesInside then resumedBy (viewSerializer s.delivered) message s.waits
        else none } := by
  cases haddressee : addressee (viewSerializer s.delivered) message.buffer with
  | none =>
      refine ⟨h.consistent, Nat.le_succ_of_le h.releasedLast, ?_, ?_⟩
      · intro w packet hw
        exact (h.shows w packet hw).of_messages_eq rfl
      · intro w hw
        cases resumesInside with
        | false => cases hw
        | true =>
            obtain ⟨t, payload, awaiter, rest, hsome, -⟩ := of_resumedBy hw
            cases haddressee.symm.trans hsome
  | some target =>
      obtain ⟨t, payload⟩ := target
      obtain rfl := payload_of_addressee haddressee
      refine ⟨consistent_deliver h.consistent t _, Nat.le_succ_of_le h.releasedLast, ?_, ?_⟩
      · intro w packet hw
        rcases of_holds_deliver hw with hnew | ⟨hold, -⟩
        · rw [hnew]
          exact ⟨rfl, message, hmessage, rfl⟩
        · exact (h.shows w packet hold).of_messages_eq rfl
      · intro w hw packet hpacket
        cases resumesInside with
        | false => cases hw
        | true =>
            obtain ⟨u, payload, awaiter, rest, hsome, hqueue, rfl⟩ := of_resumedBy hw
            obtain ⟨rfl, -⟩ := Prod.mk.inj (Option.some.inj (haddressee.symm.trans hsome))
            rcases of_holds_deliver hpacket with hnew | ⟨-, hother⟩
            · rw [hnew]
              exact h.releasedLast
            · exact absurd rfl (hother awaiter rest h.consistent hqueue)

omit [DecidableEq ω] in
theorem viewsMatch_release (h : ViewsMatch s) (hinside : s.inside = none)
    (hreleased : s.released < s.delivered) :
    ViewsMatch { s with released := s.released + 1 } := by
  refine ⟨h.consistent, hreleased, ?_, ?_⟩
  · intro w packet hw
    exact (h.shows w packet hw).of_messages_eq rfl
  · intro w hw
    cases hinside.symm.trans hw

theorem viewsMatch_read (h : ViewsMatch s) (w : ω) :
    ViewsMatch { s with
      finished := Function.update s.finished w true
      inside := if s.inside = some w then none else s.inside } := by
  refine ⟨h.consistent, h.releasedLast, ?_, ?_⟩
  · intro v packet hv
    exact (h.shows v packet hv).of_messages_eq rfl
  · intro v hv
    have hv : (if s.inside = some w then none else s.inside) = some v := hv
    split at hv
    · cases hv
    · exact h.insideFirst v hv

/-! ## Runs -/

/-- Whatever the released buffers hold, a call returns what it would return on the bytes that
were delivered to it. -/
def ReadsDelivered (s : ViewingClient ω) (a : ViewAction ω) (_ : ViewingClient ω) : Prop :=
  match a with
  | .read w size => ∀ t awaiter, s.waits.phase w = .returned t awaiter →
      ∀ garbage, s.result garbage size awaiter = s.deliveredResult size awaiter
  | _ => True

/-- A call that is not run inside `set` reads a payload of the right size before the release
of its message. -/
def ReadsInTime (s : ViewingClient ω) : ViewAction ω → Prop
  | .read w size => s.inside ≠ some w → ∀ n view, (s.waits.phase w).packet = some (n, view) →
      view.size = size → s.released ≤ view.message
  | _ => True

omit [DecidableEq ω] in
/-- A call that returns what it popped in time returns the delivered bytes. -/
theorem result_eq_of_readsInTime (h : ViewsMatch s) {w : ω} {size : ℕ}
    (hok : ReadsInTime s (.read w size)) {t : PacketType}
    {awaiter : Option (AwaitingPacket ω MessageView)}
    (hphase : s.waits.phase w = .returned t awaiter) (garbage : ℕ → ℕ → UInt8) :
    s.result garbage size awaiter = s.deliveredResult size awaiter := by
  cases awaiter with
  | none => rfl
  | some awaiter =>
      cases hdata : awaiter.data with
      | none => simp [result, deliveredResult, asyncWaitResult, hdata]
      | some packet =>
          obtain ⟨n, view⟩ := packet
          have hpacket : (s.waits.phase w).packet = some (n, view) := by
            rw [hphase]
            exact hdata
          have hholds : Holds s.waits w (n, view) := .inr hpacket
          have hshows := h.shows w (n, view) hholds
          simp only [result, deliveredResult, asyncWaitResult, hdata,
            BinaryPacketSerializer.payloadAsInternal, MessageView.length_read,
            length_payloadOf hshows]
          by_cases hsize : view.size = size
          · have hreleased : s.released ≤ view.message := by
              by_cases hinside : s.inside = some w
              · exact h.insideFirst w hinside (n, view) hholds
              · exact hok hinside n view hpacket hsize
            rw [read_eq_payloadOf hshows hreleased]
          · rw [if_pos hsize, if_pos hsize]

omit [DecidableEq ω] in
/-- A call that returns the delivered bytes whatever the released buffers hold is in time. -/
theorem readsInTime_of_readsDelivered (h : ViewsMatch s) {w : ω} {size : ℕ} (hpos : 0 < size)
    (hreads : ReadsDelivered s (.read w size) s') : ReadsInTime s (.read w size) := by
  rintro - n view hpacket rfl
  by_contra hlate
  obtain ⟨garbage, hne⟩ := exists_read_ne_payloadOf hpos (Nat.lt_of_not_le hlate)
  have hshows := h.shows w (n, view) (.inr hpacket)
  cases hphase : s.waits.phase w with
  | returned t awaiter =>
      rw [hphase] at hpacket
      cases awaiter with
      | none => cases hpacket
      | some awaiter =>
          have hdata : awaiter.data = some (n, view) := hpacket
          have heq := hreads t _ hphase garbage
          simp only [result, deliveredResult, asyncWaitResult, hdata,
            BinaryPacketSerializer.payloadAsInternal, MessageView.length_read,
            length_payloadOf hshows, ne_eq, not_true_eq_false, if_false, Option.some.injEq] at heq
          exact hne heq
  | _ =>
      rw [hphase] at hpacket
      cases hpacket

/-- A step in time keeps the invariant, and reads what was delivered. -/
theorem viewsMatch_step {a : ViewAction ω} (hstep : step resumesInside s a = some s')
    (h : ViewsMatch s) (hok : ReadsInTime s a) : ViewsMatch s' ∧ ReadsDelivered s a s' := by
  rcases step_cases hstep with
      ⟨b, waits, rfl, hnot, hcall, rfl⟩ | ⟨batch, rfl, -, -, rfl⟩ | ⟨message, rfl, -, hmessage, rfl⟩
      | ⟨rfl, hinside, -, hreleased, rfl⟩ | ⟨w, size, t, awaiter, rfl, -, -, rfl⟩
  · exact ⟨viewsMatch_call h hnot hcall, trivial⟩
  · exact ⟨viewsMatch_receive h batch, trivial⟩
  · exact ⟨viewsMatch_deliver h hmessage, trivial⟩
  · exact ⟨viewsMatch_release h hinside hreleased, trivial⟩
  · refine ⟨viewsMatch_read h w, fun u awaiter hphase garbage => ?_⟩
    exact result_eq_of_readsInTime h hok hphase garbage

theorem viewsMatch_init (resumesInside : Bool) :
    ViewsMatch (machine ω resumesInside).init := by
  refine ⟨consistent_init, le_rfl, ?_, nofun⟩
  rintro w packet (⟨t, awaiter, hmem, -⟩ | hreturned)
  · have hempty : ({} : AsyncUdpPacketClient ω MessageView).queue t = [] := by simp [queue]
    have hmem : awaiter ∈ ({} : AsyncUdpPacketClient ω MessageView).queue t := hmem
    rw [hempty] at hmem
    cases hmem
  · cases hreturned

/-- **When a binary waiter reads the bytes it was sent**: along a run every call returns what
the delivered bytes give it, whatever the released buffers hold, exactly when every call that
is not run inside `set` reads a payload of the right size before the release of its message. -/
theorem readsDelivered_iff (resumesInside : Bool) (as : List (ViewAction ω)) :
    (machine ω resumesInside).EachStep ReadsDelivered (machine ω resumesInside).init as
      ↔ (machine ω resumesInside).EachStep (fun s a _ => ReadsInTime s a)
          (machine ω resumesInside).init as := by
  refine Machine.eachStep_iff_eachStep (M := machine ω resumesInside) (I := ViewsMatch)
    (fun s a s' hstep h hok => viewsMatch_step hstep h hok) ?_ (viewsMatch_init resumesInside) as
  intro s a s' hstep h hreads
  rcases step_cases hstep with
      ⟨b, waits, rfl, -⟩ | ⟨batch, rfl, -⟩ | ⟨message, rfl, -⟩ | ⟨rfl, -⟩
      | ⟨w, size, t, awaiter, rfl, hpos, -⟩
  · trivial
  · trivial
  · trivial
  · trivial
  · exact readsInTime_of_readsDelivered h hpos hreads

/-- A call has registered and has not suspended when its packet is delivered; it goes on after
the message was released. -/
theorem not_readsDelivered_after_release :
    ¬ ∀ as : List (ViewAction Unit),
      (machine Unit true).EachStep ReadsDelivered (machine Unit true).init as := by
  intro h
  have hrun := h [.call (.register () .unknown),
    .receive [{ buffer := headerBytes .bin .unknown ++ [1], conn := 7 }], .deliver, .release,
    .call (.await ()), .call (.pop ()), .read () 1]
  have hread := (((((((hrun _ rfl).2 _ rfl).2 _ rfl).2 _ rfl).2 _ rfl).2 _ rfl).2 _ rfl).1
  exact absurd (hread _ _ rfl fun _ _ => 0) (by decide)

end ViewingClient

end KbNetworking
