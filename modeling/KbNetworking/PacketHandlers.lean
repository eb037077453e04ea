/-
# Running a packet handler while handlers are bound and unbound

`handle_message` locates the entry of a handler under (at most) the lock of the table, then
decodes the payload, and then runs the handler through the iterator that it kept.  Other
threads bind and unbind handlers in between.  An iterator into `m_handlers` is invalidated
when its entry is erased, and when an insertion rehashes the table; an entry that is bound
again is another entry.

`handleMessage_eq_steps` shows that the two steps together are `handle_message`.
`invokesBound_iff` proves that every handler that is run is the bound one exactly when no
located entry is disturbed before a packet that decodes reaches its handler.
-/
import KbNetworking.Lib.Machine
import KbNetworking.UdpPacketClient

namespace KbNetworking

open Cpp

/-! ## The two steps -/

/-- An entry of `m_handlers`; the node tells entries apart that are bound one after the
other. -/
structure HandlerEntry (H : Type) where
  node : ℕ
  handler : H
  deriving DecidableEq, Repr

namespace UdpPacketClient

variable {Obj Payload H σ : Type}

/-- `handle_message` up to the lookup; `taken` is the answer of the pre-handler. -/
def locateHandler (self : UdpPacketClient Obj Payload H) (taken : Bool) (buffer : List UInt8) :
    Checked (Option (PacketType × H)) := do
  match ← unpackInternalPacketHeader buffer with
  | none => return none
  | some header =>
      if header.serdeType ≠ self.serializer.serdeType then return none
      if taken then return none
      match self.handlers[header.packetType]? with
      | none => return none
      | some handler => return some (header.packetType, handler)

/-- The lookup finds the entry for the type in the header, and does not fault. -/
theorem locateHandler_eq (self : UdpPacketClient Obj Payload H) (taken : Bool)
    (buffer : List UInt8) :
    self.locateHandler taken buffer
      = .ok (do
          let header ← parseHeader buffer
          guard (header.serdeType = self.serializer.serdeType)
          guard (taken = false)
          let handler ← self.handlers[header.packetType]?
          return (header.packetType, handler)) := by
  unfold locateHandler
  rw [unpackInternalPacketHeader_eq, ok_bind]
  cases hparse : parseHeader buffer with
  | none => rfl
  | some header =>
      by_cases hserde : header.serdeType = self.serializer.serdeType
      · cases taken with
        | true => simp [hserde, guard]
        | false => cases hhandler : self.handlers[header.packetType]? <;> simp [hserde, hhandler]
      · simp [hserde, guard]

/-- A message whose handler is located has a header. -/
theorem of_locateHandler {self : UdpPacketClient Obj Payload H} {taken : Bool}
    {buffer : List UInt8} {t : PacketType} {handler : H}
    (h : self.locateHandler taken buffer = .ok (some (t, handler))) :
    headerSize ≤ buffer.length ∧ self.handlers[t]? = some handler := by
  rw [locateHandler_eq, Except.ok.injEq] at h
  obtain ⟨header, hparse, h⟩ := Option.bind_eq_some_iff.mp h
  obtain ⟨-, -, h⟩ := Option.bind_eq_some_iff.mp h
  obtain ⟨-, -, h⟩ := Option.bind_eq_some_iff.mp h
  obtain ⟨found, hfound, h⟩ := Option.bind_eq_some_iff.mp h
  obtain ⟨rfl, rfl⟩ := Prod.mk.inj (Option.some.inj h)
  exact ⟨headerSize_le_of_parseHeader hparse, hfound⟩

/-- `handle_message`, when its pre-handler answers `taken`, is the two steps: the handlers it
runs are the located one on the decoded payload. -/
theorem handleMessage_eq_steps (self : UdpPacketClient Obj Payload H) (taken : Bool)
    (message : IncomingViewMessage) (s : σ) :
    (self.handleMessage (some fun _ s => .ok (s, taken)) message s).map (·.2.invoked)
      = (do
          match ← self.locateHandler taken message.buffer with
          | none => return []
          | some (_, handler) =>
              match ← self.serializer.decodePayload message.buffer with
              | none => return []
              | some payload => return [(handler, payload)]) := by
  rw [locateHandler_eq, ok_bind]
  rcases header_or_not self.serializer message.buffer with ⟨header, hparse, hserde⟩ | hno
  · have hlen : headerSize ≤ message.buffer.length := headerSize_le_of_parseHeader hparse
    rw [self.handleMessage_of_header hparse hserde, self.runHandler_eq header hlen]
    cases taken with
    | true => simp [hparse, guard, Except.map]
    | false =>
        cases hhandler : self.handlers[header.packetType]? with
        | none => simp [hparse, hserde, hhandler, HandleResult.rejected, Except.map]
        | some handler =>
            cases hpayload : self.serializer.deserializePacket
                (message.buffer.drop headerSize) <;>
              simp [hparse, hserde, hhandler, hpayload, PacketSerializer.decodePayload_eq _ hlen,
                HandleResult.rejected, Except.map]
  · rw [self.handleMessage_of_no_header hno]
    cases hparse : parseHeader message.buffer with
    | none => rfl
    | some header => simp [hno header hparse, guard, HandleResult.rejected, Except.map]

end UdpPacketClient

/-! ## The client and its threads -/

/-- What `handle_message` keeps between its two steps: the iterator, which points to a node
of the table in one of its generations, and the message.  `disturbed` tells whether the
entry was unbound or the table rehashed since; it is kept for the statements only. -/
structure LocatedHandler where
  packetType : PacketType
  node : ℕ
  generation : ℕ
  buffer : List UInt8
  disturbed : Bool := false

/-- The packet client with the message that its network thread is handling; a rehash begins a
new generation of the table. -/
structure HandlingClient (Obj Payload H : Type) where
  client : UdpPacketClient Obj Payload (HandlerEntry H)
  nextNode : ℕ := 0
  generation : ℕ := 0
  pending : Option LocatedHandler := none
  invoked : List (PacketType × H × Payload) := []
  fault : Option Fault := none

/-- A step of the network thread, or a call on another thread; `rehashes` is whether the table
rehashes when it inserts. -/
inductive HandlingAction (H : Type) : Type where
  | locate (taken : Bool) (message : IncomingViewMessage)
  | invoke
  | bind (t : PacketType) (handler : H) (rehashes : Bool)
  | unbind (t : PacketType)

namespace HandlingClient

variable {Obj Payload H : Type}

/-- `handler_it->second`: the entry must still be there, in the same generation. -/
def deref (s : HandlingClient Obj Payload H) (it : LocatedHandler) : Checked H :=
  match s.client.handlers[it.packetType]? with
  | none => .error .useAfterFree
  | some entry =>
      if entry.node = it.node ∧ s.generation = it.generation then .ok entry.handler
      else .error .useAfterFree

/-- The first step of `handle_message`. -/
def locate (taken : Bool) (message : IncomingViewMessage) (s : HandlingClient Obj Payload H) :
    Checked (HandlingClient Obj Payload H) := do
  match ← s.client.locateHandler taken message.buffer with
  | none => return s
  | some (t, entry) =>
      let it : LocatedHandler :=
        { packetType := t
          node := entry.node
          generation := s.generation
          buffer := message.buffer }
      return { s with pending := some it }

/-- The second step of `handle_message`. -/
def invoke (it : LocatedHandler) (s : HandlingClient Obj Payload H) :
    Checked (HandlingClient Obj Payload H) := do
  match ← s.client.serializer.decodePayload it.buffer with
  | none => return { s with pending := none }
  | some payload =>
      let handler ← s.deref it
      return { s with
        pending := none
        invoked := s.invoked ++ [(it.packetType, handler, payload)] }

/-- `bind_packet_handler`. -/
def bind (t : PacketType) (handler : H) (rehashes : Bool) (s : HandlingClient Obj Payload H) :
    HandlingClient Obj Payload H :=
  match s.client.bindPacketHandler t { node := s.nextNode, handler := handler } with
  | (_, false) => s
  | (client, true) =>
      { s with
        client := client
        nextNode := s.nextNode + 1
        generation := if rehashes then s.generation + 1 else s.generation
        pending := s.pending.map fun it =>
          { it with disturbed := it.disturbed || rehashes } }

/-- `unbind_packet_handler`. -/
def unbind (t : PacketType) (s : HandlingClient Obj Payload H) : HandlingClient Obj Payload H :=
  { s with
    client := s.client.unbindPacketHandler t
    pending := s.pending.map fun it =>
      { it with disturbed := it.disturbed || it.packetType == t } }

/-- The state after a step of the network thread, which may run into a fault. -/
def settle (s : HandlingClient Obj Payload H) :
    Checked (HandlingClient Obj Payload H) → HandlingClient Obj Payload H
  | .ok s' => s'
  | .error e => { s with fault := some e }

/-- One step.  The network thread handles one message at a time. -/
def step (s : HandlingClient Obj Payload H) (a : HandlingAction H) :
    Option (HandlingClient Obj Payload H) :=
  if s.fault.isSome then none
  else
    match a with
    | .locate taken message =>
        if s.pending.isSome then none else some (s.settle (locate taken message s))
    | .invoke => s.pending.map fun it => s.settle (invoke it s)
    | .bind t handler rehashes => some (bind t handler rehashes s)
    | .unbind t => some (unbind t s)

/-- The machine of one client; at first no handler is bound. -/
def machine (H : Type) (serializer : PacketSerializer Obj Payload) :
    Machine (HandlingClient Obj Payload H) (HandlingAction H) where
  init := { client := { serializer := serializer } }
  step := step

/-! ## What the steps keep -/

/-- The iterator points to an entry of the table. -/
def Points (s : HandlingClient Obj Payload H) (it : LocatedHandler) : Prop :=
  it.generation = s.generation
    ∧ ∃ entry : HandlerEntry H, s.client.handlers[it.packetType]? = some entry
      ∧ entry.node = it.node

/-- Nodes of the table are used up, and a pending iterator points to its entry exactly while
nothing has disturbed it. -/
structure IteratorMatches (s : HandlingClient Obj Payload H) : Prop where
  notFailed : s.fault = none
  used : ∀ (t : PacketType) (entry : HandlerEntry H), s.client.handlers[t]? = some entry →
    entry.node < s.nextNode
  pendingUsed : ∀ it, s.pending = some it → it.node < s.nextNode ∧ it.generation ≤ s.generation
  header : ∀ it, s.pending = some it → headerSize ≤ it.buffer.length
  points : ∀ it, s.pending = some it → (Points s it ↔ it.disturbed = false)

variable {s s' : HandlingClient Obj Payload H}

theorem deref_of_points {it : LocatedHandler} (h : Points s it) :
    ∃ entry, s.client.handlers[it.packetType]? = some entry
      ∧ s.deref it = .ok entry.handler := by
  obtain ⟨hgeneration, entry, hentry, hnode⟩ := h
  refine ⟨entry, hentry, ?_⟩
  unfold deref
  rw [hentry]
  exact if_pos ⟨hnode, hgeneration.symm⟩

theorem points_of_deref {it : LocatedHandler} {handler : H} (h : s.deref it = .ok handler) :
    Points s it := by
  unfold deref at h
  split at h
  · cases h
  · rename_i entry hentry
    split at h
    · rename_i hsame
      exact ⟨hsame.2.symm, entry, hentry, hsame.1⟩
    · cases h

/-- `locate` leaves the table alone, and keeps an iterator that points to its entry. -/
theorem iteratorMatches_locate (h : IteratorMatches s) (taken : Bool)
    (message : IncomingViewMessage) :
    IteratorMatches (s.settle (locate taken message s))
      ∧ (s.settle (locate taken message s)).invoked = s.invoked := by
  cases hlocated : s.client.locateHandler taken message.buffer with
  | error e =>
      rw [UdpPacketClient.locateHandler_eq] at hlocated
      cases hlocated
  | ok located =>
      unfold locate
      rw [hlocated]
      cases located with
      | none => exact ⟨h, rfl⟩
      | some found =>
          obtain ⟨hheader, hentry⟩ := UdpPacketClient.of_locateHandler hlocated
          refine ⟨⟨h.notFailed, h.used, ?_, ?_, ?_⟩, rfl⟩ <;>
            · rintro it ⟨⟩
              first
                | exact ⟨h.used _ _ hentry, le_rfl⟩
                | exact hheader
                | exact iff_of_true ⟨rfl, _, hentry, rfl⟩ rfl

theorem getElem?_bindPacketHandler {client : UdpPacketClient Obj Payload (HandlerEntry H)}
    {t : PacketType} {entry : HandlerEntry H}
    (h : (client.bindPacketHandler t entry).2 = true) (u : PacketType) :
    client.handlers[t]? = none
      ∧ (client.bindPacketHandler t entry).1.handlers[u]?
        = if t = u then some entry else client.handlers[u]? := by
  unfold UdpPacketClient.bindPacketHandler at h ⊢
  split at h
  · cases h
  · rename_i hcontains
    have hnone : client.handlers[t]? = none := Std.ExtTreeMap.getElem?_eq_none hcontains
    refine ⟨hnone, ?_⟩
    rw [if_neg hcontains, Std.ExtTreeMap.getElem?_insertIfNew]
    by_cases hu : t = u
    · subst hu
      have hmem : ¬ t ∈ client.handlers := fun h => hcontains (Std.ExtTreeMap.mem_iff_contains.mp h)
      simp [hmem]
    · simp [hu]

theorem getElem?_unbindPacketHandler (client : UdpPacketClient Obj Payload (HandlerEntry H))
    (t u : PacketType) :
    (client.unbindPacketHandler t).handlers[u]? = if t = u then none else client.handlers[u]? := by
  simp [UdpPacketClient.unbindPacketHandler, Std.ExtTreeMap.getElem?_erase]

/-- What `bind_packet_handler` does: a type that is bound already stays as it is, and any
other one gets an entry of its own. -/
theorem bind_cases (t : PacketType) (handler : H) (rehashes : Bool)
    (s : HandlingClient Obj Payload H) :
    bind t handler rehashes s = s
    ∨ ∃ client : UdpPacketClient Obj Payload (HandlerEntry H), s.client.handlers[t]? = none
      ∧ (∀ u, client.handlers[u]?
          = if t = u then some { node := s.nextNode, handler := handler }
            else s.client.handlers[u]?)
      ∧ bind t handler rehashes s
        = { s with
            client := client
            nextNode := s.nextNode + 1
            generation := if rehashes then s.generation + 1 else s.generation
            pending := s.pending.map fun it =>
              { it with disturbed := it.disturbed || rehashes } } := by
  unfold bind
  split
  · exact .inl rfl
  · rename_i client hbind
    have hbound := getElem?_bindPacketHandler (congrArg Prod.snd hbind)
    rw [hbind] at hbound
    exact .inr ⟨client, (hbound t).1, fun u => (hbound u).2, rfl⟩

theorem iteratorMatches_bind (h : IteratorMatches s) (t : PacketType) (handler : H)
    (rehashes : Bool) : IteratorMatches (bind t handler rehashes s) := by
  rcases bind_cases t handler rehashes s with heq | ⟨client, hfree, htable, heq⟩
  · rw [heq]
    exact h
  rw [heq]
  refine ⟨h.notFailed, ?_, ?_, ?_, ?_⟩
  · intro u entry hentry
    rw [htable] at hentry
    split at hentry
    · obtain rfl := Option.some.inj hentry
      exact Nat.lt_succ_self _
    · exact Nat.lt_succ_of_lt (h.used u entry hentry)
  · intro it' hit'
    obtain ⟨it, hit, rfl⟩ := Option.map_eq_some_iff.mp hit'
    obtain ⟨hnode, hgeneration⟩ := h.pendingUsed it hit
    refine ⟨Nat.lt_succ_of_lt hnode, hgeneration.trans ?_⟩
    cases rehashes
    · exact le_rfl
    · exact Nat.le_succ _
  · intro it' hit'
    obtain ⟨it, hit, rfl⟩ := Option.map_eq_some_iff.mp hit'
    exact h.header it hit
  · intro it' hit'
    obtain ⟨it, hit, rfl⟩ := Option.map_eq_some_iff.mp hit'
    obtain ⟨hnode, hgeneration⟩ := h.pendingUsed it hit
    cases rehashes with
    -- a rehash leaves the iterator in an older generation
    | true =>
        refine iff_of_false ?_ (by simp)
        rintro ⟨hsame, -⟩
        have hsame : it.generation = s.generation + 1 := hsame
        omega
    | false =>
        rw [Bool.or_false]
        refine Iff.trans (and_congr Iff.rfl ?_) (h.points it hit)
        show (∃ entry, client.handlers[it.packetType]? = some entry ∧ entry.node = it.node) ↔ _
        rw [htable]
        split
        -- the entry that is new is not the one that was located
        · rename_i htype
          rw [← htype, hfree]
          constructor
          · rintro ⟨entry, hentry, hsame⟩
            obtain rfl := Option.some.inj hentry
            exact absurd hsame hnode.ne'
          · rintro ⟨entry, hentry, -⟩
            cases hentry
        · exact Iff.rfl

theorem iteratorMatches_unbind (h : IteratorMatches s) (t : PacketType) :
    IteratorMatches (unbind t s) := by
  have htable := getElem?_unbindPacketHandler s.client t
  refine ⟨h.notFailed, ?_, ?_, ?_, ?_⟩
  · intro u entry hentry
    change (s.client.unbindPacketHandler t).handlers[u]? = some entry at hentry
    rw [htable] at hentry
    split at hentry
    · cases hentry
    · exact h.used u entry hentry
  · intro it' hit'
    obtain ⟨it, hit, rfl⟩ := Option.map_eq_some_iff.mp hit'
    exact h.pendingUsed it hit
  · intro it' hit'
    obtain ⟨it, hit, rfl⟩ := Option.map_eq_some_iff.mp hit'
    exact h.header it hit
  · intro it' hit'
    obtain ⟨it, hit, rfl⟩ := Option.map_eq_some_iff.mp hit'
    show (it.generation = s.generation ∧ ∃ entry,
      (s.client.unbindPacketHandler t).handlers[it.packetType]? = some entry
        ∧ entry.node = it.node) ↔ (it.disturbed || it.packetType == t) = false
    rw [htable]
    by_cases htype : t = it.packetType
    · rw [if_pos htype, htype]
      refine iff_of_false ?_ (by simp)
      rintro ⟨-, entry, hentry, -⟩
      cases hentry
    · have hne : (it.packetType == t) = false := beq_false_of_ne (Ne.symm htype)
      rw [if_neg htype, hne, Bool.or_false]
      exact h.points it hit

/-! ## Runs -/

/-- The step runs into no fault, and every handler that it runs is bound, at this moment, to
the type of the packet. -/
def InvokesBound (s : HandlingClient Obj Payload H) (_ : HandlingAction H)
    (s' : HandlingClient Obj Payload H) : Prop :=
  s'.fault = none ∧ ∃ invocations, s'.invoked = s.invoked ++ invocations
    ∧ ∀ invocation ∈ invocations, ∃ entry : HandlerEntry H,
      s.client.handlers[invocation.1]? = some entry ∧ entry.handler = invocation.2.1

/-- No packet that decodes reaches its handler after the entry that was located for it was
unbound or the table rehashed. -/
def Undisturbed (s : HandlingClient Obj Payload H) : HandlingAction H → Prop
  | .invoke => ∀ it payload, s.pending = some it →
      s.client.serializer.decodePayload it.buffer = .ok (some payload) → it.disturbed = false
  | _ => True

/-- A step that runs no handler. -/
theorem invokesBound_of_invoked_eq {a : HandlingAction H} (hfault : s'.fault = none)
    (hinvoked : s'.invoked = s.invoked) : InvokesBound s a s' :=
  ⟨hfault, [], by rw [hinvoked, List.append_nil], nofun⟩

/-- What the second step of `handle_message` does. -/
theorem invoke_eq {it : LocatedHandler} (hlen : headerSize ≤ it.buffer.length) :
    invoke it s = match s.client.serializer.deserializePacket (it.buffer.drop headerSize) with
      | none => .ok { s with pending := none }
      | some payload => (s.deref it).map fun handler =>
          { s with
            pending := none
            invoked := s.invoked ++ [(it.packetType, handler, payload)] } := by
  unfold invoke
  rw [PacketSerializer.decodePayload_eq _ hlen, ok_bind]
  cases s.client.serializer.deserializePacket (it.buffer.drop headerSize) with
  | none => rfl
  | some payload => cases s.deref it <;> rfl

/-- An invocation that nothing disturbed runs the bound handler. -/
theorem iteratorMatches_invoke (h : IteratorMatches s) {it : LocatedHandler}
    (hit : s.pending = some it) (hok : Undisturbed s .invoke) :
    IteratorMatches (s.settle (invoke it s)) ∧ InvokesBound s .invoke (s.settle (invoke it s)) := by
  have hlen := h.header it hit
  have hdecode := PacketSerializer.decodePayload_eq s.client.serializer hlen
  rw [invoke_eq hlen]
  cases hpayload : s.client.serializer.deserializePacket (it.buffer.drop headerSize) with
  | none =>
      exact ⟨⟨h.notFailed, h.used, nofun, nofun, nofun⟩,
        invokesBound_of_invoked_eq h.notFailed rfl⟩
  | some payload =>
      rw [hpayload] at hdecode
      have hpoints := (h.points it hit).mpr (hok it payload hit hdecode)
      obtain ⟨entry, hentry, hderef⟩ := deref_of_points hpoints
      simp only [hderef, Except.map]
      refine ⟨⟨h.notFailed, h.used, nofun, nofun, nofun⟩, h.notFailed, _, rfl, ?_⟩
      rintro invocation hmem
      obtain rfl := List.mem_singleton.mp hmem
      exact ⟨entry, hentry, rfl⟩

/-- An invocation that runs into no fault uses an iterator that nothing disturbed. -/
theorem undisturbed_of_invoke (h : IteratorMatches s) {it : LocatedHandler}
    (hit : s.pending = some it) (hbound : (s.settle (invoke it s)).fault = none) :
    Undisturbed s .invoke := by
  intro it' payload hit' hdecode
  obtain rfl : it = it' := Option.some.inj (hit.symm.trans hit')
  have hlen := h.header it hit
  rw [PacketSerializer.decodePayload_eq s.client.serializer hlen, Except.ok.injEq] at hdecode
  rw [invoke_eq hlen, hdecode] at hbound
  cases hderef : s.deref it with
  | error e =>
      simp only [hderef, Except.map, settle] at hbound
      cases hbound
  | ok handler => exact (h.points it hit).mp (points_of_deref hderef)

/-- **What a step can do**, with the guards evaluated. -/
theorem step_cases {a : HandlingAction H} (h : step s a = some s') :
    (∃ taken message, a = .locate taken message ∧ s' = s.settle (locate taken message s))
    ∨ (∃ it, a = .invoke ∧ s.pending = some it ∧ s' = s.settle (invoke it s))
    ∨ (∃ t handler rehashes, a = .bind t handler rehashes ∧ s' = bind t handler rehashes s)
    ∨ (∃ t, a = .unbind t ∧ s' = unbind t s) := by
  unfold step at h
  split at h
  · cases h
  cases a with
  | locate taken message =>
      dsimp only at h
      split at h
      · cases h
      · exact .inl ⟨taken, message, rfl, (Option.some.inj h).symm⟩
  | invoke =>
      obtain ⟨it, hit, rfl⟩ := Option.map_eq_some_iff.mp h
      exact .inr (.inl ⟨it, rfl, hit, rfl⟩)
  | bind t handler rehashes =>
      exact .inr (.inr (.inl ⟨t, handler, rehashes, rfl, (Option.some.inj h).symm⟩))
  | unbind t => exact .inr (.inr (.inr ⟨t, rfl, (Option.some.inj h).symm⟩))

theorem invoked_bind (t : PacketType) (handler : H) (rehashes : Bool)
    (s : HandlingClient Obj Payload H) :
    (bind t handler rehashes s).invoked = s.invoked := by
  rcases bind_cases t handler rehashes s with heq | ⟨client, -, -, heq⟩ <;> rw [heq]

/-- A step that nothing disturbed runs bound handlers only, and keeps the invariant. -/
theorem iteratorMatches_step {a : HandlingAction H} (hstep : step s a = some s')
    (h : IteratorMatches s) (hok : Undisturbed s a) : IteratorMatches s' ∧ InvokesBound s a s' := by
  rcases step_cases hstep with
      ⟨taken, message, rfl, rfl⟩ | ⟨it, rfl, hit, rfl⟩ | ⟨t, handler, rehashes, rfl, rfl⟩
      | ⟨t, rfl, rfl⟩
  · obtain ⟨hkept, hinvoked⟩ := iteratorMatches_locate h taken message
    exact ⟨hkept, invokesBound_of_invoked_eq hkept.notFailed hinvoked⟩
  · exact iteratorMatches_invoke h hit hok
  · have hkept := iteratorMatches_bind h t handler rehashes
    exact ⟨hkept, invokesBound_of_invoked_eq hkept.notFailed (invoked_bind t handler rehashes s)⟩
  · have hkept := iteratorMatches_unbind h t
    exact ⟨hkept, invokesBound_of_invoked_eq hkept.notFailed rfl⟩

theorem iteratorMatches_init (serializer : PacketSerializer Obj Payload) :
    IteratorMatches (machine H serializer).init := by
  refine ⟨rfl, ?_, nofun, nofun, nofun⟩
  intro t entry hentry
  have hempty : ((∅ : HandlerTable (HandlerEntry H)))[t]? = none := Std.ExtTreeMap.getElem?_empty
  cases hempty.symm.trans hentry

/-- **When the handler that is run is the bound one**: along a run every handler that is run
for a packet is the one bound to its type at that moment exactly when no packet that decodes
reaches its handler after the entry located for it was unbound or the table rehashed. -/
theorem invokesBound_iff (serializer : PacketSerializer Obj Payload)
    (as : List (HandlingAction H)) :
    (machine H serializer).EachStep InvokesBound (machine H serializer).init as
      ↔ (machine H serializer).EachStep (fun s a _ => Undisturbed s a)
          (machine H serializer).init as := by
  refine Machine.eachStep_iff_eachStep (M := machine H serializer) (I := IteratorMatches)
    (fun s a s' hstep h hok => iteratorMatches_step hstep h hok) ?_
    (iteratorMatches_init serializer) as
  intro s a s' hstep h hbound
  rcases step_cases hstep with
      ⟨taken, message, rfl, -⟩ | ⟨it, rfl, hit, rfl⟩ | ⟨t, handler, rehashes, rfl, -⟩
      | ⟨t, rfl, -⟩
  · trivial
  · exact undisturbed_of_invoke h hit hbound.1
  · trivial
  · trivial

/-- The handler of type `unknown` is unbound between the two steps of a packet. -/
theorem not_invokesBound_unbound :
    ¬ ∀ as : List (HandlingAction Unit),
      (machine Unit binaryPacketSerializer).EachStep InvokesBound
        (machine Unit binaryPacketSerializer).init as := by
  intro h
  have hrun := h [.bind .unknown () false,
    .locate false { buffer := headerBytes .bin .unknown ++ [1], conn := 7 },
    .unbind .unknown, .invoke]
  have hinvoke := ((((hrun _ rfl).2 _ rfl).2 _ rfl).2 _ rfl).1
  exact absurd hinvoke.1 (by decide)

end HandlingClient

end KbNetworking
