/-
# Channels

One direction of a connection, as a transport with two qualities of service offers it.  A
message is handed over as reliable (`true`) or not (`false`).  The reliable messages come out
in the order in which they went in, none is lost and none comes twice; of the others it is
only known that they went in.  What came out waits until the receiver takes it.

A `Channel` is the three histories, what was sent, what arrived and what was taken, together
with this promise; what is under way and what waits are the differences.

* `taken_reliables`: a channel with nothing under way and nothing waiting has delivered every
  reliable message.
* `exists_taken`: when the messages were made from packets, what was taken was made from
  packets too, under the same promise.
-/
import Mathlib

/-- The reliable messages, in order. -/
def List.reliables {α : Type*} (xs : List (Bool × α)) : List α :=
  xs.filterMap fun x => if x.1 then some x.2 else none

/-- What was sent, what arrived and what was taken, in order. -/
structure Channel (α : Type*) where
  sent : List (Bool × α) := []
  arrived : List (Bool × α) := []
  taken : List (Bool × α) := []
  inOrder : arrived.reliables <+: sent.reliables := by exact List.prefix_rfl
  genuine : ∀ x ∈ arrived, x ∈ sent := by exact fun _ h => h
  conserved : taken <+: arrived := by exact List.prefix_rfl

namespace Channel

variable {α β : Type*}

@[simp] theorem reliables_append (xs ys : List (Bool × α)) :
    (xs ++ ys).reliables = xs.reliables ++ ys.reliables := List.filterMap_append

@[simp] theorem reliables_singleton (b : Bool) (x : α) :
    [(b, x)].reliables = if b then [x] else [] := by
  cases b <;> rfl

theorem mem_of_mem_reliables {xs : List (Bool × α)} {x : α} (h : x ∈ xs.reliables) :
    (true, x) ∈ xs := by
  obtain ⟨⟨reliable, y⟩, hy, hyx⟩ := List.mem_filterMap.mp h
  cases reliable with
  | true => exact Option.some.inj hyx ▸ hy
  | false => cases hyx

/-- Of messages that are all reliable none is left out. -/
theorem reliables_eq_map {xs : List (Bool × α)} (h : ∀ x ∈ xs, x.1 = true) :
    xs.reliables = xs.map Prod.snd := by
  induction xs with
  | nil => rfl
  | cons x xs ih =>
      have hx : x.1 = true := h x List.mem_cons_self
      have hxs := ih fun y hy => h y (List.mem_cons_of_mem x hy)
      unfold List.reliables at hxs ⊢
      rw [List.filterMap_cons, hx, if_pos rfl, hxs, List.map_cons]

theorem reliables_mono {xs ys : List (Bool × α)} (h : xs <+: ys) :
    xs.reliables <+: ys.reliables := h.filterMap _

/-- The reliable messages under way. -/
def underway (c : Channel α) : List α := c.sent.reliables.drop c.arrived.reliables.length

/-- The messages that arrived and were not taken. -/
def waiting (c : Channel α) : List (Bool × α) := c.arrived.drop c.taken.length

/-- Conservation: what arrived and what is under way is what was sent. -/
theorem arrived_append_underway (c : Channel α) :
    c.arrived.reliables ++ c.underway = c.sent.reliables := by
  obtain ⟨rest, hrest⟩ := c.inOrder
  rw [underway, ← hrest, List.drop_left]

/-- Conservation: what was taken and what waits is what arrived. -/
theorem taken_append_waiting (c : Channel α) : c.taken ++ c.waiting = c.arrived := by
  obtain ⟨rest, hrest⟩ := c.conserved
  rw [waiting, ← hrest, List.drop_left]

theorem taken_inOrder (c : Channel α) : c.taken.reliables <+: c.sent.reliables :=
  (reliables_mono c.conserved).trans c.inOrder

theorem taken_genuine (c : Channel α) {x : Bool × α} (hx : x ∈ c.taken) : x ∈ c.sent :=
  c.genuine x (c.conserved.subset hx)

/-- A channel with nothing under way and nothing waiting has delivered every reliable
message. -/
theorem taken_reliables {c : Channel α} (hunderway : c.underway = []) (hwaiting : c.waiting = []) :
    c.taken.reliables = c.sent.reliables := by
  rw [← c.arrived_append_underway, ← c.taken_append_waiting, hunderway, hwaiting,
    List.append_nil, List.append_nil]

/-! ## What can happen -/

/-- More messages are handed over. -/
def send (c : Channel α) (xs : List (Bool × α)) : Channel α where
  sent := c.sent ++ xs
  arrived := c.arrived
  taken := c.taken
  inOrder := by
    rw [reliables_append]
    exact c.inOrder.trans (List.prefix_append _ _)
  genuine := fun x hx => List.mem_append_left xs (c.genuine x hx)
  conserved := c.conserved

/-- A message arrives. -/
def receive (c : Channel α) (x : Bool × α)
    (hnext : (c.arrived ++ [x]).reliables <+: c.sent.reliables) (hx : x ∈ c.sent) :
    Channel α where
  sent := c.sent
  arrived := c.arrived ++ [x]
  taken := c.taken
  inOrder := hnext
  genuine := by
    intro y hy
    rcases List.mem_append.mp hy with hy | hy
    · exact c.genuine y hy
    · exact List.mem_singleton.mp hy ▸ hx
  conserved := c.conserved.trans (List.prefix_append _ _)

/-- A message under way was sent. -/
theorem mem_sent_of_underway {c : Channel α} {x : α} (h : x ∈ c.underway) :
    (true, x) ∈ c.sent :=
  mem_of_mem_reliables (List.mem_of_mem_drop h)

/-- The next reliable message arrives. -/
def arrive (c : Channel α) : Option (Channel α) :=
  match h : c.underway with
  | [] => none
  | x :: rest =>
      some (c.receive (true, x)
        (by
          rw [reliables_append, ← c.arrived_append_underway, h]
          exact ⟨rest, by simp⟩)
        (mem_sent_of_underway (h ▸ List.mem_cons_self)))

/-- An unreliable message arrives; it may have done so before. -/
def arriveLoose [DecidableEq α] (c : Channel α) (x : α) : Option (Channel α) :=
  if h : (false, x) ∈ c.sent then some (c.receive (false, x) (by simpa using c.inOrder) h)
  else none

/-- The receiver takes the messages that wait, at most `count` of them. -/
def take (c : Channel α) (count : ℕ) : Channel α where
  sent := c.sent
  arrived := c.arrived
  taken := c.taken ++ c.waiting.take count
  inOrder := c.inOrder
  genuine := c.genuine
  conserved := by
    refine ⟨c.waiting.drop count, ?_⟩
    rw [List.append_assoc, List.take_append_drop, c.taken_append_waiting]

@[simp] theorem send_sent (c : Channel α) (xs : List (Bool × α)) :
    (c.send xs).sent = c.sent ++ xs := rfl
@[simp] theorem take_taken (c : Channel α) (count : ℕ) :
    (c.take count).taken = c.taken ++ c.waiting.take count := rfl

/-- An arrival sends nothing and takes nothing. -/
theorem arrive_cases {c c' : Channel α} (h : c.arrive = some c') :
    c'.sent = c.sent ∧ c'.taken = c.taken := by
  unfold arrive at h
  split at h
  · cases h
  · obtain rfl := Option.some.inj h
    exact ⟨rfl, rfl⟩

theorem arriveLoose_cases [DecidableEq α] {c c' : Channel α} {x : α}
    (h : c.arriveLoose x = some c') : c'.sent = c.sent ∧ c'.taken = c.taken := by
  unfold arriveLoose at h
  split at h
  · obtain rfl := Option.some.inj h
    exact ⟨rfl, rfl⟩
  · cases h

/-! ## Messages made from packets -/

theorem reliables_map (f : β → α) (packets : List (Bool × β)) :
    (packets.map (Prod.map id f)).reliables = packets.reliables.map f := by
  simp only [List.reliables, List.filterMap_map, List.map_filterMap]
  congr 1
  funext p
  cases hp : p.1 <;> simp [hp]

/-- A list under the promise of messages made from packets is made from packets under the
same promise. -/
theorem exists_of_map (f : β → α) {packets : List (Bool × β)} {xs : List (Bool × α)}
    (hinOrder : xs.reliables <+: packets.reliables.map f)
    (hgenuine : ∀ x ∈ xs, x ∈ packets.map (Prod.map id f)) :
    ∃ received : List (Bool × β), received.map (Prod.map id f) = xs
      ∧ received.reliables <+: packets.reliables ∧ ∀ p ∈ received, p ∈ packets := by
  induction xs using List.reverseRecOn with
  | nil => exact ⟨[], rfl, List.nil_prefix, by simp⟩
  | append_singleton xs x ih =>
      rw [reliables_append] at hinOrder
      obtain ⟨received, rfl, ⟨rest, hrest⟩, hmem⟩ := ih ((List.prefix_append _ _).trans hinOrder)
        fun y hy => hgenuine y (List.mem_append_left _ hy)
      obtain ⟨⟨reliable, p⟩, hp, rfl⟩ :=
        List.mem_map.mp (hgenuine x (List.mem_append_right _ List.mem_cons_self))
      cases reliable with
      | false =>
          refine ⟨received ++ [(false, p)], by simp, ⟨rest, by simpa using hrest⟩, ?_⟩
          intro q hq
          rcases List.mem_append.mp hq with hq | hq
          · exact hmem q hq
          · exact List.mem_singleton.mp hq ▸ hp
      | true =>
          -- the next reliable packet, which need not be the one that was found by its message
          rw [reliables_map, ← hrest, List.map_append] at hinOrder
          have htail := (List.prefix_append_right_inj _).mp hinOrder
          cases rest with
          | nil => simp at htail
          | cons q rest =>
              have hq : f p = f q := by simpa using htail
              have hqmem : (true, q) ∈ packets := by
                refine mem_of_mem_reliables ?_
                rw [← hrest]
                simp
              refine ⟨received ++ [(true, q)], by simp [hq], ⟨rest, by simpa using hrest⟩, ?_⟩
              intro r hr
              rcases List.mem_append.mp hr with hr | hr
              · exact hmem r hr
              · exact List.mem_singleton.mp hr ▸ hqmem

/-- What was taken of messages made from packets. -/
theorem exists_taken (c : Channel α) {f : β → α} {packets : List (Bool × β)}
    (hsent : c.sent = packets.map (Prod.map id f)) :
    ∃ received : List (Bool × β), received.map (Prod.map id f) = c.taken
      ∧ received.reliables <+: packets.reliables ∧ (∀ p ∈ received, p ∈ packets)
      ∧ (c.underway = [] → c.waiting = [] → received.reliables = packets.reliables) := by
  obtain ⟨received, hreceived, hinOrder, hmem⟩ :=
    exists_of_map f (by rw [← reliables_map, ← hsent]; exact c.taken_inOrder)
      fun x hx => hsent ▸ c.taken_genuine hx
  refine ⟨received, hreceived, hinOrder, hmem, ?_⟩
  intro hunderway hwaiting
  have hall := taken_reliables hunderway hwaiting
  rw [← hreceived, hsent, reliables_map, reliables_map] at hall
  have hlength : received.reliables.length = packets.reliables.length := by
    simpa using congrArg List.length hall
  exact hinOrder.eq_of_length hlength

end Channel
