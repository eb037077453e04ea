/-
# Isolation of objects behind a static pointer

When do objects that share a static pointer not notice each other?  A member function is
*confined* to its object when what it leaves and what it adds to the trace depend on that
object alone, and its writes to the pointer can be read off the trace.  Then the pointer is
the only way from one object to another, and it matters only to the delivery of events.

`ownPointer i` is what the pointer would be if only object `i` had written it.  If every
event arrives while the pointer is what its owner left there, then an event changes its
owner at most (`objects_event_of_ne`), and every object goes through the same states as in
the run in which the other objects do nothing (`exists_run_alone`).
-/
import KbNetworking.Lib.Ledger
import KbNetworking.Lib.Objects

namespace Cpp

variable {ι σ ε ο η : Type*}

/-! ## Confined member functions -/

/-- The context after a member function of object `i` left `self` and added `xs`; `writes x i`
is the value that the entry `x` records as a write of object `i` to the pointer. -/
def Context.after (writes : ε → ι → Option (Option ι)) (i : ι) (c : Context ι σ ε) (self : σ)
    (xs : List ε) : Context ι σ ε where
  sInstance := (Ledger.lastBy writes xs i).getD c.sInstance
  self := self
  trace := c.trace ++ xs

/-- Every context with the same object makes `f` stop at the same fault, or leave the same
object and add the same entries, none of which is a write of another object. -/
def ConfinedTo (writes : ε → ι → Option (Option ι)) (i : ι)
    (f : Context ι σ ε → Checked (Context ι σ ε)) : Prop :=
  ∀ self, (∃ e, ∀ c, c.self = self → f c = .error e)
    ∨ ∃ self' xs, (∀ j, j ≠ i → Ledger.lastBy writes xs j = none)
      ∧ ∀ c, c.self = self → f c = .ok (c.after writes i self' xs)

theorem ConfinedTo.of_ok {writes : ε → ι → Option (Option ι)} {i : ι}
    {f : Context ι σ ε → Checked (Context ι σ ε)} (hf : ConfinedTo writes i f)
    {c c' : Context ι σ ε} (h : f c = .ok c') :
    ∃ self xs, (∀ j, j ≠ i → Ledger.lastBy writes xs j = none)
      ∧ c' = c.after writes i self xs
      ∧ ∀ d, d.self = c.self → f d = .ok (d.after writes i self xs) := by
  rcases hf c.self with ⟨e, he⟩ | ⟨self, xs, hothers, hok⟩
  · cases (he c rfl).symm.trans h
  · exact ⟨self, xs, hothers, Except.ok.inj (h.symm.trans (hok c rfl)), hok⟩

theorem ConfinedTo.of_error {writes : ε → ι → Option (Option ι)} {i : ι}
    {f : Context ι σ ε → Checked (Context ι σ ε)} (hf : ConfinedTo writes i f)
    {c d : Context ι σ ε} {e : Fault} (h : f c = .error e) (hd : d.self = c.self) :
    f d = .error e := by
  rcases hf c.self with ⟨e', he⟩ | ⟨self, xs, -, hok⟩
  · rw [he d hd, ← he c rfl, h]
  · cases (hok c rfl).symm.trans h

/-- All member functions are confined, and an object writes itself or nothing to the
pointer. -/
structure ObjectClass.Confined (C : ObjectClass ι σ ε ο η)
    (writes : ε → ι → Option (Option ι)) : Prop where
  own : ∀ x i w, writes x i = some w → w = none ∨ w = some i
  destroy : ∀ i, ConfinedTo writes i (C.destroy i)
  call : ∀ i operation, ConfinedTo writes i (C.call i operation)
  handle : ∀ i e, ConfinedTo writes i fun c => .ok (C.handle e c)

/-- What the pointer would be if only object `i` had written it. -/
def ownPointer (writes : ε → ι → Option (Option ι)) (trace : List ε) (i : ι) : Option ι :=
  (Ledger.lastBy writes trace i).getD none

namespace ObjectClass

variable {C : ObjectClass ι σ ε ο η} {writes : ε → ι → Option (Option ι)}

theorem Confined.ownPointer_cases (hC : C.Confined writes) (trace : List ε) (i : ι) :
    ownPointer writes trace i = none ∨ ownPointer writes trace i = some i := by
  unfold ownPointer
  cases hlast : Ledger.lastBy writes trace i with
  | none => exact .inl rfl
  | some w =>
      obtain ⟨x, -, hx⟩ := Ledger.exists_of_lastBy hlast
      exact hC.own x i w hx

variable [DecidableEq ι] {p p' q : Process ι σ ε} {i : ι}

/-- The event arrives while the pointer is what the event's owner left there. -/
def AtHome (writes : ε → ι → Option (Option ι)) (owner : List ε → η → Option ι)
    (p : Process ι σ ε) : Action ι ο η → Prop
  | .event e => ∃ i, owner p.trace e = some i ∧ p.sInstance = ownPointer writes p.trace i
  | _ => True

/-- The step concerns object `i`: its construction, its destruction, a call of one of its
member functions or an event that it owns. -/
def concerns (owner : List ε → η → Option ι) (i : ι) (p : Process ι σ ε) :
    Action ι ο η → Bool
  | .construct j => j == i
  | .destroy j => j == i
  | .call j _ => j == i
  | .event e => owner p.trace e == some i

/-- An event that arrives at home changes its owner at most. -/
theorem objects_event_of_ne (hC : C.Confined writes) {owner : List ε → η → Option ι} {e : η}
    {j : ι} (howner : owner p.trace e = some i)
    (hhome : AtHome (ο := ο) writes owner p (.event e)) (hj : j ≠ i) :
    (p.throughInstance (C.handle e)).objects j = p.objects j := by
  obtain ⟨k, hk, hpointer⟩ := hhome
  obtain rfl := Option.some.inj (hk.symm.trans howner)
  refine Process.throughInstance_objects_of_ne ?_ _
  rw [hpointer]
  rcases hC.ownPointer_cases p.trace k with hnone | hsome
  · rw [hnone]
    exact nofun
  · rw [hsome]
    exact fun heq => hj (Option.some.inj heq).symm

/-! ## The run of one object alone -/

/-- Process `q` is what process `p` looks like to object `i`. -/
structure SameView (writes : ε → ι → Option (Option ι)) (i : ι) (p q : Process ι σ ε) :
    Prop where
  object : q.objects i = p.objects i
  sInstance : q.sInstance = ownPointer writes p.trace i
  fault : p.fault = none → q.fault = none

omit [DecidableEq ι] in
theorem ownPointer_append (log xs : List ε) (i : ι) :
    ownPointer writes (log ++ xs) i
      = (Ledger.lastBy writes xs i).getD (ownPointer writes log i) := by
  unfold ownPointer
  rw [Ledger.lastBy_append]
  cases Ledger.lastBy writes xs i <;> rfl

/-- A confined member function of object `i` keeps the view of object `i`. -/
theorem SameView.put (h : SameView writes i p q) (self : σ) (xs : List ε) {s t : σ} :
    SameView writes i (p.put i ((p.context s).after writes i self xs))
      (q.put i ((q.context t).after writes i self xs)) where
  object := by rw [Process.put_objects_self, Process.put_objects_self]; rfl
  sInstance := by
    rw [Process.put_trace, Process.put_sInstance]
    show (Ledger.lastBy writes xs i).getD q.sInstance = ownPointer writes (p.trace ++ xs) i
    rw [ownPointer_append, h.sInstance]
  fault := h.fault

/-- A confined member function of another object is not seen. -/
theorem SameView.put_of_ne (h : SameView writes i p q) {j : ι} (hj : i ≠ j) {self s : σ}
    {xs : List ε} (hxs : Ledger.lastBy writes xs i = none) :
    SameView writes i (p.put j ((p.context s).after writes j self xs)) q where
  object := by rw [Process.put_objects_of_ne p _ hj, h.object]
  sInstance := by
    rw [Process.put_trace, h.sInstance]
    show _ = ownPointer writes (p.trace ++ xs) i
    rw [ownPointer_append, hxs]
    rfl
  fault := h.fault

theorem SameView.remove (h : SameView writes i p q) :
    SameView writes i (p.remove i) (q.remove i) where
  object := by rw [Process.remove_objects_self, Process.remove_objects_self]
  sInstance := h.sInstance
  fault := h.fault

theorem SameView.remove_of_ne (h : SameView writes i p q) {j : ι} (hj : i ≠ j) :
    SameView writes i (p.remove j) q where
  object := by rw [Process.remove_objects_of_ne p hj, h.object]
  sInstance := h.sInstance
  fault := h.fault

omit [DecidableEq ι] in
theorem SameView.fail (h : SameView writes i p q) (e e' : Fault) :
    SameView writes i (p.fail e) (q.fail e') :=
  ⟨h.object, h.sInstance, nofun⟩

omit [DecidableEq ι] in
theorem SameView.fail_left (h : SameView writes i p q) (e : Fault) :
    SameView writes i (p.fail e) q :=
  ⟨h.object, h.sInstance, nofun⟩

/-- A step that concerns object `i` can be taken in every process that looks the same to
it. -/
theorem SameView.step (hC : C.Confined writes) {owner : List ε → η → Option ι}
    {a : Action ι ο η} (h : SameView writes i p q) (hstep : C.step p a = some p')
    (hhome : AtHome writes owner p a) (hi : concerns owner i p a = true) :
    ∃ q', C.step q a = some q' ∧ SameView writes i p' q' := by
  obtain ⟨hfault, hcases⟩ := step_cases hstep
  have hq : q.fault = none := h.fault hfault
  rcases hcases with
      ⟨j, rfl, hnew, rfl⟩ | ⟨j, self, c, rfl, hself, hc, rfl⟩ | ⟨j, self, e, rfl, hself, he, rfl⟩
      | ⟨j, operation, self, c, rfl, hself, hc, rfl⟩ | ⟨j, operation, self, e, rfl, hself, he, rfl⟩
      | ⟨e, rfl, rfl⟩
  -- the object itself is constructed, destroyed or called
  · obtain rfl := eq_of_beq hi
    refine ⟨_, step_construct hq (h.object.trans hnew), ?_, h.sInstance, h.fault⟩
    rw [Process.put_objects_self, Process.put_objects_self]
    rfl
  · obtain rfl := eq_of_beq hi
    obtain ⟨self', xs, -, rfl, hsame⟩ := (hC.destroy j).of_ok hc
    exact ⟨_, step_destroy_of_ok hq (h.object.trans hself) (hsame (q.context self) rfl),
      (h.put self' xs).remove⟩
  · obtain rfl := eq_of_beq hi
    exact ⟨_, step_destroy_of_error hq (h.object.trans hself)
      ((hC.destroy j).of_error (d := q.context self) he rfl), h.fail e e⟩
  · obtain rfl := eq_of_beq hi
    obtain ⟨self', xs, -, rfl, hsame⟩ := (hC.call j operation).of_ok hc
    exact ⟨_, step_call_of_ok hq (h.object.trans hself) (hsame (q.context self) rfl),
      h.put self' xs⟩
  · obtain rfl := eq_of_beq hi
    exact ⟨_, step_call_of_error hq (h.object.trans hself)
      ((hC.call j operation).of_error (d := q.context self) he rfl), h.fail e e⟩
  -- an event of the object: both pointers lead to it, or neither leads anywhere
  · refine ⟨_, step_event_eq e hq, ?_⟩
    obtain ⟨k, hk, hpointer⟩ := hhome
    obtain rfl : k = i := Option.some.inj (hk.symm.trans (eq_of_beq hi))
    rcases hC.ownPointer_cases p.trace k with hnone | hsome
    · rw [Process.throughInstance_of_none (hpointer.trans hnone),
        Process.throughInstance_of_none (h.sInstance.trans hnone)]
      exact h
    · cases hself : p.objects k with
      | none =>
          rw [Process.throughInstance_of_missing (hpointer.trans hsome) hself,
            Process.throughInstance_of_missing (h.sInstance.trans hsome) (h.object.trans hself)]
          exact h.fail _ _
      | some self =>
          obtain ⟨self', xs, -, heq, hsame⟩ :=
            (hC.handle k e).of_ok (c := p.context self) rfl
          rw [Process.throughInstance_of_some (hpointer.trans hsome) hself,
            Process.throughInstance_of_some (h.sInstance.trans hsome) (h.object.trans hself),
            heq, Except.ok.inj (hsame (q.context self) rfl)]
          exact h.put self' xs

/-- A step that does not concern object `i` is not seen by it. -/
theorem SameView.skip (hC : C.Confined writes) {owner : List ε → η → Option ι}
    {a : Action ι ο η} (h : SameView writes i p q) (hstep : C.step p a = some p')
    (hhome : AtHome writes owner p a) (hi : concerns owner i p a = false) :
    SameView writes i p' q := by
  rcases step_cases hstep with
      ⟨-, ⟨j, rfl, hnew, rfl⟩ | ⟨j, self, c, rfl, hself, hc, rfl⟩
      | ⟨j, self, e, rfl, hself, he, rfl⟩ | ⟨j, operation, self, c, rfl, hself, hc, rfl⟩
      | ⟨j, operation, self, e, rfl, hself, he, rfl⟩ | ⟨e, rfl, rfl⟩⟩
  -- another object is constructed, destroyed or called
  · have hj : i ≠ j := fun heq => ne_of_beq_false hi heq.symm
    refine ⟨?_, h.sInstance, h.fault⟩
    rw [Process.put_objects_of_ne p _ hj, h.object]
  · have hj : i ≠ j := fun heq => ne_of_beq_false hi heq.symm
    obtain ⟨self', xs, hothers, rfl, -⟩ := (hC.destroy j).of_ok hc
    exact (h.put_of_ne hj (hothers i hj)).remove_of_ne hj
  · exact h.fail_left e
  · have hj : i ≠ j := fun heq => ne_of_beq_false hi heq.symm
    obtain ⟨self', xs, hothers, rfl, -⟩ := (hC.call j operation).of_ok hc
    exact h.put_of_ne hj (hothers i hj)
  · exact h.fail_left e
  -- an event of another object, which the pointer leads to if it leads to any
  · obtain ⟨k, hk, hpointer⟩ := hhome
    have hi' : owner p.trace e ≠ some i := ne_of_beq_false hi
    have hj : i ≠ k := fun heq => hi' (heq ▸ hk)
    rcases Process.throughInstance_cases p (C.handle e) with heq | ⟨j, self, hj', hself, heq⟩ | heq
    · rw [heq]
      exact h
    · rcases hC.ownPointer_cases p.trace k with hnone | hsome
      · rw [hj', hnone] at hpointer
        cases hpointer
      · rw [hj', hsome] at hpointer
        obtain rfl := Option.some.inj hpointer
        obtain ⟨self', xs, hothers, hafter, -⟩ :=
          (hC.handle j e).of_ok (c := p.context self) rfl
        rw [heq, hafter]
        exact h.put_of_ne hj (hothers i hj)
    · rw [heq]
      exact h.fail_left _

/-- **The run of one object alone.**  If every event of a run arrives at home, then every
object ends the run as it does when only the steps that concern it are taken. -/
theorem exists_run_alone (hC : C.Confined writes) {owner : List ε → η → Option ι}
    {as : List (Action ι ο η)}
    (hhome : C.machine.EachStep (fun p a _ => AtHome writes owner p a) C.machine.init as)
    (i : ι) (hrun : C.machine.run C.machine.init as = some p) :
    ∃ q, C.machine.run C.machine.init
        (C.machine.project (concerns owner i) C.machine.init as) = some q
      ∧ q.objects i = p.objects i := by
  have hinit : SameView writes i C.machine.init C.machine.init := ⟨rfl, rfl, fun _ => rfl⟩
  obtain ⟨q, hq, hview⟩ := Machine.exists_run_project (M := C.machine) (N := C.machine)
    (Q := fun p a _ => AtHome writes owner p a) (R := SameView writes i)
    (fun p a p' q hstep hhome h hi => h.step hC hstep hhome hi)
    (fun p a p' q hstep hhome h hi => h.skip hC hstep hhome hi) hinit hhome hrun
  exact ⟨q, hq, hview.object⟩

end ObjectClass

end Cpp
