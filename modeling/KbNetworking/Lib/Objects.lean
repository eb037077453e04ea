/-
# Objects behind a static pointer

Objects of one class that share a static pointer to one of them and leave a trace of what
they do to the outside.  A member function of one object reads and writes a `Context`: the
pointer, the object itself and the trace.  An event from outside goes to a static function,
which hands it to the object that the pointer points to.

An `ObjectClass` gives the member functions; `ObjectClass.machine` is the machine whose
runs construct and destroy any number of objects, call their member functions and deliver
events, in any order.  A step that runs into a fault records it, and then no further step
is possible.
-/
import KbNetworking.Lib.Checked
import KbNetworking.Lib.Machine

namespace Cpp

/-- What a member function reads and writes. -/
structure Context (ι σ ε : Type*) where
  sInstance : Option ι
  self : σ
  trace : List ε

/-- The state of the process; `objects i` is `none` while object `i` does not exist. -/
structure Process (ι σ ε : Type*) where
  sInstance : Option ι := none
  objects : ι → Option σ := fun _ => none
  trace : List ε := []
  fault : Option Fault := none

/-- What can happen in the process: `ο` are the member calls, `η` the events. -/
inductive Action (ι ο η : Type*) where
  | construct (i : ι)
  | destroy (i : ι)
  | call (i : ι) (operation : ο)
  | event (e : η)

/-- The member functions of a class; the first argument of a function is the object it runs
on.  The destructor leaves an object that is then removed. -/
structure ObjectClass (ι σ ε ο η : Type*) where
  fresh : σ
  destroy : ι → Context ι σ ε → Checked (Context ι σ ε)
  call : ι → ο → Context ι σ ε → Checked (Context ι σ ε)
  handle : η → Context ι σ ε → Context ι σ ε

variable {ι σ ε ο η : Type*}

/-! ## Contexts -/

namespace Context

/-- One more entry of the trace. -/
def record (c : Context ι σ ε) (x : ε) : Context ι σ ε := { c with trace := c.trace ++ [x] }

@[simp] theorem record_self (c : Context ι σ ε) (x : ε) : (c.record x).self = c.self := rfl
@[simp] theorem record_sInstance (c : Context ι σ ε) (x : ε) :
    (c.record x).sInstance = c.sInstance := rfl
@[simp] theorem record_trace (c : Context ι σ ε) (x : ε) :
    (c.record x).trace = c.trace ++ [x] := rfl

end Context

/-! ## Processes -/

namespace Process

/-- What a member function of `self` reads and writes. -/
def context (p : Process ι σ ε) (self : σ) : Context ι σ ε :=
  { sInstance := p.sInstance, self := self, trace := p.trace }

/-- The process after a fault. -/
def fail (p : Process ι σ ε) (e : Fault) : Process ι σ ε := { p with fault := some e }

@[simp] theorem context_self (p : Process ι σ ε) (self : σ) : (p.context self).self = self := rfl
@[simp] theorem fail_fault (p : Process ι σ ε) (e : Fault) : (p.fail e).fault = some e := rfl

variable [DecidableEq ι]

/-- The process after a member function of object `i` returned. -/
def put (p : Process ι σ ε) (i : ι) (c : Context ι σ ε) : Process ι σ ε :=
  { p with
    sInstance := c.sInstance
    objects := Function.update p.objects i (some c.self)
    trace := c.trace }

/-- The object `i` is gone. -/
def remove (p : Process ι σ ε) (i : ι) : Process ι σ ε :=
  { p with objects := Function.update p.objects i none }

@[simp] theorem put_sInstance (p : Process ι σ ε) (i : ι) (c : Context ι σ ε) :
    (p.put i c).sInstance = c.sInstance := rfl
@[simp] theorem put_trace (p : Process ι σ ε) (i : ι) (c : Context ι σ ε) :
    (p.put i c).trace = c.trace := rfl
@[simp] theorem put_fault (p : Process ι σ ε) (i : ι) (c : Context ι σ ε) :
    (p.put i c).fault = p.fault := rfl
@[simp] theorem put_objects_self (p : Process ι σ ε) (i : ι) (c : Context ι σ ε) :
    (p.put i c).objects i = some c.self := by simp [put]
theorem put_objects_of_ne (p : Process ι σ ε) {i j : ι} (c : Context ι σ ε) (h : j ≠ i) :
    (p.put i c).objects j = p.objects j := by simp [put, h]
@[simp] theorem remove_sInstance (p : Process ι σ ε) (i : ι) :
    (p.remove i).sInstance = p.sInstance := rfl
@[simp] theorem remove_objects_self (p : Process ι σ ε) (i : ι) :
    (p.remove i).objects i = none := by simp [remove]
theorem remove_objects_of_ne (p : Process ι σ ε) {i j : ι} (h : j ≠ i) :
    (p.remove i).objects j = p.objects j := by simp [remove, h]

/-- What holds of every object still does after a member function that leaves it true of its
own object. -/
theorem forall_objects_put {P : ι → σ → Prop} {p : Process ι σ ε} {i : ι} {c : Context ι σ ε}
    (hself : P i c.self) (hothers : ∀ j self, j ≠ i → p.objects j = some self → P j self)
    (j : ι) (self : σ) (h : (p.put i c).objects j = some self) : P j self := by
  by_cases hj : j = i
  · subst hj
    rw [put_objects_self, Option.some.injEq] at h
    exact h ▸ hself
  · rw [put_objects_of_ne p c hj] at h
    exact hothers j self hj h

/-- An object that is left after a removal was there before, and is not the removed one. -/
theorem of_remove_objects {p : Process ι σ ε} {i j : ι} {self : σ}
    (h : (p.remove i).objects j = some self) : j ≠ i ∧ p.objects j = some self := by
  by_cases hj : j = i
  · subst hj
    rw [remove_objects_self] at h
    cases h
  · rw [remove_objects_of_ne p hj] at h
    exact ⟨hj, h⟩

/-- A member function runs on object `i`, which must exist. -/
def onObject (p : Process ι σ ε) (i : ι) (f : Context ι σ ε → Checked (Context ι σ ε)) :
    Option (Process ι σ ε) :=
  match p.objects i with
  | none => none
  | some self =>
      match f (p.context self) with
      | .ok c => some (p.put i c)
      | .error e => some (p.fail e)

/-- A static function: the object that the pointer points to does the work, and without one
nothing is done. -/
def throughInstance (p : Process ι σ ε) (f : Context ι σ ε → Context ι σ ε) :
    Process ι σ ε :=
  match p.sInstance with
  | none => p
  | some i =>
      match p.objects i with
      | none => p.fail .useAfterFree
      | some self => p.put i (f (p.context self))

theorem onObject_of_ok {p : Process ι σ ε} {i : ι} {self : σ} {c : Context ι σ ε}
    {f : Context ι σ ε → Checked (Context ι σ ε)} (hself : p.objects i = some self)
    (h : f (p.context self) = .ok c) : p.onObject i f = some (p.put i c) := by
  unfold onObject
  simp only [hself, h]

theorem onObject_of_error {p : Process ι σ ε} {i : ι} {self : σ} {e : Fault}
    {f : Context ι σ ε → Checked (Context ι σ ε)} (hself : p.objects i = some self)
    (h : f (p.context self) = .error e) : p.onObject i f = some (p.fail e) := by
  unfold onObject
  simp only [hself, h]

theorem onObject_cases {p p' : Process ι σ ε} {i : ι}
    {f : Context ι σ ε → Checked (Context ι σ ε)} (h : p.onObject i f = some p') :
    ∃ self, p.objects i = some self ∧
      ((∃ c, f (p.context self) = .ok c ∧ p' = p.put i c)
        ∨ ∃ e, f (p.context self) = .error e ∧ p' = p.fail e) := by
  unfold onObject at h
  split at h
  · cases h
  · rename_i self hself
    refine ⟨self, hself, ?_⟩
    split at h
    · rename_i c hc
      exact .inl ⟨c, hc, (Option.some.inj h).symm⟩
    · rename_i e he
      exact .inr ⟨e, he, (Option.some.inj h).symm⟩

theorem throughInstance_of_none {p : Process ι σ ε} (h : p.sInstance = none)
    (f : Context ι σ ε → Context ι σ ε) : p.throughInstance f = p := by
  unfold throughInstance
  rw [h]

theorem throughInstance_of_some {p : Process ι σ ε} {i : ι} {self : σ}
    (h : p.sInstance = some i) (hself : p.objects i = some self)
    (f : Context ι σ ε → Context ι σ ε) :
    p.throughInstance f = p.put i (f (p.context self)) := by
  unfold throughInstance
  simp only [h, hself]

theorem throughInstance_of_missing {p : Process ι σ ε} {i : ι} (h : p.sInstance = some i)
    (hself : p.objects i = none) (f : Context ι σ ε → Context ι σ ε) :
    p.throughInstance f = p.fail .useAfterFree := by
  unfold throughInstance
  simp only [h, hself]

/-- The three things a static function can do. -/
theorem throughInstance_cases (p : Process ι σ ε) (f : Context ι σ ε → Context ι σ ε) :
    p.throughInstance f = p
      ∨ (∃ i self, p.sInstance = some i ∧ p.objects i = some self
        ∧ p.throughInstance f = p.put i (f (p.context self)))
      ∨ p.throughInstance f = p.fail .useAfterFree := by
  unfold throughInstance
  split
  · exact .inl rfl
  · rename_i i hi
    split
    · exact .inr (.inr rfl)
    · rename_i self hself
      exact .inr (.inl ⟨i, self, hi, hself, rfl⟩)

/-- An object that the pointer does not point to is not reached. -/
theorem throughInstance_objects_of_ne {p : Process ι σ ε} {i : ι} (h : p.sInstance ≠ some i)
    (f : Context ι σ ε → Context ι σ ε) : (p.throughInstance f).objects i = p.objects i := by
  rcases throughInstance_cases p f with heq | ⟨j, self, hj, -, heq⟩ | heq
  · rw [heq]
  · rw [heq]
    refine put_objects_of_ne p _ ?_
    rintro rfl
    exact h hj
  · rw [heq]
    rfl

end Process

/-! ## Steps -/

namespace ObjectClass

variable [DecidableEq ι] (C : ObjectClass ι σ ε ο η)

/-- One step. -/
def step (p : Process ι σ ε) (a : Action ι ο η) : Option (Process ι σ ε) :=
  if p.fault.isSome then none
  else
    match a with
    | .construct i =>
        match p.objects i with
        | some _ => none
        | none => some (p.put i (p.context C.fresh))
    | .destroy i => (p.onObject i (C.destroy i)).map fun p' =>
        if p'.fault.isSome then p' else p'.remove i
    | .call i operation => p.onObject i (C.call i operation)
    | .event e => some (p.throughInstance (C.handle e))

/-- The process of the objects of a class: at first there are none. -/
def machine : Machine (Process ι σ ε) (Action ι ο η) where
  init := {}
  step := C.step

variable {C} {p p' : Process ι σ ε}

/-! Each step, in a process without a fault. -/

theorem step_construct {i : ι} (hp : p.fault = none) (h : p.objects i = none) :
    C.step p (.construct i) = some (p.put i (p.context C.fresh)) := by
  simp [step, hp, h]

theorem step_destroy_of_ok {i : ι} {self : σ} {c : Context ι σ ε} (hp : p.fault = none)
    (hself : p.objects i = some self) (hc : C.destroy i (p.context self) = .ok c) :
    C.step p (.destroy i) = some ((p.put i c).remove i) := by
  simp [step, hp, Process.onObject_of_ok hself hc]

theorem step_destroy_of_error {i : ι} {self : σ} {e : Fault} (hp : p.fault = none)
    (hself : p.objects i = some self) (he : C.destroy i (p.context self) = .error e) :
    C.step p (.destroy i) = some (p.fail e) := by
  simp [step, hp, Process.onObject_of_error hself he]

theorem step_call_of_ok {i : ι} {operation : ο} {self : σ} {c : Context ι σ ε}
    (hp : p.fault = none) (hself : p.objects i = some self)
    (hc : C.call i operation (p.context self) = .ok c) :
    C.step p (.call i operation) = some (p.put i c) := by
  simp [step, hp, Process.onObject_of_ok hself hc]

theorem step_call_of_error {i : ι} {operation : ο} {self : σ} {e : Fault}
    (hp : p.fault = none) (hself : p.objects i = some self)
    (he : C.call i operation (p.context self) = .error e) :
    C.step p (.call i operation) = some (p.fail e) := by
  simp [step, hp, Process.onObject_of_error hself he]

theorem step_event_eq (e : η) (hp : p.fault = none) :
    C.step p (.event e) = some (p.throughInstance (C.handle e)) := by
  simp [step, hp]

/-- **What a step can do.**  It takes place in a process without a fault, and it constructs
an object, destroys one, runs a member function to its end, delivers an event, or runs into
a fault that leaves everything else as it was. -/
theorem step_cases {a : Action ι ο η} (h : C.step p a = some p') :
    p.fault = none ∧
      ((∃ i, a = .construct i ∧ p.objects i = none ∧ p' = p.put i (p.context C.fresh))
        ∨ (∃ i self c, a = .destroy i ∧ p.objects i = some self
          ∧ C.destroy i (p.context self) = .ok c ∧ p' = (p.put i c).remove i)
        ∨ (∃ i self e, a = .destroy i ∧ p.objects i = some self
          ∧ C.destroy i (p.context self) = .error e ∧ p' = p.fail e)
        ∨ (∃ i operation self c, a = .call i operation ∧ p.objects i = some self
          ∧ C.call i operation (p.context self) = .ok c ∧ p' = p.put i c)
        ∨ (∃ i operation self e, a = .call i operation ∧ p.objects i = some self
          ∧ C.call i operation (p.context self) = .error e ∧ p' = p.fail e)
        ∨ ∃ e, a = .event e ∧ p' = p.throughInstance (C.handle e)) := by
  unfold step at h
  split at h
  · cases h
  · rename_i hfault
    have hnone : p.fault = none := by simpa using hfault
    refine ⟨hnone, ?_⟩
    cases a with
    | construct i =>
        left
        simp only at h
        split at h
        · cases h
        · rename_i hi
          exact ⟨i, rfl, hi, (Option.some.inj h).symm⟩
    | destroy i =>
        right
        obtain ⟨q, hq, rfl⟩ := Option.map_eq_some_iff.mp h
        rcases Process.onObject_cases hq with ⟨self, hself, ⟨c, hc, rfl⟩ | ⟨e, he, rfl⟩⟩
        · exact .inl ⟨i, self, c, rfl, hself, hc, by simp [hnone]⟩
        · exact .inr (.inl ⟨i, self, e, rfl, hself, he, by simp⟩)
    | call i operation =>
        rcases Process.onObject_cases h with ⟨self, hself, ⟨c, hc, rfl⟩ | ⟨e, he, rfl⟩⟩
        · exact .inr (.inr (.inr (.inl ⟨i, operation, self, c, rfl, hself, hc, rfl⟩)))
        · exact .inr (.inr (.inr (.inr (.inl ⟨i, operation, self, e, rfl, hself, he, rfl⟩))))
    | event e => exact .inr (.inr (.inr (.inr (.inr ⟨e, rfl, (Option.some.inj h).symm⟩))))

theorem step_call {i : ι} {operation : ο} (h : C.step p (.call i operation) = some p') :
    ∃ self, p.objects i = some self ∧
      ((∃ c, C.call i operation (p.context self) = .ok c ∧ p' = p.put i c)
        ∨ ∃ e, C.call i operation (p.context self) = .error e ∧ p' = p.fail e) := by
  unfold step at h
  split at h
  · cases h
  · exact Process.onObject_cases h

theorem step_event {e : η} (h : C.step p (.event e) = some p') :
    p' = p.throughInstance (C.handle e) := by
  unfold step at h
  split at h
  · cases h
  · exact (Option.some.inj h).symm

/-- **The invariant rule for every object**: what a new object satisfies and the member
functions keep of their own object holds of every object. -/
theorem forall_objects_step {J : σ → Prop} {a : Action ι ο η} (hstep : C.step p a = some p')
    (h : ∀ i self, p.objects i = some self → J self) (hfresh : J C.fresh)
    (hcall : ∀ i operation c c', J c.self → C.call i operation c = .ok c' → J c'.self)
    (hevent : ∀ e c, J c.self → J (C.handle e c).self) :
    ∀ i self, p'.objects i = some self → J self := by
  have hput : ∀ i (c : Context ι σ ε), J c.self →
      ∀ j self, (p.put i c).objects j = some self → J self := fun i c hc =>
    Process.forall_objects_put (P := fun _ => J) hc fun j self _ => h j self
  rcases step_cases hstep with
      ⟨-, ⟨i, rfl, -, rfl⟩ | ⟨i, self, c, rfl, -, -, rfl⟩ | ⟨i, self, e, rfl, -, -, rfl⟩
      | ⟨i, operation, self, c, rfl, hself, hc, rfl⟩ | ⟨i, operation, self, e, rfl, -, -, rfl⟩
      | ⟨e, rfl, rfl⟩⟩
  · exact hput i _ hfresh
  -- the object is gone, and the others are as before
  · intro j other hother
    obtain ⟨hj, hother⟩ := Process.of_remove_objects hother
    rw [Process.put_objects_of_ne p c hj] at hother
    exact h j other hother
  · exact h
  · exact hput i c (hcall i operation _ c (h i self hself) hc)
  · exact h
  · rcases Process.throughInstance_cases p (C.handle e) with heq | ⟨i, self, -, hself, heq⟩ | heq
    · rwa [heq]
    · rw [heq]
      exact hput i _ (hevent e _ (h i self hself))
    · rw [heq]
      exact h

end ObjectClass

/-! ## A process with one object -/

section Sole

variable {C : ObjectClass Unit σ ε ο η} {p p' : Process Unit σ ε}

/-- `K` holds of the only object when there is one, and `N` of the pointer and the trace when
there is none. -/
def Process.Sole (K : Context Unit σ ε → Prop) (N : Option Unit → List ε → Prop)
    (p : Process Unit σ ε) : Prop :=
  match p.objects () with
  | some self => K (p.context self)
  | none => N p.sInstance p.trace

variable {K K' : Context Unit σ ε → Prop} {N N' : Option Unit → List ε → Prop}

theorem Process.Sole.of_some {self : σ} (h : p.Sole K N) (hself : p.objects () = some self) :
    K (p.context self) := by
  unfold Process.Sole at h
  rwa [hself] at h

theorem Process.Sole.of_none (h : p.Sole K N) (hnone : p.objects () = none) :
    N p.sInstance p.trace := by
  unfold Process.Sole at h
  rwa [hnone] at h

theorem Process.Sole.mono (h : p.Sole K N) (hK : ∀ c, K c → K' c) (hN : ∀ i xs, N i xs → N' i xs) :
    p.Sole K' N' := by
  unfold Process.Sole at h ⊢
  split
  · rename_i self hself
    rw [hself] at h
    exact hK _ h
  · rename_i hnone
    rw [hnone] at h
    exact hN _ _ h

theorem Process.sole_put {c : Context Unit σ ε} (h : K c) : (p.put () c).Sole K N := by
  unfold Process.Sole
  rw [put_objects_self]
  exact h

theorem Process.sole_fail (e : Fault) : (p.fail e).Sole K N ↔ p.Sole K N := Iff.rfl

theorem Process.sole_remove_put {c : Context Unit σ ε} (h : N c.sInstance c.trace) :
    ((p.put () c).remove ()).Sole K N := by
  unfold Process.Sole
  rw [remove_objects_self]
  exact h

/-- **The invariant rule for one object**, whose invariant may change with the step: one case
for each thing that can happen to the object, and one for a step that changes nothing but the
fault. -/
theorem ObjectClass.sole_step_of {a : Action Unit ο η} (hstep : C.step p a = some p')
    (h : p.Sole K N)
    (hconstruct : a = .construct () → N p.sInstance p.trace → K' (p.context C.fresh))
    (hdestroy : ∀ self c, a = .destroy () → p.objects () = some self → K (p.context self) →
      C.destroy () (p.context self) = .ok c → N' c.sInstance c.trace)
    (hcall : ∀ operation self c, a = .call () operation → p.objects () = some self →
      K (p.context self) → C.call () operation (p.context self) = .ok c → K' c)
    (hevent : ∀ e self, a = .event e → p.sInstance = some () → p.objects () = some self →
      K (p.context self) → K' (C.handle e (p.context self)))
    (hskip : (∀ e, a = .event e → p.sInstance = none ∨ p.objects () = none) → p.Sole K' N') :
    p'.Sole K' N' := by
  rcases step_cases hstep with
      ⟨-, ⟨⟨⟩, rfl, hnew, rfl⟩ | ⟨⟨⟩, self, c, rfl, hself, hc, rfl⟩
      | ⟨⟨⟩, self, e, rfl, -, -, rfl⟩ | ⟨⟨⟩, operation, self, c, rfl, hself, hc, rfl⟩
      | ⟨⟨⟩, operation, self, e, rfl, -, -, rfl⟩ | ⟨e, rfl, rfl⟩⟩
  · exact Process.sole_put (hconstruct rfl (h.of_none hnew))
  · exact Process.sole_remove_put (hdestroy self c rfl hself (h.of_some hself) hc)
  · exact (Process.sole_fail e).mpr (hskip nofun)
  · exact Process.sole_put (hcall operation self c rfl hself (h.of_some hself) hc)
  · exact (Process.sole_fail e).mpr (hskip nofun)
  · cases hinstance : p.sInstance with
    | none =>
        rw [Process.throughInstance_of_none hinstance]
        exact hskip fun _ _ => .inl hinstance
    | some i =>
        cases hself : p.objects () with
        | none =>
            rw [Process.throughInstance_of_missing hinstance hself]
            exact (Process.sole_fail _).mpr (hskip fun _ _ => .inr hself)
        | some self =>
            rw [Process.throughInstance_of_some hinstance hself]
            exact Process.sole_put (hevent e self rfl hinstance hself (h.of_some hself))

/-- The invariant rule for one object. -/
theorem ObjectClass.sole_step {a : Action Unit ο η} (hstep : C.step p a = some p')
    (h : p.Sole K N)
    (hconstruct : N p.sInstance p.trace → K (p.context C.fresh))
    (hdestroy : ∀ self c, a = .destroy () → p.objects () = some self → K (p.context self) →
      C.destroy () (p.context self) = .ok c → N c.sInstance c.trace)
    (hcall : ∀ operation self c, a = .call () operation → p.objects () = some self →
      K (p.context self) → C.call () operation (p.context self) = .ok c → K c)
    (hevent : ∀ e self, a = .event e → p.sInstance = some () → p.objects () = some self →
      K (p.context self) → K (C.handle e (p.context self))) : p'.Sole K N :=
  sole_step_of hstep h (fun _ => hconstruct) hdestroy hcall hevent fun _ => h

end Sole

end Cpp
