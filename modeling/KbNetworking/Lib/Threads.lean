/-
# Threads that lock and join

Every thread of a program has code left to run.  An instruction may wait for a mutex or for
the end of another thread; when it is executed it changes the data that the threads share,
and it may put more code in front of the rest of its thread's, or start another thread.

* `Flat`: the code takes one mutex at a time, and between a lock and its unlock it neither
  waits nor unfolds into more code.  `wellLocked_step`: then a mutex is owned by the thread
  that is between the two, through every step.
* `WellLocked.ready_cases`: a thread that cannot go on waits for the end of another one, or
  for a mutex whose owner can go on.
* `wellFounded_proceeds`: if instructions unfold only into instructions of a lower level,
  the threads cannot go on forever.
* `Settles`: whatever is done next, it comes to an end, and to an end of a given kind.
* `exists_runAlone`: what a thread can do alone, it can do while nobody holds a mutex.
-/
import KbNetworking.Lib.Checked

namespace Cpp

/-- What an instruction asks of the other threads. -/
inductive Demand (μ τ : Type*) : Type _ where
  | nothing
  | lock (m : μ)
  | unlock (m : μ)
  | join (t : τ)

/-- What an executed instruction leaves: the data, the code that its thread runs next, before
the rest of its code, and the thread that it started. -/
structure Outcome (τ ι σ : Type*) where
  data : σ
  code : List ι := []
  started : Option (τ × List ι) := none

/-- Which instructions wait, and which may stand between a lock and its unlock. -/
structure Instructions (μ τ ι : Type*) where
  demand : ι → Demand μ τ
  plain : ι → Bool
  plain_of_lock : ∀ i m, demand i = .lock m → plain i = true

variable {μ τ ι ρ σ : Type*}

/-- Code that takes one mutex at a time, from a point where it holds the given one. -/
def Instructions.Flat (L : Instructions μ τ ι) : Option μ → List ι → Prop
  | held, [] => held = none
  | none, i :: rest =>
      match L.demand i with
      | .nothing => L.Flat none rest
      | .lock m => L.Flat (some m) rest
      | .unlock _ => False
      | .join _ => L.Flat none rest
  | some m, i :: rest =>
      match L.demand i with
      | .nothing => L.plain i = true ∧ L.Flat (some m) rest
      | .unlock m' => m' = m ∧ L.Flat none rest
      | _ => False

/-- The instructions with their effects: `exec t i answer d` is what `i` does on thread `t`,
given the `answer` of the world outside.  A plain instruction only changes the data, and what
an instruction unfolds into is flat. -/
structure Language (μ τ ι ρ σ : Type*) extends Instructions μ τ ι where
  exec : τ → ι → ρ → σ → Checked (Outcome τ ι σ)
  plain_exec : ∀ {t i answer d o}, plain i = true → exec t i answer d = .ok o →
    o.code = [] ∧ o.started = none
  flat_exec : ∀ {t i answer d o}, exec t i answer d = .ok o →
    toInstructions.Flat none o.code
      ∧ ∀ u code, o.started = some (u, code) → toInstructions.Flat none code

/-- The threads of a program. -/
structure Threads (μ τ ι σ : Type*) where
  owner : μ → Option τ
  code : τ → List ι
  data : σ
  fault : Option Fault := none

/-- The code that a thread is started with, `[]` for the others. -/
def Outcome.added [DecidableEq τ] (o : Outcome τ ι σ) (u : τ) : List ι :=
  match o.started with
  | none => []
  | some (v, code) => if v = u then code else []

namespace Threads

variable [DecidableEq μ] [DecidableEq τ]

/-- What an instruction waits for has come about. -/
def Met (s : Threads μ τ ι σ) : Demand μ τ → Prop
  | .lock m => s.owner m = none
  | .join t => s.code t = []
  | _ => True

instance (s : Threads μ τ ι σ) (d : Demand μ τ) : Decidable (s.Met d) :=
  match d with
  | .nothing => isTrue trivial
  | .lock m => decidable_of_iff ((s.owner m).isNone = true) Option.isNone_iff_eq_none
  | .unlock _ => isTrue trivial
  | .join t => decidable_of_iff ((s.code t).isEmpty = true) List.isEmpty_iff

/-- Who owns the mutexes after thread `t` was past an instruction. -/
def ownerAfter (s : Threads μ τ ι σ) (t : τ) : Demand μ τ → μ → Option τ
  | .lock m => Function.update s.owner m (some t)
  | .unlock m => Function.update s.owner m none
  | _ => s.owner

/-- Thread `t` has executed an instruction, and has `rest` after it. -/
def executed (s : Threads μ τ ι σ) (t : τ) (rest : List ι) (d : Demand μ τ)
    (o : Outcome τ ι σ) : Threads μ τ ι σ :=
  { s with
    owner := s.ownerAfter t d
    code := fun u => Function.update s.code t (o.code ++ rest) u ++ o.added u
    data := o.data }

/-- An instruction has ended the program. -/
def failed (s : Threads μ τ ι σ) (t : τ) (rest : List ι) (e : Fault) : Threads μ τ ι σ :=
  { s with code := Function.update s.code t rest, fault := some e }

/-- Thread `t` executes its next instruction; `none` if it has none, if it has to wait, or if
the program has ended. -/
def step (L : Language μ τ ι ρ σ) (s : Threads μ τ ι σ) (t : τ) (answer : ρ) :
    Option (Threads μ τ ι σ) :=
  if s.fault.isSome then none
  else
    match s.code t with
    | [] => none
    | i :: rest =>
        if s.Met (L.demand i) then
          match L.exec t i answer s.data with
          | .error e => some (s.failed t rest e)
          | .ok o => some (s.executed t rest (L.demand i) o)
        else none

/-- Thread `t` begins to run `body`. -/
def called (s : Threads μ τ ι σ) (t : τ) (body : List ι) : Threads μ τ ι σ :=
  { s with code := Function.update s.code t body }

/-- A thread without code makes a call. -/
def call (s : Threads μ τ ι σ) (t : τ) (body : List ι) : Option (Threads μ τ ι σ) :=
  if s.fault.isSome then none
  else
    match s.code t with
    | [] => some (s.called t body)
    | _ :: _ => none

variable {L : Language μ τ ι ρ σ} {s s' : Threads μ τ ι σ} {t : τ} {answer : ρ}

/-- What a step does: the next instruction of the thread did not have to wait, and it either
ended the program or was executed. -/
theorem step_cases (h : s.step L t answer = some s') :
    s.fault = none ∧ ∃ i rest, s.code t = i :: rest ∧ s.Met (L.demand i)
      ∧ ((∃ e, L.exec t i answer s.data = .error e ∧ s' = s.failed t rest e)
        ∨ ∃ o, L.exec t i answer s.data = .ok o ∧ s' = s.executed t rest (L.demand i) o) := by
  unfold step at h
  split at h
  · cases h
  rename_i hfault
  refine ⟨by simpa using hfault, ?_⟩
  cases hcode : s.code t with
  | nil =>
      rw [hcode] at h
      cases h
  | cons i rest =>
      rw [hcode] at h
      simp only at h
      split at h
      · rename_i hmet
        refine ⟨i, rest, rfl, hmet, ?_⟩
        cases hexec : L.exec t i answer s.data with
        | error e =>
            rw [hexec] at h
            exact .inl ⟨e, rfl, (Option.some.inj h).symm⟩
        | ok o =>
            rw [hexec] at h
            exact .inr ⟨o, rfl, (Option.some.inj h).symm⟩
      · cases h

/-- A thread whose next instruction does not have to wait can go on. -/
theorem exists_step {i : ι} {rest : List ι} (hfault : s.fault = none) (hcode : s.code t = i :: rest)
    (hmet : s.Met (L.demand i)) (answer : ρ) : ∃ s', s.step L t answer = some s' := by
  unfold step
  rw [hfault, hcode]
  simp only [Option.isSome_none, Bool.false_eq_true, if_false, if_pos hmet]
  cases L.exec t i answer s.data with
  | error e => exact ⟨_, rfl⟩
  | ok o => exact ⟨_, rfl⟩

omit [DecidableEq μ] in
theorem call_cases {body : List ι} (h : s.call t body = some s') :
    s.fault = none ∧ s.code t = [] ∧ s' = s.called t body := by
  unfold call at h
  split at h
  · cases h
  rename_i hfault
  refine ⟨by simpa using hfault, ?_⟩
  cases hcode : s.code t with
  | nil =>
      rw [hcode] at h
      exact ⟨rfl, (Option.some.inj h).symm⟩
  | cons i rest =>
      rw [hcode] at h
      cases h

/-! ## The code of the other threads -/

omit [DecidableEq μ] in
theorem code_called (body : List ι) (u : τ) :
    (s.called t body).code u = if u = t then body else s.code u := Function.update_apply _ _ _ _

theorem code_executed_self {rest : List ι} {d : Demand μ τ} {o : Outcome τ ι σ}
    (h : o.started = none) : (s.executed t rest d o).code t = o.code ++ rest := by
  simp [executed, Outcome.added, h]

theorem code_executed_of_ne {rest : List ι} {d : Demand μ τ} {o : Outcome τ ι σ} {u : τ}
    (hu : u ≠ t) : (s.executed t rest d o).code u = s.code u ++ o.added u := by
  simp [executed, hu]

theorem added_of_none {o : Outcome τ ι σ} (h : o.started = none) (u : τ) : o.added u = [] := by
  rw [Outcome.added, h]

/-! ## Mutexes -/

end Threads

theorem Instructions.Flat.append {I : Instructions μ τ ι} {held : Option μ} {xs ys : List ι}
    (hxs : I.Flat held xs) (hys : I.Flat none ys) : I.Flat held (xs ++ ys) := by
  induction xs generalizing held with
  | nil =>
      obtain rfl : held = none := hxs
      exact hys
  | cons i xs ih =>
      cases held with
      | none =>
          rw [List.cons_append, Instructions.Flat]
          rw [Instructions.Flat] at hxs
          cases hdemand : I.demand i with
          | nothing =>
              rw [hdemand] at hxs
              exact ih hxs
          | lock m =>
              rw [hdemand] at hxs
              exact ih hxs
          | unlock m =>
              rw [hdemand] at hxs
              exact hxs
          | join u =>
              rw [hdemand] at hxs
              exact ih hxs
      | some m =>
          rw [List.cons_append, Instructions.Flat]
          rw [Instructions.Flat] at hxs
          cases hdemand : I.demand i with
          | nothing =>
              rw [hdemand] at hxs
              exact ⟨hxs.1, ih hxs.2⟩
          | unlock m' =>
              rw [hdemand] at hxs
              exact ⟨hxs.1, ih hxs.2⟩
          | lock m' =>
              rw [hdemand] at hxs
              exact hxs
          | join u =>
              rw [hdemand] at hxs
              exact hxs

/-- Pieces of code one after another. -/
theorem Instructions.flat_flatMap {I : Instructions μ τ ι} {β : Type*} (xs : List β) {f : β → List ι}
    (h : ∀ x ∈ xs, I.Flat none (f x)) : I.Flat none (xs.flatMap f) := by
  induction xs with
  | nil => exact rfl
  | cons x xs ih =>
      rw [List.flatMap_cons]
      exact (h x List.mem_cons_self).append (ih fun y hy => h y (List.mem_cons_of_mem x hy))

theorem Language.flat_added [DecidableEq τ] {L : Language μ τ ι ρ σ} {t : τ} {i : ι} {answer : ρ}
    {d : σ} {o : Outcome τ ι σ} (h : L.exec t i answer d = .ok o) (u : τ) :
    L.Flat none (o.added u) := by
  unfold Outcome.added
  cases hstarted : o.started with
  | none => rfl
  | some started =>
      obtain ⟨v, code⟩ := started
      have hcode := (L.flat_exec h).2 v code hstarted
      by_cases hv : v = u
      · simpa [hv] using hcode
      · simp only [if_neg hv]
        rfl

namespace Threads

variable [DecidableEq μ] [DecidableEq τ]
variable {L : Language μ τ ι ρ σ} {s s' : Threads μ τ ι σ} {t : τ} {answer : ρ}

/-- Every thread has flat code left, and owns the mutex that this code still unlocks. -/
def WellLocked (L : Language μ τ ι ρ σ) (s : Threads μ τ ι σ) : Prop :=
  ∀ t, ∃ held, L.Flat held (s.code t) ∧ ∀ m, s.owner m = some t ↔ held = some m

omit [DecidableEq τ] in
/-- The other threads still own what they owned: an instruction locks a mutex that is free,
and unlocks one that its own thread holds. -/
theorem ownerAfter_other {d : Demand μ τ} {u : τ} (hu : u ≠ t) (hmet : s.Met d)
    (hunlock : ∀ m, d = .unlock m → s.owner m = some t) (m : μ) :
    s.ownerAfter t d m = some u ↔ s.owner m = some u := by
  cases d with
  | nothing => rfl
  | join v => rfl
  | lock m' =>
      by_cases hm : m = m'
      · subst hm
        have hfree : s.owner m = none := hmet
        simp [ownerAfter, hfree, Ne.symm hu]
      · simp [ownerAfter, hm]
  | unlock m' =>
      by_cases hm : m = m'
      · subst hm
        simp [ownerAfter, hunlock m rfl, Ne.symm hu]
      · simp [ownerAfter, hm]

omit [DecidableEq τ] in
/-- What a thread holds after an executed instruction, and that the rest of its code still
fits it. -/
theorem flat_executed {i : ι} {rest : List ι} {o : Outcome τ ι σ} {held : Option μ}
    (hflat : L.Flat held (i :: rest)) (howner : ∀ m, s.owner m = some t ↔ held = some m)
    (hexec : L.exec t i answer s.data = .ok o) :
    (∃ held', L.Flat held' (o.code ++ rest)
      ∧ ∀ m, s.ownerAfter t (L.demand i) m = some t ↔ held' = some m)
      ∧ ∀ m, L.demand i = .unlock m → s.owner m = some t := by
  have hcode := (L.flat_exec hexec).1
  cases held with
  | none =>
      have hfree : ∀ m, s.owner m ≠ some t := fun m hm => by cases (howner m).mp hm
      rw [Instructions.Flat] at hflat
      cases hdemand : L.demand i with
      | nothing =>
          rw [hdemand] at hflat
          exact ⟨⟨none, hcode.append hflat, howner⟩, fun m hm => by cases hm⟩
      | join u =>
          rw [hdemand] at hflat
          exact ⟨⟨none, hcode.append hflat, howner⟩, fun m hm => by cases hm⟩
      | lock m =>
          rw [hdemand] at hflat
          have hplain := (L.plain_exec (L.plain_of_lock i m hdemand) hexec).1
          refine ⟨⟨some m, by simpa [hplain] using hflat, fun m' => ?_⟩, fun m hm => by cases hm⟩
          by_cases hm : m' = m
          · simp [ownerAfter, hm]
          · simp [ownerAfter, hm, hfree m', Ne.symm hm]
      | unlock m =>
          rw [hdemand] at hflat
          exact hflat.elim
  | some m =>
      rw [Instructions.Flat] at hflat
      cases hdemand : L.demand i with
      | nothing =>
          rw [hdemand] at hflat
          have hplain := (L.plain_exec hflat.1 hexec).1
          exact ⟨⟨some m, by simpa [hplain] using hflat.2, howner⟩, fun m hm => by cases hm⟩
      | unlock m' =>
          rw [hdemand] at hflat
          obtain ⟨rfl, hflat⟩ := hflat
          refine ⟨⟨none, hcode.append hflat, fun m => ?_⟩, fun m hm => ?_⟩
          · by_cases hm : m = m'
            · simp [ownerAfter, hm]
            · have hother : s.owner m ≠ some t := fun howned =>
                hm (Option.some.inj ((howner m).mp howned)).symm
              simp [ownerAfter, hm, hother]
          · obtain rfl := Demand.unlock.inj hm
            exact (howner m').mpr rfl
      | lock m' =>
          rw [hdemand] at hflat
          exact hflat.elim
      | join u =>
          rw [hdemand] at hflat
          exact hflat.elim

/-- **Mutual exclusion.**  A step keeps the mutexes with the threads between lock and unlock. -/
theorem wellLocked_step (h : s.WellLocked L) (hstep : s.step L t answer = some s') :
    s'.fault ≠ none ∨ s'.WellLocked L := by
  obtain ⟨-, i, rest, hcode, hmet, hresult⟩ := step_cases hstep
  rcases hresult with ⟨e, -, rfl⟩ | ⟨o, hexec, rfl⟩
  · exact .inl (Option.some_ne_none e)
  · refine .inr fun u => ?_
    obtain ⟨held, hflat, howner⟩ := h t
    rw [hcode] at hflat
    obtain ⟨⟨held', hflat', howner'⟩, hunlock⟩ := flat_executed hflat howner hexec
    by_cases hu : u = t
    · subst hu
      refine ⟨held', ?_, howner'⟩
      show L.Flat held' (Function.update s.code u (o.code ++ rest) u ++ o.added u)
      rw [Function.update_self]
      exact hflat'.append (L.flat_added hexec u)
    · obtain ⟨heldOther, hother, hownerOther⟩ := h u
      refine ⟨heldOther, ?_, fun m => ?_⟩
      · rw [code_executed_of_ne hu]
        exact hother.append (L.flat_added hexec u)
      · exact (ownerAfter_other hu hmet hunlock m).trans (hownerOther m)

omit [DecidableEq μ] in
/-- A call begins with flat code. -/
theorem wellLocked_call (h : s.WellLocked L) {body : List ι} (hbody : L.Flat none body)
    (hcall : s.call t body = some s') : s'.WellLocked L := by
  obtain ⟨-, hcode, rfl⟩ := call_cases hcall
  intro u
  by_cases hu : u = t
  · subst hu
    obtain ⟨held, hflat, howner⟩ := h u
    rw [hcode] at hflat
    obtain rfl : held = none := hflat
    exact ⟨none, by simpa [code_called] using hbody, howner⟩
  · obtain ⟨held, hflat, howner⟩ := h u
    exact ⟨held, by simpa [code_called, hu] using hflat, howner⟩

omit [DecidableEq μ] [DecidableEq τ] in
/-- The owner of a mutex is in the middle of its code, and does not have to wait. -/
theorem WellLocked.owner_ready (h : s.WellLocked L) {m : μ} {u : τ} (hm : s.owner m = some u) :
    ∃ i rest, s.code u = i :: rest ∧ s.Met (L.demand i)
      ∧ ((L.demand i = .nothing ∧ L.plain i = true) ∨ L.demand i = .unlock m) := by
  obtain ⟨held, hflat, howner⟩ := h u
  obtain rfl := (howner m).mp hm
  cases hcode : s.code u with
  | nil =>
      rw [hcode] at hflat
      cases hflat
  | cons i rest =>
      rw [hcode, Instructions.Flat] at hflat
      refine ⟨i, rest, rfl, ?_⟩
      cases hdemand : L.demand i with
      | nothing =>
          rw [hdemand] at hflat
          exact ⟨trivial, .inl ⟨rfl, hflat.1⟩⟩
      | unlock m' =>
          rw [hdemand] at hflat
          obtain ⟨rfl, -⟩ := hflat
          exact ⟨trivial, .inr rfl⟩
      | lock m' =>
          rw [hdemand] at hflat
          exact hflat.elim
      | join v =>
          rw [hdemand] at hflat
          exact hflat.elim

omit [DecidableEq μ] [DecidableEq τ] in
/-- **No deadlock on a mutex.**  What an instruction waits for has come about, or it is a mutex
whose owner can go on, or the end of a thread that has not ended. -/
theorem WellLocked.ready_cases (h : s.WellLocked L) (d : Demand μ τ) :
    s.Met d
      ∨ (∃ u j rest, s.code u = j :: rest ∧ s.Met (L.demand j)
          ∧ ((L.demand j = .nothing ∧ L.plain j = true) ∨ ∃ m, L.demand j = .unlock m))
      ∨ ∃ u, d = .join u ∧ s.code u ≠ [] := by
  cases d with
  | nothing => exact .inl trivial
  | unlock m => exact .inl trivial
  | join u =>
      by_cases hu : s.code u = []
      · exact .inl hu
      · exact .inr (.inr ⟨u, rfl, hu⟩)
  | lock m =>
      cases hm : s.owner m with
      | none => exact .inl hm
      | some u =>
          obtain ⟨j, rest, hu, hmet, hkind⟩ := h.owner_ready hm
          exact .inr (.inl ⟨u, j, rest, hu, hmet, hkind.imp_right fun hj => ⟨m, hj⟩⟩)

/-! ## Going on only finitely long -/

/-- All the instructions that are left. -/
def left [Fintype τ] (s : Threads μ τ ι σ) : Multiset ι := ∑ t, (s.code t : Multiset ι)

omit [DecidableEq μ] in
/-- One thread has other code, and the others have some more. -/
theorem sum_update [Fintype τ] (code : τ → List ι) (t : τ) (xs : List ι) (added : τ → List ι) :
    ∑ u, ((Function.update code t xs u ++ added u : List ι) : Multiset ι) + code t
      = ∑ u, (code u : Multiset ι) + (xs + ∑ u, (added u : Multiset ι)) := by
  have hcoe : (fun u => ((Function.update code t xs u : List ι) : Multiset ι))
      = Function.update (fun u => (code u : Multiset ι)) t xs := by
    funext u
    exact Function.apply_update (fun _ (c : List ι) => (c : Multiset ι)) code t xs u
  have hsplit : ∑ u, (code u : Multiset ι)
      = code t + ∑ u ∈ Finset.univ \ {t}, (code u : Multiset ι) :=
    Finset.sum_eq_add_sum_sdiff_singleton_of_mem (Finset.mem_univ t) _
  simp only [← Multiset.coe_add, Finset.sum_add_distrib]
  rw [hcoe, Finset.sum_update_of_mem (Finset.mem_univ t), hsplit]
  abel

omit [DecidableEq μ] in
/-- The code that a thread is started with is all that an instruction adds to the others. -/
theorem sum_added [Fintype τ] (o : Outcome τ ι σ) :
    ∑ u, (o.added u : Multiset ι) = ((o.started.elim [] Prod.snd : List ι) : Multiset ι) := by
  cases hstarted : o.started with
  | none =>
      have hnone : ∀ u, o.added u = [] := added_of_none hstarted
      simp [hnone]
  | some started =>
      have hadded : ∀ u, (o.added u : Multiset ι)
          = if started.1 = u then (started.2 : Multiset ι) else 0 := by
        intro u
        rw [Outcome.added, hstarted]
        by_cases hu : started.1 = u <;> simp [hu]
      simp [hadded]

/-- What may be done next, by thread and answer, and the steps in which it is done. -/
def Proceeds (L : Language μ τ ι ρ σ) (P : Threads μ τ ι σ → τ → ρ → Prop)
    (s s' : Threads μ τ ι σ) : Prop :=
  ∃ t answer, P s t answer ∧ s.step L t answer = some s'

/-- **The threads cannot go on forever**, if what is done next unfolds instructions only into
instructions of a lower level. -/
theorem wellFounded_proceeds [Fintype τ] {P : Threads μ τ ι σ → τ → ρ → Prop} (level : ι → ℕ)
    (hlevel : ∀ s t answer i rest o, P s t answer → s.code t = i :: rest →
      L.exec t i answer s.data = .ok o →
        ∀ j ∈ o.code ++ o.started.elim [] Prod.snd, level j < level i) :
    WellFounded fun s' s => Proceeds L P s s' := by
  have hwf : WellFounded (Relation.CutExpand (InvImage (· < ·) level)) :=
    (InvImage.wf level Nat.lt_wfRel.wf).cutExpand
  refine Subrelation.wf (r := InvImage _ left) ?_ (InvImage.wf left hwf)
  rintro s' s ⟨t, answer, hP, hstep⟩
  obtain ⟨-, i, rest, hcode, -, hresult⟩ := step_cases hstep
  have hcons : ((i :: rest : List ι) : Multiset ι) = {i} + (rest : Multiset ι) := rfl
  rcases hresult with ⟨e, -, rfl⟩ | ⟨o, hexec, rfl⟩
  · refine ⟨0, i, fun j hj => absurd hj (Multiset.notMem_zero j), ?_⟩
    have hsum := sum_update s.code t rest fun _ => []
    simp only [List.append_nil, Multiset.coe_nil, Finset.sum_const_zero, add_zero, hcode] at hsum
    rw [hcons, ← add_assoc] at hsum
    rw [add_zero]
    exact add_right_cancel hsum
  · refine ⟨(o.code ++ o.started.elim [] Prod.snd : List ι), i,
      hlevel s t answer i rest o hP hcode hexec, ?_⟩
    have hsum := sum_update s.code t (o.code ++ rest) o.added
    rw [sum_added, hcode, hcons, ← Multiset.coe_add] at hsum
    rw [← Multiset.coe_add]
    refine add_right_cancel (b := (rest : Multiset ι)) ?_
    calc left (s.executed t rest (L.demand i) o) + {i} + (rest : Multiset ι)
        = left (s.executed t rest (L.demand i) o) + ({i} + (rest : Multiset ι)) := add_assoc _ _ _
      _ = left s + (o.code + rest + (o.started.elim [] Prod.snd : List ι)) := hsum
      _ = left s + (o.code + (o.started.elim [] Prod.snd : List ι)) + rest := by abel

/-! ## A thread that nobody comes between -/

/-- The steps of one thread, given the answers. -/
def runAlone (L : Language μ τ ι ρ σ) (t : τ) :
    Threads μ τ ι σ → List ρ → Option (Threads μ τ ι σ)
  | s, [] => some s
  | s, answer :: answers => (s.step L t answer).bind fun s' => runAlone L t s' answers

end Threads

/-- Thread `t` can run `code` to its end, from the data `d` to `d'`; it waits for no thread and
starts none. -/
inductive Language.Alone (L : Language μ τ ι ρ σ) (t : τ) : List ι → σ → σ → Prop
  | nil (d : σ) : L.Alone t [] d d
  | cons {i : ι} {rest : List ι} {d d' : σ} {o : Outcome τ ι σ} (answer : ρ)
      (hexec : L.exec t i answer d = .ok o) (hstarted : o.started = none)
      (hjoin : ∀ u, L.demand i ≠ .join u) (hrest : L.Alone t (o.code ++ rest) o.data d') :
      L.Alone t (i :: rest) d d'

theorem Language.Alone.append {L : Language μ τ ι ρ σ} {t : τ} {xs ys : List ι} {d d' d'' : σ}
    (hxs : L.Alone t xs d d') (hys : L.Alone t ys d' d'') : L.Alone t (xs ++ ys) d d'' := by
  generalize hzs : xs = zs at hxs
  induction hxs generalizing xs with
  | nil d => exact hys
  | cons answer hexec hstarted hjoin hrest ih =>
      rw [List.cons_append]
      refine .cons answer hexec hstarted hjoin ?_
      rw [← List.append_assoc]
      exact ih hys rfl

namespace Threads

variable [DecidableEq μ] [DecidableEq τ]
variable {L : Language μ τ ι ρ σ} {s s' : Threads μ τ ι σ} {t : τ}

/-- Thread `t` holds this mutex, and no other is held. -/
structure Holds (s : Threads μ τ ι σ) (t : τ) (held : Option μ) : Prop where
  own : ∀ m, s.owner m = some t ↔ held = some m
  free : ∀ m, s.owner m = some t ∨ s.owner m = none

omit [DecidableEq μ] [DecidableEq τ] in
theorem Holds.owner_eq_none (h : s.Holds t none) (m : μ) : s.owner m = none :=
  (h.free m).resolve_left fun hm => by cases (h.own m).mp hm

omit [DecidableEq μ] [DecidableEq τ] in
/-- While no other thread holds a mutex, an instruction that waits for none need not wait. -/
theorem Holds.met {held : Option μ} {i : ι} {rest : List ι} (h : s.Holds t held)
    (hflat : L.Flat held (i :: rest)) (hjoin : ∀ u, L.demand i ≠ .join u) :
    s.Met (L.demand i) := by
  cases hdemand : L.demand i with
  | nothing => trivial
  | unlock m => trivial
  | join u => exact absurd hdemand (hjoin u)
  | lock m =>
      cases held with
      | none => exact h.owner_eq_none m
      | some m' =>
          rw [Instructions.Flat, hdemand] at hflat
          exact hflat.elim

omit [DecidableEq τ] in
theorem Holds.executed {held : Option μ} {i : ι} {rest : List ι} {answer : ρ} {o : Outcome τ ι σ}
    (h : s.Holds t held) (hflat : L.Flat held (i :: rest))
    (hexec : L.exec t i answer s.data = .ok o) :
    ∃ held', L.Flat held' (o.code ++ rest) ∧ (∀ m, s.ownerAfter t (L.demand i) m = some t
        ↔ held' = some m)
      ∧ ∀ m, s.ownerAfter t (L.demand i) m = some t ∨ s.ownerAfter t (L.demand i) m = none := by
  obtain ⟨⟨held', hflat', hown⟩, -⟩ := flat_executed hflat h.own hexec
  refine ⟨held', hflat', hown, fun m => ?_⟩
  cases L.demand i with
  | nothing => exact h.free m
  | join u => exact h.free m
  | lock m' =>
      by_cases hm : m = m'
      · simp [ownerAfter, hm]
      · simpa [ownerAfter, hm] using h.free m
  | unlock m' =>
      by_cases hm : m = m'
      · simp [ownerAfter, hm]
      · simpa [ownerAfter, hm] using h.free m

/-- While all mutexes are free, a thread can do what it can do alone. -/
theorem exists_runAlone {code : List ι} {d d' : σ} (h : L.Alone t code d d') :
    ∀ {s : Threads μ τ ι σ} {held : Option μ} {tail : List ι}, s.fault = none →
      s.code t = code ++ tail → s.data = d → L.Flat held code → s.Holds t held →
        ∃ answers s', s.runAlone L t answers = some s' ∧ s'.fault = none
          ∧ s'.code = Function.update s.code t tail ∧ s'.data = d' ∧ s'.Holds t none := by
  induction h with
  | nil d =>
      intro s held tail hfault hcode hdata hflat hholds
      obtain rfl : held = none := hflat
      refine ⟨[], s, rfl, hfault, ?_, hdata, hholds⟩
      rw [show tail = s.code t from hcode.symm, Function.update_eq_self]
  | cons answer hexec hstarted hjoin hrest ih =>
      rename_i i rest d d' o
      intro s held tail hfault hcode hdata hflat hholds
      subst hdata
      obtain ⟨held', hflat', hown, hfree⟩ := hholds.executed hflat hexec
      have hnext : (s.executed t (rest ++ tail) (L.demand i) o).code t
          = o.code ++ rest ++ tail := by
        rw [code_executed_self hstarted, List.append_assoc]
      have hgoes : (s.executed t (rest ++ tail) (L.demand i) o).fault = none := hfault
      obtain ⟨answers, s', hrun, hfault', hcode', hdata', hholds'⟩ :=
        ih hgoes hnext rfl hflat' ⟨hown, hfree⟩
      have hstep : s.step L t answer = some (s.executed t (rest ++ tail) (L.demand i) o) := by
        unfold step
        rw [hfault, hcode]
        simp only [Option.isSome_none, Bool.false_eq_true, if_false, List.cons_append,
          if_pos (hholds.met hflat hjoin), hexec]
      refine ⟨answer :: answers, s', ?_, hfault', ?_, hdata', hholds'⟩
      · rw [runAlone, hstep]
        exact hrun
      · rw [hcode']
        funext u
        by_cases hu : u = t
        · subst hu
          rw [Function.update_self, Function.update_self]
        · rw [Function.update_of_ne hu, Function.update_of_ne hu, code_executed_of_ne hu,
            added_of_none hstarted, List.append_nil]

end Threads

/-- Whatever is done next, it comes to an end, and then `P` holds. -/
inductive Settles {α : Type*} (R : α → α → Prop) (P : α → Prop) : α → Prop
  | intro {a : α} (hend : (∀ b, ¬ R a b) → P a) (hnext : ∀ b, R a b → Settles R P b) :
      Settles R P a

/-- What cannot go on forever settles in what holds wherever nothing can be done. -/
theorem settles_of_wellFounded {α : Type*} {R : α → α → Prop} {I P : α → Prop}
    (hwf : WellFounded fun b a => R a b) (hstep : ∀ a b, I a → R a b → I b)
    (hend : ∀ a, I a → (∀ b, ¬ R a b) → P a) {a : α} (ha : I a) : Settles R P a := by
  induction a using hwf.induction with
  | _ a ih => exact .intro (hend a ha) fun b hb => ih b hb (hstep a b ha hb)

end Cpp
