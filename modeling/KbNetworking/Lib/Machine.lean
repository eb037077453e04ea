/-
# Labelled machines and their runs

A machine is an initial state and a partial step function; an action that is not enabled
has no successor.  A run is a list of actions.

* `Always P s as`: `P` holds in every state that the run `as` from `s` passes through.
* `EachStep Q s as`: every step of the run satisfies `Q` (state before, action, state
  after).
* `always_of_invariant`: what one step preserves holds along every run whose steps meet a
  guard.
* `always_iff_eachStep`: if a step that breaks the guard breaks the property at once, the
  property holds along a run exactly when every step of the run meets the guard.  The same
  rule holds for properties of steps, and for runs whose actions a `Monitor` admits.
* `exists_run_project`: a run with some of its steps left out is still a run, when the
  steps left out do not move a simulation relation.
* `exists_run_translate`: the same where every step stands for some actions of another
  machine, and `exists_run_simulating` where it only has some.
* `observed`: the machine with a history variable, which keeps what a statement says of the
  steps that were taken and takes no part in them (`run_observed`).
-/
import Mathlib

/-- A labelled machine with partial steps. -/
structure Machine (σ α : Type*) where
  init : σ
  step : σ → α → Option σ

namespace Machine

variable {σ τ α : Type*} (M : Machine σ α)

/-- The state after a run, `none` if one of its actions is not enabled. -/
def run : σ → List α → Option σ
  | s, [] => some s
  | s, a :: as => (M.step s a).bind fun s' => run s' as

/-- `P` holds in every state the run passes through, its first and last included. -/
def Always (P : σ → Prop) : σ → List α → Prop
  | s, [] => P s
  | s, a :: as => P s ∧ ∀ s' ∈ M.step s a, Always P s' as

/-- Every step of the run satisfies `Q`. -/
def EachStep (Q : σ → α → σ → Prop) : σ → List α → Prop
  | _, [] => True
  | s, a :: as => ∀ s' ∈ M.step s a, Q s a s' ∧ EachStep Q s' as

@[simp] theorem run_nil (s : σ) : M.run s [] = some s := rfl

theorem run_cons (s : σ) (a : α) (as : List α) :
    M.run s (a :: as) = (M.step s a).bind fun s' => M.run s' as := rfl

variable {M}

/-! ## Properties of states along a run -/

theorem Always.head {P : σ → Prop} {s : σ} {as : List α} (h : M.Always P s as) : P s := by
  cases as with
  | nil => exact h
  | cons a as => exact h.1

/-- `Always` speaks of every state that a prefix of the run reaches. -/
theorem always_iff_run {P : σ → Prop} {s : σ} {as : List α} :
    M.Always P s as ↔ ∀ bs, bs <+: as → ∀ s', M.run s bs = some s' → P s' := by
  induction as generalizing s with
  | nil =>
      constructor
      · intro h bs hbs s' hrun
        rw [List.prefix_nil.mp hbs, run_nil, Option.some.injEq] at hrun
        exact hrun ▸ h
      · intro h
        exact h [] List.prefix_rfl s rfl
  | cons a as ih =>
      constructor
      · rintro ⟨hs, hrest⟩ bs hbs s' hrun
        cases bs with
        | nil =>
            rw [run_nil, Option.some.injEq] at hrun
            exact hrun ▸ hs
        | cons b bs =>
            obtain ⟨rfl, hpre⟩ := List.cons_prefix_cons.mp hbs
            rw [run_cons, Option.bind_eq_some_iff] at hrun
            obtain ⟨s₁, hstep, hrun⟩ := hrun
            exact ih.mp (hrest s₁ hstep) bs hpre s' hrun
      · intro h
        refine ⟨h [] List.nil_prefix s rfl, fun s₁ hstep => ih.mpr ?_⟩
        intro bs hbs s' hrun
        refine h (a :: bs) (List.cons_prefix_cons.mpr ⟨rfl, hbs⟩) s' ?_
        rw [run_cons, Option.mem_def.mp hstep]
        exact hrun

/-- `Always` holds in the last state of the run. -/
theorem Always.last {P : σ → Prop} {s s' : σ} {as : List α} (h : M.Always P s as)
    (hrun : M.run s as = some s') : P s' :=
  always_iff_run.mp h as List.prefix_rfl s' hrun

theorem Always.mono {P P' : σ → Prop} {s : σ} {as : List α} (himp : ∀ s, P s → P' s)
    (h : M.Always P s as) : M.Always P' s as := by
  rw [always_iff_run] at h ⊢
  exact fun bs hbs s' hrun => himp s' (h bs hbs s' hrun)

theorem EachStep.mono {Q Q' : σ → α → σ → Prop} {s : σ} {as : List α}
    (himp : ∀ s a s', M.step s a = some s' → Q s a s' → Q' s a s')
    (h : M.EachStep Q s as) : M.EachStep Q' s as := by
  induction as generalizing s with
  | nil => trivial
  | cons a as ih =>
      intro s' hstep
      obtain ⟨hQ, hrest⟩ := h s' hstep
      exact ⟨himp s a s' hstep hQ, ih hrest⟩

theorem EachStep.and {Q Q' : σ → α → σ → Prop} {s : σ} {as : List α}
    (h : M.EachStep Q s as) (h' : M.EachStep Q' s as) :
    M.EachStep (fun s a s' => Q s a s' ∧ Q' s a s') s as := by
  induction as generalizing s with
  | nil => trivial
  | cons a as ih =>
      intro s' hstep
      obtain ⟨hQ, hrest⟩ := h s' hstep
      obtain ⟨hQ', hrest'⟩ := h' s' hstep
      exact ⟨⟨hQ, hQ'⟩, ih hrest hrest'⟩

/-- Every run meets the trivial guard. -/
theorem eachStep_trivial (s : σ) (as : List α) : M.EachStep (fun _ _ _ => True) s as := by
  induction as generalizing s with
  | nil => trivial
  | cons a as ih => exact fun s' _ => ⟨trivial, ih s'⟩

/-- What holds of every action holds of every step. -/
theorem eachStep_of_forall_mem {P : α → Prop} {s : σ} {as : List α} (h : ∀ a ∈ as, P a) :
    M.EachStep (fun _ a _ => P a) s as := by
  induction as generalizing s with
  | nil => trivial
  | cons a as ih =>
      exact fun s' _ => ⟨h a List.mem_cons_self, ih fun b hb => h b (List.mem_cons_of_mem a hb)⟩

/-- A run that begins with an enabled step. -/
theorem eachStep_cons_of_step {Q : σ → α → σ → Prop} {s s' : σ} {a : α} {as : List α}
    (h : M.step s a = some s') (hQ : Q s a s') (has : M.EachStep Q s' as) :
    M.EachStep Q s (a :: as) := by
  intro t ht
  obtain rfl := Option.some.inj (h.symm.trans ht)
  exact ⟨hQ, has⟩

theorem eachStep_cons_iff_of_step {Q : σ → α → σ → Prop} {s s' : σ} {a : α} {as : List α}
    (h : M.step s a = some s') : M.EachStep Q s (a :: as) ↔ Q s a s' ∧ M.EachStep Q s' as := by
  constructor
  · intro hall
    exact hall s' h
  · rintro ⟨hQ, has⟩
    exact eachStep_cons_of_step h hQ has

/-! ## Induction along a run -/

/-- **Invariant rule.**  What every guarded step preserves holds along every run whose
steps meet the guard. -/
theorem always_of_invariant {I : σ → Prop} {Q : σ → α → σ → Prop}
    (hstep : ∀ s a s', M.step s a = some s' → I s → Q s a s' → I s')
    {s : σ} {as : List α} (hs : I s) (hQ : M.EachStep Q s as) : M.Always I s as := by
  induction as generalizing s with
  | nil => exact hs
  | cons a as ih =>
      refine ⟨hs, fun s' h => ?_⟩
      obtain ⟨hQs, hrest⟩ := hQ s' h
      exact ih (hstep s a s' h hs hQs) hrest

/-- The invariant rule without a guard. -/
theorem always_of_step {I : σ → Prop}
    (hstep : ∀ s a s', M.step s a = some s' → I s → I s') {s : σ} (hs : I s)
    (as : List α) : M.Always I s as :=
  always_of_invariant (fun s a s' h hI _ => hstep s a s' h hI) hs (eachStep_trivial s as)

/-- What the invariant gives for one guarded step holds of every step of the run. -/
theorem eachStep_of_invariant {I : σ → Prop} {Q R : σ → α → σ → Prop}
    (hstep : ∀ s a s', M.step s a = some s' → I s → Q s a s' → I s')
    (hR : ∀ s a s', M.step s a = some s' → I s → Q s a s' → R s a s')
    {s : σ} {as : List α} (hs : I s) (hQ : M.EachStep Q s as) : M.EachStep R s as := by
  induction as generalizing s with
  | nil => trivial
  | cons a as ih =>
      intro s' h
      obtain ⟨hQs, hrest⟩ := hQ s' h
      exact ⟨hR s a s' h hs hQs, ih (hstep s a s' h hs hQs) hrest⟩

/-- The step rule without a guard. -/
theorem eachStep_of_step {I : σ → Prop} {R : σ → α → σ → Prop}
    (hstep : ∀ s a s', M.step s a = some s' → I s → I s' ∧ R s a s') {s : σ} (hs : I s)
    (as : List α) : M.EachStep R s as :=
  eachStep_of_invariant (fun s a s' h hI _ => (hstep s a s' h hI).1)
    (fun s a s' h hI _ => (hstep s a s' h hI).2) hs (eachStep_trivial s as)

/-! ## Exactness -/

/-- A monitor follows the actions of a run: `allowed` says which action may come next, and
`note` what the monitor keeps of it. -/
structure Monitor (γ α : Type*) where
  allowed : γ → α → Prop
  note : γ → α → γ

/-- The monitor allows the actions one after the other. -/
def Monitor.Admits {γ : Type*} (m : Monitor γ α) : γ → List α → Prop
  | _, [] => True
  | g, a :: as => m.allowed g a ∧ Admits m (m.note g a) as

/-- The monitor that allows everything and keeps nothing. -/
def Monitor.any : Monitor Unit α where
  allowed := fun _ _ => True
  note := fun _ _ => ()

theorem Monitor.admits_any (as : List α) : (any : Monitor Unit α).Admits () as := by
  induction as with
  | nil => trivial
  | cons a as ih => exact ⟨trivial, ih⟩

/-- **Exactness rule.**  The run is one that a monitor admits and whose steps meet `G`.  Steps
that meet `ok` preserve an invariant that implies the property `P` of states, and satisfy the
property `R` of steps; a step that does not meet `ok` breaks one of the two.  Then both hold
along the run exactly when every step meets `ok`. -/
theorem always_and_eachStep_iff_of_admits {γ : Type*} {m : Monitor γ α} {I : γ → σ → Prop}
    {P : σ → Prop} {G R : σ → α → σ → Prop} {ok : σ → α → Prop}
    (hP : ∀ g s, I g s → P s)
    (hgood : ∀ g s a s', M.step s a = some s' → I g s → m.allowed g a → G s a s' → ok s a →
      I (m.note g a) s' ∧ R s a s')
    (hbad : ∀ g s a s', M.step s a = some s' → I g s → m.allowed g a → G s a s' → P s' →
      R s a s' → ok s a)
    {g : γ} {s : σ} (hs : I g s) {as : List α} (hm : m.Admits g as) (hG : M.EachStep G s as) :
    (M.Always P s as ∧ M.EachStep R s as) ↔ M.EachStep (fun s a _ => ok s a) s as := by
  induction as generalizing g s with
  | nil => exact ⟨fun _ => trivial, fun _ => ⟨hP g s hs, trivial⟩⟩
  | cons a as ih =>
      obtain ⟨hallowed, hm⟩ := hm
      constructor
      · rintro ⟨⟨-, hrest⟩, hR⟩ s' h
        obtain ⟨hGs, hG⟩ := hG s' h
        obtain ⟨hRs, hR⟩ := hR s' h
        have hok : ok s a := hbad g s a s' h hs hallowed hGs (hrest s' h).head hRs
        have hs' := (hgood g s a s' h hs hallowed hGs hok).1
        exact ⟨hok, (ih hs' hm hG).mp ⟨hrest s' h, hR⟩⟩
      · intro hall
        refine ⟨⟨hP g s hs, ?_⟩, ?_⟩
        · intro s' h
          obtain ⟨hok, hrest⟩ := hall s' h
          obtain ⟨hGs, hG⟩ := hG s' h
          have hs' := (hgood g s a s' h hs hallowed hGs hok).1
          exact ((ih hs' hm hG).mpr hrest).1
        · intro s' h
          obtain ⟨hok, hrest⟩ := hall s' h
          obtain ⟨hGs, hG⟩ := hG s' h
          obtain ⟨hs', hRs⟩ := hgood g s a s' h hs hallowed hGs hok
          exact ⟨hRs, ((ih hs' hm hG).mpr hrest).2⟩

/-- The exactness rule for every run. -/
theorem always_and_eachStep_iff {I P : σ → Prop} {R : σ → α → σ → Prop} {ok : σ → α → Prop}
    (hP : ∀ s, I s → P s)
    (hgood : ∀ s a s', M.step s a = some s' → I s → ok s a → I s' ∧ R s a s')
    (hbad : ∀ s a s', M.step s a = some s' → I s → P s' → R s a s' → ok s a)
    {s : σ} (hs : I s) (as : List α) :
    (M.Always P s as ∧ M.EachStep R s as) ↔ M.EachStep (fun s a _ => ok s a) s as :=
  always_and_eachStep_iff_of_admits (m := .any) (I := fun _ => I) (fun _ => hP)
    (fun _ s a s' h hI _ _ hok => hgood s a s' h hI hok)
    (fun _ s a s' h hI _ _ hPs hRs => hbad s a s' h hI hPs hRs) hs (Monitor.admits_any as)
    (eachStep_trivial s as)

/-- The exactness rule for a property of states. -/
theorem always_iff_eachStep {I P : σ → Prop} {ok : σ → α → Prop}
    (hP : ∀ s, I s → P s)
    (hgood : ∀ s a s', M.step s a = some s' → I s → ok s a → I s')
    (hbad : ∀ s a s', M.step s a = some s' → I s → ¬ ok s a → ¬ P s')
    {s : σ} (hs : I s) (as : List α) :
    M.Always P s as ↔ M.EachStep (fun s a _ => ok s a) s as := by
  have hiff := always_and_eachStep_iff hP (R := fun _ _ _ => True)
    (fun s a s' h hI hok => ⟨hgood s a s' h hI hok, trivial⟩)
    (fun s a s' h hI hPs _ => by_contra fun hno => hbad s a s' h hI hno hPs) hs as
  rw [← hiff, and_iff_left (eachStep_trivial s as)]

/-- The exactness rule for a property of steps. -/
theorem eachStep_iff_eachStep {I : σ → Prop} {R : σ → α → σ → Prop} {ok : σ → α → Prop}
    (hgood : ∀ s a s', M.step s a = some s' → I s → ok s a → I s' ∧ R s a s')
    (hbad : ∀ s a s', M.step s a = some s' → I s → R s a s' → ok s a)
    {s : σ} (hs : I s) (as : List α) :
    M.EachStep R s as ↔ M.EachStep (fun s a _ => ok s a) s as := by
  have hiff := always_and_eachStep_iff (P := fun _ => True) (fun _ _ => trivial) hgood
    (fun s a s' h hI _ hRs => hbad s a s' h hI hRs) hs as
  have htrue : M.Always (fun _ => True) s as :=
    always_of_step (fun _ _ _ _ _ => trivial) trivial as
  rw [← hiff, and_iff_right htrue]

/-! ## Leaving steps out -/

/-- The steps of a run that `keep` selects, judged in the state where each is taken. -/
def project (M : Machine σ α) (keep : σ → α → Bool) : σ → List α → List α
  | _, [] => []
  | s, a :: as =>
      match M.step s a with
      | none => []
      | some s' => if keep s a then a :: project M keep s' as else project M keep s' as

/-- **Projection rule.**  If a kept step can be taken in a related state and ends in related
states, and a step left out keeps the states related, then the kept steps form a run of the
second machine. -/
theorem exists_run_project {N : Machine τ α} {keep : σ → α → Bool} {R : σ → τ → Prop}
    {Q : σ → α → σ → Prop}
    (hkeep : ∀ s a s' t, M.step s a = some s' → Q s a s' → R s t → keep s a = true →
      ∃ t', N.step t a = some t' ∧ R s' t')
    (hdrop : ∀ s a s' t, M.step s a = some s' → Q s a s' → R s t → keep s a = false →
      R s' t)
    {s s' : σ} {t : τ} {as : List α} (hR : R s t) (hQ : M.EachStep Q s as)
    (hrun : M.run s as = some s') :
    ∃ t', N.run t (M.project keep s as) = some t' ∧ R s' t' := by
  induction as generalizing s t with
  | nil =>
      rw [run_nil, Option.some.injEq] at hrun
      exact ⟨t, rfl, hrun ▸ hR⟩
  | cons a as ih =>
      rw [run_cons, Option.bind_eq_some_iff] at hrun
      obtain ⟨s₁, hstep, hrest⟩ := hrun
      obtain ⟨hQs, hQrest⟩ := hQ s₁ hstep
      simp only [project, hstep]
      cases hk : keep s a with
      | true =>
          obtain ⟨t₁, hstep', hR'⟩ := hkeep s a s₁ t hstep hQs hR hk
          obtain ⟨t', hrun', hR''⟩ := ih hR' hQrest hrest
          refine ⟨t', ?_, hR''⟩
          rw [if_pos rfl, run_cons, hstep']
          exact hrun'
      | false =>
          obtain ⟨t', hrun', hR'⟩ := ih (hdrop s a s₁ t hstep hQs hR hk) hQrest hrest
          exact ⟨t', by simpa using hrun', hR'⟩

/-! ## Translating steps -/

/-- A run goes on where its first part ends. -/
theorem run_append (s : σ) (as bs : List α) :
    M.run s (as ++ bs) = (M.run s as).bind fun s' => M.run s' bs := by
  induction as generalizing s with
  | nil => rfl
  | cons a as ih =>
      rw [List.cons_append, run_cons, run_cons, Option.bind_assoc]
      congr 1
      funext s'
      exact ih s'

/-- The actions of another machine that the steps of a run stand for, judged in the state
where each is taken. -/
def translate {β : Type*} (M : Machine σ α) (f : σ → α → List β) : σ → List α → List β
  | _, [] => []
  | s, a :: as =>
      match M.step s a with
      | none => []
      | some s' => f s a ++ translate M f s' as

/-- **Simulation rule.**  If the actions that a step stands for can be taken in a related state
and end in a related state, then the actions that a run stands for form a run. -/
theorem exists_run_translate {β : Type*} {N : Machine τ β} {f : σ → α → List β}
    {R : σ → τ → Prop} {Q : σ → α → σ → Prop}
    (hsim : ∀ s a s' t, M.step s a = some s' → Q s a s' → R s t →
      ∃ t', N.run t (f s a) = some t' ∧ R s' t')
    {s s' : σ} {t : τ} {as : List α} (hR : R s t) (hQ : M.EachStep Q s as)
    (hrun : M.run s as = some s') :
    ∃ t', N.run t (M.translate f s as) = some t' ∧ R s' t' := by
  induction as generalizing s t with
  | nil =>
      rw [run_nil, Option.some.injEq] at hrun
      exact ⟨t, rfl, hrun ▸ hR⟩
  | cons a as ih =>
      rw [run_cons, Option.bind_eq_some_iff] at hrun
      obtain ⟨s₁, hstep, hrest⟩ := hrun
      obtain ⟨hQs, hQrest⟩ := hQ s₁ hstep
      obtain ⟨t₁, hrun₁, hR₁⟩ := hsim s a s₁ t hstep hQs hR
      obtain ⟨t', hrun', hR'⟩ := ih hR₁ hQrest hrest
      refine ⟨t', ?_, hR'⟩
      simp only [translate, hstep]
      rw [run_append, hrun₁]
      exact hrun'

/-- If every step has some actions of another machine that end in a related state, then every
run has. -/
theorem exists_run_simulating {β : Type*} {N : Machine τ β} {R : σ → τ → Prop}
    {Q : σ → α → σ → Prop}
    (hsim : ∀ s a s' t, M.step s a = some s' → Q s a s' → R s t →
      ∃ bs t', N.run t bs = some t' ∧ R s' t')
    {s s' : σ} {t : τ} {as : List α} (hR : R s t) (hQ : M.EachStep Q s as)
    (hrun : M.run s as = some s') : ∃ bs t', N.run t bs = some t' ∧ R s' t' := by
  induction as generalizing s t with
  | nil =>
      rw [run_nil, Option.some.injEq] at hrun
      exact ⟨[], t, rfl, hrun ▸ hR⟩
  | cons a as ih =>
      rw [run_cons, Option.bind_eq_some_iff] at hrun
      obtain ⟨s₁, hstep, hrest⟩ := hrun
      obtain ⟨hQs, hQrest⟩ := hQ s₁ hstep
      obtain ⟨bs, t₁, hrun₁, hR₁⟩ := hsim s a s₁ t hstep hQs hR
      obtain ⟨bs', t', hrun', hR'⟩ := ih hR₁ hQrest hrest
      refine ⟨bs ++ bs', t', ?_, hR'⟩
      rw [run_append, hrun₁]
      exact hrun'

/-! ## History variables -/

/-- The machine with a history variable: `note` keeps what it will of each step. -/
def observed {γ : Type*} (M : Machine σ α) (start : γ) (note : γ → σ → α → σ → γ) :
    Machine (γ × σ) α where
  init := (start, M.init)
  step := fun s a => (M.step s.2 a).map fun s' => (note s.1 s.2 a s', s')

/-- A step of the machine, and what the history keeps of it. -/
theorem observed_step {γ : Type*} {start : γ} {note : γ → σ → α → σ → γ} {g : γ} {s : σ} {a : α}
    {t' : γ × σ} (h : (M.observed start note).step (g, s) a = some t') :
    ∃ s', M.step s a = some s' ∧ t' = (note g s a s', s') := by
  obtain ⟨s', hstep, rfl⟩ := Option.map_eq_some_iff.mp h
  exact ⟨s', hstep, rfl⟩

/-- A history variable disables no step. -/
theorem observed_step_of_step {γ : Type*} (start : γ) (note : γ → σ → α → σ → γ) (g : γ)
    {s s' : σ} {a : α} (h : M.step s a = some s') :
    (M.observed start note).step (g, s) a = some (note g s a s', s') := by
  simp [observed, h]

/-- A history variable changes no run. -/
theorem run_observed {γ : Type*} (start : γ) (note : γ → σ → α → σ → γ) (s : γ × σ)
    (as : List α) : ((M.observed start note).run s as).map Prod.snd = M.run s.2 as := by
  induction as generalizing s with
  | nil => rfl
  | cons a as ih =>
      rw [run_cons, run_cons]
      cases hstep : M.step s.2 a with
      | none => simp [observed, hstep]
      | some s' =>
          rw [observed_step_of_step start note s.1 hstep]
          exact ih _

/-! ## Deciding properties of concrete runs -/

instance decidableAlways (P : σ → Prop) [DecidablePred P] :
    ∀ (s : σ) (as : List α), Decidable (M.Always P s as)
  | s, [] => inferInstanceAs (Decidable (P s))
  | s, a :: as =>
      have : ∀ s', Decidable (M.Always P s' as) := fun s' => decidableAlways P s' as
      inferInstanceAs (Decidable (P s ∧ ∀ s' ∈ M.step s a, M.Always P s' as))

instance decidableEachStep (Q : σ → α → σ → Prop) [∀ s a s', Decidable (Q s a s')] :
    ∀ (s : σ) (as : List α), Decidable (M.EachStep Q s as)
  | _, [] => inferInstanceAs (Decidable True)
  | s, a :: as =>
      have : ∀ s', Decidable (M.EachStep Q s' as) := fun s' => decidableEachStep Q s' as
      inferInstanceAs (Decidable (∀ s' ∈ M.step s a, Q s a s' ∧ M.EachStep Q s' as))

end Machine
