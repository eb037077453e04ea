/-
# Ledgers of acquired and released keys

A log of events, some of which acquire a key and some of which release one.  `live` tells
whether a key was acquired and not released since; `lastBy` tells which party acquired it
last, and `firstBy` which one did so first since the last release; `Alternates` says that the
key is never acquired or released twice in a row.  Every lemma here says what one more event
does to them, which is what an induction over a run needs.
-/
import Mathlib

namespace Ledger

variable {ε κ ι : Type*}

/-- `k` was acquired by an event of the log and not released by a later one. -/
def live (acquires releases : ε → κ → Bool) (log : List ε) (k : κ) : Bool :=
  log.foldl (fun held e => if releases e k then false else held || acquires e k) false

/-- The party of the last event that acquires `k`. -/
def lastBy (party : ε → κ → Option ι) (log : List ε) (k : κ) : Option ι :=
  log.foldl (fun who e => party e k <|> who) none

variable {acquires releases : ε → κ → Bool} {party : ε → κ → Option ι}

/-! ## Live keys -/

/-- What one more event does. -/
theorem live_concat (log : List ε) (e : ε) (k : κ) :
    live acquires releases (log ++ [e]) k
      = if releases e k then false else live acquires releases log k || acquires e k := by
  rw [live, List.foldl_concat]
  rfl

/-- An event that releases `k` ends its life. -/
theorem live_concat_of_releases {log : List ε} {e : ε} {k : κ} (h : releases e k = true) :
    live acquires releases (log ++ [e]) k = false := by
  rw [live_concat, if_pos h]

/-- An event that acquires `k` and does not release it starts its life. -/
theorem live_concat_of_acquires {log : List ε} {e : ε} {k : κ} (hr : releases e k = false)
    (ha : acquires e k = true) : live acquires releases (log ++ [e]) k = true := by
  simp [live_concat, hr, ha]

/-- Events that do not release `k` keep it alive. -/
theorem live_append_of_not_released {log es : List ε} {k : κ}
    (h : ∀ e ∈ es, releases e k = false) (hl : live acquires releases log k = true) :
    live acquires releases (log ++ es) k = true := by
  induction es generalizing log with
  | nil => rwa [List.append_nil]
  | cons e es ih =>
      rw [List.append_cons]
      refine ih (fun e' he' => h e' (List.mem_cons_of_mem _ he')) ?_
      simp [live_concat, h e List.mem_cons_self, hl]

/-- Of events that do not acquire `k` only a release matters. -/
theorem live_append_of_not_acquired {log es : List ε} {k : κ}
    (h : ∀ e ∈ es, acquires e k = false) :
    live acquires releases (log ++ es) k
      = (live acquires releases log k && !es.any fun e => releases e k) := by
  induction es generalizing log with
  | nil => simp
  | cons e es ih =>
      rw [List.append_cons, ih fun e' he' => h e' (List.mem_cons_of_mem _ he'), live_concat]
      cases hr : releases e k <;> simp [h e List.mem_cons_self, hr]

/-- Events that neither acquire nor release `k` change nothing. -/
theorem live_append_of_unrelated {log es : List ε} {k : κ}
    (h : ∀ e ∈ es, acquires e k = false ∧ releases e k = false) :
    live acquires releases (log ++ es) k = live acquires releases log k := by
  have hnone : (es.any fun e => releases e k) = false :=
    List.any_eq_false.mpr fun e he => by simp [(h e he).2]
  rw [live_append_of_not_acquired fun e he => (h e he).1, hnone, Bool.not_false, Bool.and_true]

/-- A live key was acquired by some event. -/
theorem exists_of_live {log : List ε} {k : κ} (h : live acquires releases log k = true) :
    ∃ e ∈ log, acquires e k = true := by
  induction log using List.reverseRecOn with
  | nil => cases h
  | append_singleton log e ih =>
      rw [live_concat] at h
      split at h
      · cases h
      · rcases Bool.or_eq_true_iff.mp h with hlive | hacquires
        · obtain ⟨e', he', hacquires⟩ := ih hlive
          exact ⟨e', by simp [he'], hacquires⟩
        · exact ⟨e, by simp, hacquires⟩

/-! ## Acquired and released in turn -/

/-- The acquisitions (`true`) and releases (`false`) of `k`, in order. -/
def turns (acquires releases : ε → κ → Bool) (log : List ε) (k : κ) : List Bool :=
  log.filterMap fun e =>
    if releases e k then some false else if acquires e k then some true else none

/-- Acquisitions and releases of `k` strictly alternate, and an acquisition comes first. -/
def Alternates (acquires releases : ε → κ → Bool) (log : List ε) (k : κ) : Prop :=
  (false :: turns acquires releases log k).IsChain (· ≠ ·)

theorem turns_concat (log : List ε) (e : ε) (k : κ) :
    turns acquires releases (log ++ [e]) k
      = turns acquires releases log k
        ++ if releases e k then [false] else if acquires e k then [true] else [] := by
  unfold turns
  rw [List.filterMap_append]
  cases hr : releases e k with
  | true => simp [hr]
  | false => cases ha : acquires e k <;> simp [hr, ha]

/-- The last turn tells whether `k` is live. -/
theorem live_eq_getLastD (log : List ε) (k : κ) :
    live acquires releases log k = (turns acquires releases log k).getLastD false := by
  induction log using List.reverseRecOn with
  | nil => rfl
  | append_singleton log e ih =>
      rw [live_concat, ih, turns_concat]
      cases releases e k with
      | true => simp
      | false => cases acquires e k <;> simp

theorem alternates_nil (k : κ) : Alternates acquires releases [] k := List.isChain_singleton _

/-- One more turn has to be another one than the last. -/
theorem isChain_concat_iff (bs : List Bool) (b : Bool) :
    (false :: (bs ++ [b])).IsChain (· ≠ ·)
      ↔ (false :: bs).IsChain (· ≠ ·) ∧ bs.getLastD false ≠ b := by
  rw [← List.cons_append, List.isChain_append]
  simp [List.getLast?_cons]

/-- An acquisition needs `k` free, and a release needs it live. -/
theorem alternates_concat_iff (log : List ε) (e : ε) (k : κ) :
    Alternates acquires releases (log ++ [e]) k
      ↔ Alternates acquires releases log k
        ∧ (releases e k = true → live acquires releases log k = true)
        ∧ (releases e k = false → acquires e k = true →
          live acquires releases log k = false) := by
  unfold Alternates
  rw [live_eq_getLastD, turns_concat]
  cases releases e k with
  | true => simp [isChain_concat_iff]
  | false => cases acquires e k <;> simp [isChain_concat_iff]

/-! ## Entries and what came before them -/

/-- Every entry of the log is related by `P` to the entries before it. -/
def EachEntry (P : List ε → ε → Prop) (log : List ε) : Prop :=
  ∀ xs x ys, log = xs ++ x :: ys → P xs x

theorem eachEntry_nil (P : List ε → ε → Prop) : EachEntry P [] := by
  intro xs x ys h
  cases xs <;> cases h

/-- What one more entry asks for. -/
theorem EachEntry.concat {P : List ε → ε → Prop} {log : List ε} (h : EachEntry P log) {e : ε}
    (he : P log e) : EachEntry P (log ++ [e]) := by
  intro xs x ys heq
  rcases List.eq_nil_or_concat ys with rfl | ⟨ys, y, rfl⟩
  · obtain ⟨rfl, hx⟩ := List.append_inj' heq rfl
    exact (List.singleton_inj.mp hx) ▸ he
  · rw [List.concat_eq_append, ← List.cons_append, ← List.append_assoc] at heq
    exact h xs x ys (List.append_inj' heq rfl).1

/-- What more entries ask for: each is right after the log and the new entries before it. -/
theorem EachEntry.append_of_split {P : List ε → ε → Prop} {log es : List ε}
    (h : EachEntry P log) (hes : ∀ xs e ys, es = xs ++ e :: ys → P (log ++ xs) e) :
    EachEntry P (log ++ es) := by
  induction es generalizing log with
  | nil => rwa [List.append_nil]
  | cons e es ih =>
      rw [List.append_cons]
      have he : P log e := by simpa using hes [] e es rfl
      refine ih (h.concat he) ?_
      intro xs e' ys heq
      have hlater := hes (e :: xs) e' ys (by rw [heq, List.cons_append])
      rwa [List.append_cons] at hlater

/-- Entries that are right after any log. -/
theorem EachEntry.append {P : List ε → ε → Prop} {log es : List ε} (h : EachEntry P log)
    (hes : ∀ e ∈ es, ∀ before, P before e) : EachEntry P (log ++ es) := by
  refine h.append_of_split fun xs e ys heq => hes e ?_ _
  rw [heq]
  exact List.mem_append_right xs List.mem_cons_self

/-! ## The last acquirer -/

@[simp] theorem lastBy_nil (k : κ) : lastBy party [] k = none := rfl

/-- The last event decides when it acquires `k`. -/
theorem lastBy_concat (log : List ε) (e : ε) (k : κ) :
    lastBy party (log ++ [e]) k = (party e k <|> lastBy party log k) := by
  rw [lastBy, List.foldl_concat]
  rfl

/-- The later part of a log decides when it acquires `k`. -/
theorem lastBy_append (log es : List ε) (k : κ) :
    lastBy party (log ++ es) k = (lastBy party es k <|> lastBy party log k) := by
  induction es using List.reverseRecOn with
  | nil =>
      rw [List.append_nil]
      rfl
  | append_singleton es e ih =>
      rw [← List.append_assoc, lastBy_concat, lastBy_concat, ih]
      cases party e k <;> rfl

theorem lastBy_cons (e : ε) (es : List ε) (k : κ) :
    lastBy party (e :: es) k = (lastBy party es k <|> party e k) := by
  have hsingle : lastBy party [e] k = party e k := by
    rw [← List.nil_append [e], lastBy_concat]
    cases party e k <;> rfl
  rw [← List.singleton_append, lastBy_append, hsingle]

/-- Events that acquire other keys name no party. -/
theorem lastBy_eq_none {es : List ε} {k : κ} (h : ∀ e ∈ es, party e k = none) :
    lastBy party es k = none := by
  induction es with
  | nil => rfl
  | cons e es ih =>
      rw [lastBy_cons, h e List.mem_cons_self, ih fun e' he' => h e' (List.mem_cons_of_mem _ he')]
      rfl

/-- Events that acquire other keys change nothing. -/
theorem lastBy_append_of_unrelated {log es : List ε} {k : κ}
    (h : ∀ e ∈ es, party e k = none) : lastBy party (log ++ es) k = lastBy party log k := by
  rw [lastBy_append, lastBy_eq_none h]
  rfl

/-- A party that acquired `k` did so in some event. -/
theorem exists_of_lastBy {log : List ε} {k : κ} {w : ι} (h : lastBy party log k = some w) :
    ∃ e ∈ log, party e k = some w := by
  induction log using List.reverseRecOn with
  | nil => cases h
  | append_singleton log e ih =>
      rw [lastBy_concat] at h
      cases he : party e k with
      | some v =>
          rw [he] at h
          exact ⟨e, by simp, he.trans h⟩
      | none =>
          rw [he] at h
          obtain ⟨e', he', hparty⟩ := ih h
          exact ⟨e', by simp [he'], hparty⟩

/-! ## The first acquirer since the last release -/

/-- The party of the first event that acquires `k` after the last one that releases it. -/
def firstBy (party : ε → κ → Option ι) (releases : ε → κ → Bool) (log : List ε) (k : κ) :
    Option ι :=
  (log.rtakeWhile fun e => !releases e k).findSome? fun e => party e k

@[simp] theorem firstBy_nil (k : κ) : firstBy party releases [] k = none := rfl

/-- A release starts afresh, and a party that is there already stays. -/
theorem firstBy_concat (log : List ε) (e : ε) (k : κ) :
    firstBy party releases (log ++ [e]) k
      = if releases e k then none else (firstBy party releases log k <|> party e k) := by
  unfold firstBy
  cases hr : releases e k with
  | true =>
      rw [List.rtakeWhile_concat_neg _ _ _ (by simp [hr])]
      rfl
  | false =>
      rw [List.rtakeWhile_concat_pos _ _ _ (by simp [hr]), List.findSome?_append]
      simp

end Ledger
