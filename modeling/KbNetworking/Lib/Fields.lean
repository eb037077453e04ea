/-
# Separated fields

A text is a list of symbols; a separator cuts it into fields.

* `readFields sep read text`: every field of the text, each read by `read`; one field that
  cannot be read makes the text unreadable.
* `splitPair sep text`: the text before and after the first two separators in a row.

Both are followed through a text to which one more field is joined with the separator
(`readFields_concat`, `splitPair_append`, `splitPair_concat`).
-/
import Mathlib

namespace Fields

variable {α β : Type*} [DecidableEq α]

/-! ## Reading the fields -/

/-- The fields of `text`, read one by one. -/
def readFields (sep : α) (read : List α → Option β) (text : List α) : Option (List β) :=
  (text.splitOn sep).mapM read

variable {sep : α} {read : List α → Option β} {text field : List α} {vs : List β}

/-- A text without a separator is one field. -/
theorem readFields_of_not_mem (hsep : sep ∉ text) :
    readFields sep read text = (read text).map fun v => [v] := by
  unfold readFields
  rw [List.splitOn_eq_singleton hsep]
  cases htext : read text <;> simp [htext]

/-- One more field at the end is read after all the others. -/
theorem readFields_concat (hsep : sep ∉ field) :
    readFields sep read (text ++ sep :: field)
      = (readFields sep read text).bind fun vs => (read field).map fun v => vs ++ [v] := by
  unfold readFields
  rw [List.splitOn_append_cons_self, List.splitOn_eq_singleton hsep, List.mapM_append]
  cases (text.splitOn sep).mapM read with
  | none => rfl
  | some vs => cases hfield : read field <;> simp [hfield]

/-- The empty text has one field, the empty one. -/
theorem readFields_nil : readFields sep read [] = (read []).map fun v => [v] :=
  readFields_of_not_mem (by simp)

/-- A text has at least one field. -/
theorem ne_nil_of_readFields (htext : readFields sep read text = some vs) : vs ≠ [] := by
  unfold readFields at htext
  intro hnil
  subst hnil
  cases hfields : text.splitOn sep with
  | nil => exact absurd hfields (List.splitOn_ne_nil sep text)
  | cons field fields => simp [hfields, Option.bind_eq_some_iff] at htext

/-- What is known of the symbols of a readable field is known of the symbols of a readable
text, its separators apart. -/
theorem eq_sep_or_of_mem {P : α → Prop}
    (hread : ∀ field v, read field = some v → ∀ c ∈ field, P c)
    (htext : readFields sep read text = some vs) : ∀ c ∈ text, c = sep ∨ P c := by
  have hfields : ∀ (fields : List (List α)) (vs : List β), fields.mapM read = some vs →
      ∀ c ∈ [sep].intercalate fields, c = sep ∨ P c := by
    intro fields
    induction fields with
    | nil => intro vs _ c hc; simp at hc
    | cons field fields ih =>
      intro vs hvs c hc
      simp only [List.mapM_cons, Option.bind_eq_bind, Option.bind_eq_some_iff] at hvs
      obtain ⟨v, hv, ws, hws, -⟩ := hvs
      cases fields with
      | nil =>
        simp only [List.intercalate_singleton] at hc
        exact .inr (hread field v hv c hc)
      | cons next rest =>
        simp only [List.intercalate_cons_cons, List.append_assoc, List.mem_append,
          List.mem_singleton] at hc
        obtain hc | hc | hc := hc
        · exact .inr (hread field v hv c hc)
        · exact .inl hc
        · exact ih ws hws c hc
  have hjoined := hfields _ _ htext
  rwa [List.intercalate_splitOn] at hjoined

/-! ## The first doubled separator -/

/-- The text before and after the first two separators in a row. -/
def splitPair (sep : α) : List α → Option (List α × List α)
  | [] => none
  | [_] => none
  | c :: d :: rest =>
    if c = sep ∧ d = sep then some ([], rest)
    else (splitPair sep (d :: rest)).map fun parts => (c :: parts.1, parts.2)

variable {left right tail : List α}

/-- The two parts and the doubled separator between them are the text. -/
theorem eq_of_splitPair (hpair : splitPair sep text = some (left, right)) :
    text = left ++ sep :: sep :: right := by
  fun_induction splitPair sep text generalizing left right with
  | case1 => cases hpair
  | case2 => cases hpair
  | case3 c d rest hcd =>
    obtain ⟨rfl, rfl⟩ := hcd
    simp only [Option.some.injEq, Prod.mk.injEq] at hpair
    obtain ⟨rfl, rfl⟩ := hpair
    rfl
  | case4 c d rest hcd ih =>
    simp only [Option.map_eq_some_iff, Prod.mk.injEq] at hpair
    obtain ⟨⟨before, after⟩, hparts, rfl, rfl⟩ := hpair
    rw [ih hparts, List.cons_append]

/-- What is joined to the end of a text stands after its first doubled separator. -/
theorem splitPair_append (hpair : splitPair sep text = some (left, right)) :
    splitPair sep (text ++ tail) = some (left, right ++ tail) := by
  fun_induction splitPair sep text generalizing left right with
  | case1 => cases hpair
  | case2 => cases hpair
  | case3 c d rest hcd =>
    simp only [Option.some.injEq, Prod.mk.injEq] at hpair
    obtain ⟨rfl, rfl⟩ := hpair
    simp [splitPair, hcd]
  | case4 c d rest hcd ih =>
    simp only [Option.map_eq_some_iff, Prod.mk.injEq] at hpair
    obtain ⟨⟨before, after⟩, hparts, rfl, rfl⟩ := hpair
    have hrest := ih hparts
    simp only [List.cons_append] at hrest ⊢
    simp [splitPair, hcd, hrest]

/-- Without a separator there is no doubled one. -/
theorem splitPair_of_not_mem (hsep : sep ∉ text) : splitPair sep text = none := by
  cases hpair : splitPair sep text with
  | none => rfl
  | some parts =>
    obtain ⟨left, right⟩ := parts
    refine absurd ?_ hsep
    rw [eq_of_splitPair hpair]
    simp

/-- Joining one more field doubles no separator, unless the text ends in one. -/
theorem splitPair_concat (hpair : splitPair sep text = none) (hlast : text.getLast? ≠ some sep)
    (hfirst : field ≠ []) (hsep : sep ∉ field) :
    splitPair sep (text ++ sep :: field) = none := by
  obtain ⟨first, field', rfl⟩ := List.exists_cons_of_ne_nil hfirst
  have hne : first ≠ sep := fun h => hsep (h ▸ List.mem_cons_self)
  have hjoin : splitPair sep (sep :: first :: field') = none := by
    simp [splitPair, hne, splitPair_of_not_mem hsep]
  fun_induction splitPair sep text with
  | case1 => exact hjoin
  | case2 c =>
    have hc : c ≠ sep := by simpa using hlast
    rw [List.cons_append, List.nil_append, splitPair, hjoin]
    simp [hc]
  | case3 c d rest hcd => cases hpair
  | case4 c d rest hcd ih =>
    have hrest := ih (by simpa using hpair) (by simpa using hlast)
    simp only [List.cons_append] at hrest ⊢
    simp [splitPair, hcd, hrest]

end Fields
