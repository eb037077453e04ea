/-
# Checked execution

A computation that may run into behaviour a C++ program must not reach: a read or
write outside an object, a read of a cell nobody wrote, a failed assertion, a call of
`std::terminate`, a call on an object that is gone.  Such a computation is an
`Except Fault`, so "the program is safe here" is the statement that it returns `ok`.

* `Thread` is a `std::thread` as its owner sees it: all that assignment and destruction
  look at is whether it is joinable.
* `sizeSub` is subtraction of `size_t` values, which wraps below zero.
-/
import Mathlib

universe u

namespace Cpp

/-- What a C++ program must not run into. -/
inductive Fault : Type where
  | outOfBounds
  | uninitialised
  | assertion
  | terminate
  | useAfterFree
  deriving DecidableEq, Repr

/-- A computation that returns a value or stops at a fault. -/
abbrev Checked (α : Type*) := Except Fault α

@[simp] theorem ok_bind {α β : Type u} (a : α) (f : α → Checked β) :
    ((Except.ok a : Checked α) >>= f) = f a := rfl

@[simp] theorem error_bind {α β : Type u} (e : Fault) (f : α → Checked β) :
    ((Except.error e : Checked α) >>= f) = Except.error e := rfl

@[simp] theorem pure_eq_ok {α : Type*} (a : α) : (pure a : Checked α) = Except.ok a := rfl

/-- A sequence returns when both its parts do. -/
theorem bind_eq_ok {α β : Type u} {x : Checked α} {f : α → Checked β} {b : β} :
    (x >>= f) = .ok b ↔ ∃ a, x = .ok a ∧ f a = .ok b := by
  cases x with
  | error e => simp
  | ok a => simp

/-- A sequence stops in its first part, or in its second. -/
theorem bind_eq_error {α β : Type u} {x : Checked α} {f : α → Checked β} {e : Fault} :
    (x >>= f) = .error e ↔ x = .error e ∨ ∃ a, x = .ok a ∧ f a = .error e := by
  cases x with
  | error e' => simp
  | ok a => simp

/-- A result that is only passed on. -/
theorem map_eq_ok {α β : Type u} {x : Checked α} {f : α → β} {b : β} :
    x.map f = .ok b ↔ ∃ a, x = .ok a ∧ f a = b := by
  cases x with
  | error e => simp [Except.map]
  | ok a => simp [Except.map]

/-- A result that is looked at only when there is one. -/
theorem toOption_eq_some {α : Type u} {x : Checked α} {a : α} :
    x.toOption = some a ↔ x = .ok a := by
  cases x with
  | error e => simp [Except.toOption]
  | ok b => simp [Except.toOption]

/-- An assertion macro: it stops the program when its condition fails. -/
def assertThat (b : Bool) : Checked Unit :=
  if b then .ok () else .error .assertion

@[simp] theorem assertThat_true : assertThat true = .ok () := rfl

/-- The `size_t` difference of two sizes, which wraps around `2 ^ 64` below zero. -/
def sizeSub (a b : ℕ) : ℕ :=
  if b ≤ a then a - b else a + 2 ^ 64 - b

theorem sizeSub_of_le {a b : ℕ} (h : b ≤ a) : sizeSub a b = a - b := if_pos h

/-! ## Threads -/

/-- A `std::thread` object as its owner sees it. -/
structure Thread where
  joinable : Bool := false
  deriving DecidableEq, Repr

namespace Thread

/-- Move assignment of a freshly started thread; on a joinable thread it calls
`std::terminate`. -/
def assign (t : Thread) : Checked Thread :=
  if t.joinable then .error .terminate else .ok { joinable := true }

/-- `if (t.joinable()) t.join();` leaves the object without a thread. -/
def joinIfJoinable (t : Thread) : Thread :=
  if t.joinable then { joinable := false } else t

/-- Destruction; on a joinable thread it calls `std::terminate`. -/
def destroy (t : Thread) : Checked Unit :=
  if t.joinable then .error .terminate else .ok ()

@[simp] theorem joinable_joinIfJoinable (t : Thread) : t.joinIfJoinable.joinable = false := by
  unfold joinIfJoinable
  split <;> simp_all

theorem assign_of_not_joinable {t : Thread} (h : t.joinable = false) :
    t.assign = .ok { joinable := true } := by
  simp [assign, h]

theorem assign_of_joinable {t : Thread} (h : t.joinable = true) :
    t.assign = .error .terminate := by
  simp [assign, h]

theorem destroy_of_not_joinable {t : Thread} (h : t.joinable = false) :
    t.destroy = .ok () := by
  simp [destroy, h]

theorem destroy_of_joinable {t : Thread} (h : t.joinable = true) :
    t.destroy = .error .terminate := by
  simp [destroy, h]

end Thread

end Cpp
