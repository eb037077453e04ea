/-
# Shared ownership

`Shared σ` is an object owned through `std::shared_ptr`: the number of its owners and the
object itself, which exists exactly while it has an owner.  The fact is a field, so a shared
object that outlives its owners, or dies before them, cannot be built.

* `copy`: one more owner; it takes an owner to make one.
* `lock`: what a `std::weak_ptr` does; it succeeds exactly while there is an owner.
* `release`: one owner less; the last one takes the object with it.
-/
import Mathlib

namespace Cpp

/-- An object and the number of its owners. -/
structure Shared (σ : Type*) where
  owners : ℕ
  object : Option σ
  alive : object.isSome = true ↔ owners ≠ 0

namespace Shared

variable {σ : Type*}

/-- `make_shared`: one owner. -/
def make (x : σ) : Shared σ where
  owners := 1
  object := some x
  alive := by simp

/-- No object any more. -/
def expired : Shared σ where
  owners := 0
  object := none
  alive := by simp

/-- One more owner, if there is one. -/
def copy (s : Shared σ) : Option (Shared σ) :=
  if h : s.owners ≠ 0 then
    some { owners := s.owners + 1, object := s.object, alive := by simp [s.alive, h] }
  else none

/-- `weak_ptr::lock`. -/
def lock (s : Shared σ) : Option (Shared σ) := s.copy

/-- An owner lets go; the object goes with the last one. -/
def release (s : Shared σ) : Shared σ :=
  if h : s.owners ≤ 1 then expired
  else
    { owners := s.owners - 1
      object := s.object
      alive := by
        rw [s.alive]
        omega }

/-- A member function changes the object. -/
def modify (f : σ → σ) (s : Shared σ) : Shared σ where
  owners := s.owners
  object := s.object.map f
  alive := by rw [Option.isSome_map, s.alive]

/-- There is an object while there is an owner. -/
theorem exists_object {s : Shared σ} (h : s.owners ≠ 0) : ∃ x, s.object = some x :=
  Option.isSome_iff_exists.mp (s.alive.mpr h)

/-- A copy is one more owner of the same object. -/
theorem copy_cases {s s' : Shared σ} (h : s.copy = some s') :
    s.owners ≠ 0 ∧ s'.owners = s.owners + 1 ∧ s'.object = s.object := by
  unfold copy at h
  split at h
  · rename_i howners
    obtain rfl := Option.some.inj h
    exact ⟨howners, rfl, rfl⟩
  · cases h

@[simp] theorem release_owners (s : Shared σ) : s.release.owners = s.owners - 1 := by
  unfold release
  split
  · simp [expired]
    omega
  · rfl

end Shared

end Cpp
