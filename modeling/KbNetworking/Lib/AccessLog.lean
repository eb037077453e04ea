/-
# Logged memory accesses

The buffer functions of `ByteBuffer` once more, with a log of the accesses they make: a write
of a cell of the buffer, a read of a byte of the source.  They are written as the originals
are, on top of the originals.

`Does x a accesses` says that `x` returns `a` and makes the accesses, in this order, whatever
was logged before; `Does.bind` chains two computations.  Each logged function does what its
original does, so a chain of them is evaluated by evaluating the chain of the originals.
-/
import KbNetworking.Lib.ByteBuffer

namespace Cpp

/-- An access to one byte, by its offset. -/
inductive Access : Type where
  | read (i : ℕ)
  | write (i : ℕ)
  deriving DecidableEq, Repr

/-- The offsets written, in order. -/
def Access.writes (accesses : List Access) : List ℕ :=
  accesses.filterMap fun
    | .write i => some i
    | .read _ => none

/-- The offsets read, in order. -/
def Access.reads (accesses : List Access) : List ℕ :=
  accesses.filterMap fun
    | .read i => some i
    | .write _ => none

/-- A computation that logs its accesses. -/
abbrev Logged (α : Type) := StateT (List Access) Checked α

namespace Logged

/-! ## The buffer functions -/

/-- `buffer[i] = b`. -/
def write (buffer : Cells) (i : ℕ) (b : UInt8) : Logged Cells := do
  let buffer ← Cpp.write buffer i b
  modify (· ++ [Access.write i])
  return buffer

/-- `data[i]`. -/
def readByte (data : List UInt8) (i : ℕ) : Logged UInt8 := do
  let b ← Cpp.readByte data i
  modify (· ++ [Access.read i])
  return b

/-- `std::memcpy(buffer + i, bytes, bytes.size())`; of the source nothing is logged. -/
def memcpy (buffer : Cells) (i : ℕ) : List UInt8 → Logged Cells
  | [] => return buffer
  | b :: bs => do
      let buffer ← write buffer i b
      memcpy buffer (i + 1) bs

/-- `for (; todo > 0; ++i, --todo) buffer[offset + i] = src[i];` -/
def copyLoop (src : List UInt8) (offset : ℕ) : ℕ → ℕ → Cells → Logged Cells
  | _, 0, buffer => return buffer
  | i, todo + 1, buffer => do
      let b ← readByte src i
      let buffer ← write buffer (offset + i) b
      copyLoop src offset (i + 1) todo buffer

/-! ## What a logged computation does -/

/-- The computation returns `a` and makes the accesses. -/
def Does {α : Type} (x : Logged α) (a : α) (accesses : List Access) : Prop :=
  ∀ log, x.run log = .ok (a, log ++ accesses)

theorem does_pure {α : Type} (a : α) : Does (pure a) a [] := by
  intro log
  rw [List.append_nil]
  rfl

/-- A sequence makes the accesses of both its parts. -/
theorem Does.bind {α β : Type} {x : Logged α} {f : α → Logged β} {a : α} {b : β}
    {before after : List Access} (hx : Does x a before) (hf : Does (f a) b after) :
    Does (x >>= f) b (before ++ after) := by
  intro log
  rw [StateT.run_bind, hx, ok_bind, hf, List.append_assoc]

/-- A sequence whose second part accesses nothing. -/
theorem Does.bind_pure {α β : Type} {x : Logged α} {f : α → Logged β} {a : α} {b : β}
    {accesses : List Access} (hx : Does x a accesses) (hf : Does (f a) b []) :
    Does (x >>= f) b accesses := by
  have h := hx.bind hf
  rwa [List.append_nil] at h

/-- A computation without accesses. -/
theorem does_lift {α : Type} {x : Checked α} {a : α} (h : x = .ok a) :
    Does (liftM x : Logged α) a [] := by
  intro log
  rw [h, List.append_nil]
  rfl

theorem does_write {buffer buffer' : Cells} {i : ℕ} {b : UInt8}
    (h : Cpp.write buffer i b = .ok buffer') : Does (write buffer i b) buffer' [.write i] := by
  intro log
  unfold write
  rw [h]
  rfl

theorem does_readByte {data : List UInt8} {i : ℕ} {b : UInt8} (h : Cpp.readByte data i = .ok b) :
    Does (readByte data i) b [.read i] := by
  intro log
  unfold readByte
  rw [h]
  rfl

/-- A block copy writes one cell after the other. -/
theorem does_memcpy {bs : List UInt8} {buffer buffer' : Cells} {i : ℕ}
    (h : Cpp.memcpy buffer i bs = .ok buffer') :
    Does (memcpy buffer i bs) buffer' ((List.range' i bs.length).map .write) := by
  induction bs generalizing buffer i with
  | nil =>
      obtain rfl := Except.ok.inj h
      exact does_pure buffer
  | cons b bs ih =>
      obtain ⟨next, hwrite, hrest⟩ := bind_eq_ok.mp h
      exact (does_write hwrite).bind (ih hrest)

/-- A copy loop reads and writes one byte after the other. -/
theorem does_copyLoop {src : List UInt8} {offset i todo : ℕ} {buffer buffer' : Cells}
    (h : Cpp.copyLoop src offset i todo buffer = .ok buffer') :
    Does (copyLoop src offset i todo buffer) buffer'
      ((List.range' i todo).flatMap fun k => [.read k, .write (offset + k)]) := by
  induction todo generalizing i buffer with
  | zero =>
      obtain rfl := Except.ok.inj h
      exact does_pure buffer
  | succ todo ih =>
      obtain ⟨b, hread, hrest⟩ := bind_eq_ok.mp h
      obtain ⟨next, hwrite, hrest⟩ := bind_eq_ok.mp hrest
      exact (does_readByte hread).bind ((does_write hwrite).bind (ih hrest))

end Logged

/-! ## Reading a log -/

namespace Access

@[simp] theorem writes_append (xs ys : List Access) :
    writes (xs ++ ys) = writes xs ++ writes ys := List.filterMap_append ..

@[simp] theorem reads_append (xs ys : List Access) :
    reads (xs ++ ys) = reads xs ++ reads ys := List.filterMap_append ..

theorem writes_map_write (is : List ℕ) : writes (is.map .write) = is := by
  simp [writes, List.filterMap_map]

theorem reads_map_write (is : List ℕ) : reads (is.map .write) = [] := by
  simp [reads, List.filterMap_map]

/-- The accesses of a copy. -/
theorem writes_copy (offset : ℕ) (is : List ℕ) :
    writes (is.flatMap fun k => [.read k, .write (offset + k)]) = is.map (offset + ·) := by
  induction is with
  | nil => rfl
  | cons i is ih =>
      rw [List.flatMap_cons, writes_append, ih, List.map_cons]
      rfl

theorem reads_copy (offset : ℕ) (is : List ℕ) :
    reads (is.flatMap fun k => [.read k, .write (offset + k)]) = is := by
  induction is with
  | nil => rfl
  | cons i is ih =>
      rw [List.flatMap_cons, reads_append, ih]
      rfl

end Access

end Cpp
