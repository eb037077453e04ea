/-
# Byte buffers and little-endian words

Memory as C++ code sees it when it builds or parses a message.

* `Cells` is a freshly allocated buffer: a cell holds `none` until it is written.
  `write`, `memcpy` and `copyLoop` write cells with their bounds checked, `contents`
  reads the whole buffer back and fails on a cell nobody wrote.
* `readByte` and `readRange` read an initialised byte string with their bounds checked.
* `leBytes w n` are the `w` little-endian bytes of `n`, `leValue` reads them back.

The proofs about writers go through `filled bs n`: the buffer whose first cells hold `bs`
and whose last `n` cells are untouched.  Every writer takes a `filled` buffer to a
`filled` buffer, so a chain of writers is evaluated by rewriting.
-/
import KbNetworking.Lib.Checked

namespace Cpp

/-! ## Reading -/

/-- `data[i]`. -/
def readByte (data : List UInt8) (i : ℕ) : Checked UInt8 :=
  match data[i]? with
  | some b => .ok b
  | none => .error .outOfBounds

/-- The `n` bytes from offset `i`. -/
def readRange (data : List UInt8) (i n : ℕ) : Checked (List UInt8) :=
  if i + n ≤ data.length then .ok ((data.drop i).take n) else .error .outOfBounds

theorem readByte_of_lt {data : List UInt8} {i : ℕ} (h : i < data.length) :
    readByte data i = .ok data[i] := by
  simp [readByte, List.getElem?_eq_getElem h]

theorem readRange_of_le {data : List UInt8} {i n : ℕ} (h : i + n ≤ data.length) :
    readRange data i n = .ok ((data.drop i).take n) := if_pos h

/-- Reading everything after an offset. -/
theorem readRange_rest {data : List UInt8} {i : ℕ} (h : i ≤ data.length) :
    readRange data i (data.length - i) = .ok (data.drop i) := by
  rw [readRange_of_le (by omega), List.take_of_length_le (by simp)]

/-! ## Writing -/

/-- An allocated buffer; `none` is a cell that was never written. -/
abbrev Cells := List (Option UInt8)

/-- `new u8[n]`. -/
def allocate (n : ℕ) : Cells := List.replicate n none

/-- `buffer[i] = b`. -/
def write (buffer : Cells) (i : ℕ) (b : UInt8) : Checked Cells :=
  if i < buffer.length then .ok (buffer.set i (some b)) else .error .outOfBounds

/-- `std::memcpy(buffer + i, bytes, bytes.size())`. -/
def memcpy (buffer : Cells) (i : ℕ) : List UInt8 → Checked Cells
  | [] => .ok buffer
  | b :: bs => do
      let buffer ← write buffer i b
      memcpy buffer (i + 1) bs

/-- `for (; todo > 0; ++i, --todo) buffer[offset + i] = src[i];` -/
def copyLoop (src : List UInt8) (offset : ℕ) : ℕ → ℕ → Cells → Checked Cells
  | _, 0, buffer => .ok buffer
  | i, todo + 1, buffer => do
      let b ← readByte src i
      let buffer ← write buffer (offset + i) b
      copyLoop src offset (i + 1) todo buffer

/-- The bytes of a buffer all of whose cells were written. -/
def contents : Cells → Checked (List UInt8)
  | [] => .ok []
  | none :: _ => .error .uninitialised
  | some b :: cells => do
      let bs ← contents cells
      return b :: bs

/-- The buffer whose first cells hold `bs` and whose last `n` cells are untouched. -/
def filled (bs : List UInt8) (n : ℕ) : Cells := bs.map some ++ List.replicate n none

theorem allocate_eq_filled (n : ℕ) : allocate n = filled [] n := rfl

/-- Writing the first untouched cell. -/
theorem write_filled (bs : List UInt8) (n : ℕ) (b : UInt8) :
    write (filled bs (n + 1)) bs.length b = .ok (filled (bs ++ [b]) n) := by
  have hlt : bs.length < (filled bs (n + 1)).length := by
    simp [filled]
  rw [write, if_pos hlt]
  simp [filled, List.replicate_succ]

/-- A block copy to the first untouched cell. -/
theorem memcpy_filled (src bs : List UInt8) (n : ℕ) :
    memcpy (filled bs (src.length + n)) bs.length src = .ok (filled (bs ++ src) n) := by
  induction src generalizing bs with
  | nil => simp [memcpy]
  | cons b src ih =>
      have hlen : (b :: src).length + n = (src.length + n) + 1 := by
        simp only [List.length_cons]
        omega
      have hnext := ih (bs ++ [b])
      simp only [List.length_append, List.length_singleton, List.append_assoc,
        List.singleton_append] at hnext
      rw [hlen, memcpy, write_filled, ok_bind, hnext]

/-- A copy loop that has moved the first `i` bytes of `src` moves the rest. -/
theorem copyLoop_filled (src bs : List UInt8) (offset i todo n : ℕ)
    (hi : i + todo = src.length) (hbs : bs.length = offset + i) :
    copyLoop src offset i todo (filled bs (todo + n))
      = .ok (filled (bs ++ src.drop i) n) := by
  induction todo generalizing i bs with
  | zero =>
      have hnil : src.drop i = [] := List.drop_of_length_le (by omega)
      simp [copyLoop, hnil]
  | succ todo ih =>
      have hlt : i < src.length := by omega
      have hdrop : src.drop i = src[i] :: src.drop (i + 1) := List.drop_eq_getElem_cons hlt
      have hnext := ih (bs ++ [src[i]]) (i + 1) (by omega)
        (by simp only [List.length_append, List.length_singleton]; omega)
      rw [copyLoop, readByte_of_lt hlt, ok_bind, ← hbs,
        show todo + 1 + n = (todo + n) + 1 by omega, write_filled, ok_bind, hnext, hdrop]
      simp

/-- A buffer without untouched cells reads back as what was written. -/
theorem contents_filled (bs : List UInt8) : contents (filled bs 0) = .ok bs := by
  induction bs with
  | nil => rfl
  | cons b bs ih =>
      simp only [filled, List.replicate_zero, List.append_nil, List.map_cons, contents] at ih ⊢
      rw [ih]
      rfl

/-! ## Little-endian words -/

/-- The `w` little-endian bytes of `n`. -/
def leBytes : ℕ → ℕ → List UInt8
  | 0, _ => []
  | w + 1, n => UInt8.ofNat n :: leBytes w (n / 256)

/-- The number whose little-endian bytes are given. -/
def leValue (bs : List UInt8) : ℕ :=
  bs.foldr (fun b acc => b.toNat + 256 * acc) 0

@[simp] theorem length_leBytes (w n : ℕ) : (leBytes w n).length = w := by
  induction w generalizing n with
  | zero => rfl
  | succ w ih => simp [leBytes, ih]

theorem leValue_cons (b : UInt8) (bs : List UInt8) :
    leValue (b :: bs) = b.toNat + 256 * leValue bs := rfl

/-- Reading back `w` bytes keeps the low `8 * w` bits. -/
theorem leValue_leBytes (w n : ℕ) : leValue (leBytes w n) = n % 256 ^ w := by
  induction w generalizing n with
  | zero => simp [leBytes, leValue, Nat.mod_one]
  | succ w ih =>
      rw [leBytes, leValue_cons, ih, pow_succ', Nat.mod_mul, UInt8.toNat_ofNat']

/-- A value read from `w` bytes fits in `w` bytes. -/
theorem leValue_lt (bs : List UInt8) : leValue bs < 256 ^ bs.length := by
  induction bs with
  | nil => simp [leValue]
  | cons b bs ih =>
      have hb : b.toNat < 256 := b.toNat_lt
      rw [leValue_cons, List.length_cons, pow_succ']
      omega

/-- Writing back what was read gives the same bytes. -/
theorem leBytes_leValue (bs : List UInt8) : leBytes bs.length (leValue bs) = bs := by
  induction bs with
  | nil => rfl
  | cons b bs ih =>
      have hb : b.toNat < 256 := b.toNat_lt
      have hlow : UInt8.ofNat (b.toNat + 256 * leValue bs) = b := by
        apply UInt8.toNat_inj.mp
        rw [UInt8.toNat_ofNat']
        omega
      have hhigh : (b.toNat + 256 * leValue bs) / 256 = leValue bs := by omega
      rw [List.length_cons, leBytes, leValue_cons, hlow, hhigh, ih]

end Cpp
