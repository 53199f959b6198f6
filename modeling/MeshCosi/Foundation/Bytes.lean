import Mathlib.Data.Vector.Basic
import Mathlib.Data.Nat.Digits.Defs
import Mathlib.Tactic.Ring

/-!
# Byte strings and little-endian numbers

Byte slices are lists and fixed byte arrays are length-indexed vectors.
`leNat` reads a byte string as a little-endian number, `Block.ofNat` writes a
number into a fixed array, and `Block.copyFrom` is Go's `copy` into one.
-/

namespace Foundation

/-- A byte slice. -/
abbrev Bytes := List UInt8

/-- An array of `n` bytes. -/
abbrev Block (n : ℕ) := List.Vector UInt8 n

/-! ## Little-endian numbers -/

/-- `b[0] + 256 * b[1] + ... + 256^(n-1) * b[n-1]`. -/
def leNat (bytes : Bytes) : ℕ := Nat.ofDigits 256 (bytes.map UInt8.toNat)

/-- The `n` low bytes of a number, little-endian. -/
def leBytes : ℕ → ℕ → Bytes
  | 0, _ => []
  | n + 1, v => UInt8.ofNat v :: leBytes n (v / 256)

@[simp] theorem length_leBytes (n v : ℕ) : (leBytes n v).length = n := by
  induction n generalizing v with
  | zero => rfl
  | succ n ih => simp [leBytes, ih]

theorem leNat_leBytes (n v : ℕ) : leNat (leBytes n v) = v % 256 ^ n := by
  induction n generalizing v with
  | zero => simp [leBytes, leNat, Nat.mod_one]
  | succ n ih =>
      have htail : Nat.ofDigits 256 ((leBytes n (v / 256)).map UInt8.toNat) =
          v / 256 % 256 ^ n := ih (v / 256)
      have hhead : (UInt8.ofNat v).toNat = v % 256 := UInt8.toNat_ofNat'
      calc leNat (leBytes (n + 1) v)
          = v % 256 + 256 * (v / 256 % 256 ^ n) := by
            rw [leNat, leBytes, List.map_cons, Nat.ofDigits_cons, htail, hhead]
        _ = v % 256 ^ (n + 1) := by rw [pow_succ' 256 n, Nat.mod_mul]

theorem getElem?_leBytes {n i : ℕ} (v : ℕ) (hi : i < n) :
    (leBytes n v)[i]? = some (UInt8.ofNat (v / 256 ^ i)) := by
  induction n generalizing v i with
  | zero => omega
  | succ n ih =>
      cases i with
      | zero => simp [leBytes]
      | succ i =>
          rw [leBytes, List.getElem?_cons_succ, ih (v / 256) (by omega), Nat.div_div_eq_div_mul,
            pow_succ']

/-! ## Fixed arrays -/

namespace Block

variable {n : ℕ}

/-- The array of zero bytes, Go's initial value. -/
def zero (n : ℕ) : Block n := ⟨List.replicate n 0, by simp⟩

/-- A number as a little-endian array. -/
def ofNat (n v : ℕ) : Block n := ⟨leBytes n v, length_leBytes n v⟩

/-- The number an array holds, little-endian. -/
def toNat (block : Block n) : ℕ := leNat block.toList

/-- Applies an operation to the byte at one index. -/
def modify (block : Block n) (i : ℕ) (f : UInt8 → UInt8) : Block n :=
  ⟨block.toList.modify i f, by simp⟩

/-- `copy(block[:], source)`: overwrites the first `min(n, len(source))` bytes. -/
def copyFrom (block : Block n) (source : Bytes) : Block n :=
  ⟨source.take n ++ block.toList.drop source.length, by
    simp only [List.length_append, List.length_take, List.length_drop, List.Vector.toList_length]
    omega⟩

theorem toNat_ofNat (n v : ℕ) : (ofNat n v).toNat = v % 256 ^ n := leNat_leBytes n v

theorem ofNat_toNat_of_lt {v : ℕ} (h : v < 256 ^ n) : (ofNat n v).toNat = v := by
  rw [toNat_ofNat, Nat.mod_eq_of_lt h]

@[simp] theorem toList_ofNat (n v : ℕ) : (ofNat n v).toList = leBytes n v := rfl

/-- Copying exactly `n` bytes forgets what the array held. -/
theorem copyFrom_of_length_eq (block : Block n) {source : Bytes} (h : source.length = n) :
    block.copyFrom source = ⟨source, h⟩ := by
  apply Subtype.ext
  change source.take n ++ block.toList.drop source.length = source
  rw [h, List.take_of_length_le h.le, List.drop_of_length_le (by simp), List.append_nil]

theorem toList_copyFrom (block : Block n) {source : Bytes} (h : source.length = n) :
    (block.copyFrom source).toList = source := by
  rw [copyFrom_of_length_eq block h]
  rfl

theorem toNat_copyFrom (block : Block n) {source : Bytes} (h : source.length = n) :
    (block.copyFrom source).toNat = leNat source := by
  rw [toNat, toList_copyFrom block h]

/-- Changing a byte before or after copying a prefix of a longer array is the same. -/
theorem copyFrom_modify {m : ℕ} (block : Block n) (source : Block m) (h : n ≤ m) (i : ℕ)
    (f : UInt8 → UInt8) :
    block.copyFrom (source.modify i f).toList = (block.copyFrom source.toList).modify i f := by
  have hdrop : ∀ bytes : Bytes, bytes.length = m → block.toList.drop bytes.length = [] :=
    fun bytes hbytes => List.drop_of_length_le (by simpa [hbytes] using h)
  apply Subtype.ext
  change (source.toList.modify i f).take n ++ block.toList.drop (source.toList.modify i f).length =
    (source.toList.take n ++ block.toList.drop source.toList.length).modify i f
  rw [hdrop _ (by simp), hdrop _ (by simp), List.append_nil, List.append_nil, List.take_modify]

/-- Two changes of one byte are one. -/
theorem modify_modify (block : Block n) (i : ℕ) (f g : UInt8 → UInt8) :
    (block.modify i f).modify i g = block.modify i (g ∘ f) :=
  Subtype.ext (List.modify_modify_eq f g i block.toList)

theorem copyFrom_toList (block other : Block n) : block.copyFrom other.toList = other :=
  copyFrom_of_length_eq block other.toList_length

end Block

end Foundation
