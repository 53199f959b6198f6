import Mathlib.Data.ZMod.Basic
import Mathlib.GroupTheory.OrderOfElement
import Mathlib.Data.ZMod.QuotientGroup
import MeshCosi.Foundation.Bytes

/-!
# What the program relies on in `edwards25519` and `crypto/sha512`

The point arithmetic is a parameter: a commutative group with a base point, an
encoding of points as 32 bytes and a partial decoding.  `Primitives.Lawful`
states what is relied on besides the group laws.  The scalar functions are
fixed by their documentation in the package: `ScReduce` is `s mod l`,
`ScMulAdd` is `(ab + c) mod l`, and the scalar multiplications take the
little-endian value of their arguments.  SHA-512 is an arbitrary function to
64 bytes.
-/

namespace MeshCosi

open Foundation

/-- The order of the base point. -/
def l : ℕ := 2 ^ 252 + 27742317777372353535851937790883648493

/-- Points, their encoding, and the hash function. -/
structure Primitives (G : Type) [AddCommGroup G] where
  base : G
  toBytes : G → Block 32
  fromBytes : Block 32 → Option G
  sha512 : Bytes → Block 64

/-- The assumptions on the curve beyond the group laws. -/
structure Primitives.Lawful {G : Type} [AddCommGroup G] (P : Primitives G) : Prop where
  addOrderOf_base : addOrderOf P.base = l
  fromBytes_toBytes : ∀ A, P.fromBytes (P.toBytes A) = some A

/-! ## Scalars -/

/-- `ScReduce`: a 64-byte number modulo `l`. -/
def scReduce (s : Block 64) : Block 32 := Block.ofNat 32 (s.toNat % l)

/-- `ScMulAdd`: `(ab + c) mod l`. -/
def scMulAdd (a b c : Block 32) : Block 32 := Block.ofNat 32 ((a.toNat * b.toNat + c.toNat) % l)

theorem l_pos : 0 < l := by norm_num [l]

theorem l_lt_two_pow : l < 2 ^ 253 := by norm_num [l]

theorem mod_l_lt (n : ℕ) : n % l < 256 ^ 32 :=
  (Nat.mod_lt n l_pos).trans (l_lt_two_pow.trans (by norm_num))

@[simp] theorem toNat_scMulAdd (a b c : Block 32) :
    (scMulAdd a b c).toNat = (a.toNat * b.toNat + c.toNat) % l :=
  Block.ofNat_toNat_of_lt (mod_l_lt _)

/-- The three top bits of a byte below 32 are clear. -/
private theorem and_224_eq_zero : ∀ b < 32, UInt8.ofNat b &&& 224 = 0 := by
  decide

/-- A reduced scalar has the three top bits of its last byte clear. -/
theorem top_bits_ofNat_mod_l (n : ℕ) :
    ((Block.ofNat 32 (n % l)).toList.getD 31 0) &&& 224 = 0 := by
  have hlt : n % l / 256 ^ 31 < 32 := by
    apply Nat.div_lt_of_lt_mul
    exact (Nat.mod_lt n l_pos).trans (l_lt_two_pow.trans_le (by norm_num))
  rw [List.getD_eq_getElem?_getD, Block.toList_ofNat, getElem?_leBytes _ (by norm_num)]
  exact and_224_eq_zero (n % l / 256 ^ 31) hlt

/-! ## Points -/

namespace Primitives

variable {G : Type} [AddCommGroup G] (P : Primitives G)

/-- `GeScalarMultBase`: `a` times the base point. -/
def geScalarMultBase (a : Block 32) : G := a.toNat • P.base

/-- `GeDoubleScalarMultVartime`: `a * A + b * B` with `B` the base point. -/
def geDoubleScalarMultVartime (a : Block 32) (A : G) (b : Block 32) : G :=
  a.toNat • A + b.toNat • P.base

/-- The point a byte string encodes: defined for some strings of exactly 32 bytes. -/
def decode (bytes : Bytes) : Option G :=
  if h : bytes.length = 32 then P.fromBytes ⟨bytes, h⟩ else none

/-- The points a list of byte strings encodes, if all of them decode. -/
def decodeAll (list : List Bytes) : Option (List G) := list.mapM P.decode

/-- The sum of the points a list of byte strings encodes, if all of them decode. -/
def decodeSum (list : List Bytes) : Option G := (P.decodeAll list).map List.sum

theorem decode_of_block (block : Block 32) : P.decode block.toList = P.fromBytes block := by
  rw [decode, dif_pos block.toList_length]
  rfl

theorem decode_eq_none_of_length {bytes : Bytes} (h : bytes.length ≠ 32) :
    P.decode bytes = none := dif_neg h

theorem length_of_decode {bytes : Bytes} {A : G} (h : P.decode bytes = some A) :
    bytes.length = 32 := by
  by_contra hne
  rw [P.decode_eq_none_of_length hne] at h
  simp at h

@[simp] theorem decodeAll_nil : P.decodeAll [] = some [] := rfl

theorem decodeAll_cons (bytes : Bytes) (list : List Bytes) :
    P.decodeAll (bytes :: list) =
      (P.decode bytes).bind fun A => (P.decodeAll list).map (A :: ·) := by
  simp only [decodeAll, List.mapM_cons]
  cases P.decode bytes <;> cases list.mapM P.decode <;> rfl

/-- A list decodes exactly when each of its entries does. -/
theorem decodeAll_isSome {list : List Bytes} :
    (P.decodeAll list).isSome ↔ ∀ bytes ∈ list, (P.decode bytes).isSome := by
  induction list with
  | nil => simp
  | cons bytes list ih =>
      rw [List.forall_mem_cons, ← ih, decodeAll_cons]
      cases P.decode bytes <;> cases P.decodeAll list <;> simp

theorem decodeAll_map {ι : Type*} {list : List ι} {f : ι → Bytes} {g : ι → G}
    (h : ∀ i ∈ list, P.decode (f i) = some (g i)) :
    P.decodeAll (list.map f) = some (list.map g) := by
  induction list with
  | nil => rfl
  | cons i list ih =>
      rw [List.forall_mem_cons] at h
      rw [List.map_cons, decodeAll_cons, h.1, ih h.2]
      rfl

/-- Each point comes from its own string. -/
theorem eq_map_of_decodeAll {list : List Bytes} {points : List G}
    (h : P.decodeAll list = some points) :
    points = list.map fun bytes => (P.decode bytes).getD 0 := by
  induction list generalizing points with
  | nil =>
      obtain rfl : [] = points := by simpa using h
      rfl
  | cons bytes list ih =>
      rw [decodeAll_cons, Option.bind_eq_some_iff] at h
      obtain ⟨A, hA, h⟩ := h
      obtain ⟨rest, hrest, rfl⟩ := Option.map_eq_some_iff.1 h
      rw [List.map_cons, hA, Option.getD_some, ← ih hrest]

theorem length_of_decodeAll {list : List Bytes} {points : List G}
    (h : P.decodeAll list = some points) : points.length = list.length := by
  rw [P.eq_map_of_decodeAll h, List.length_map]

/-- Only strings of 32 bytes decode. -/
theorem length_eq_of_decodeAll {list : List Bytes} {points : List G}
    (h : P.decodeAll list = some points) : ∀ bytes ∈ list, bytes.length = 32 := by
  have hall : ∀ bytes ∈ list, (P.decode bytes).isSome := by
    rw [← P.decodeAll_isSome, h, Option.isSome_some]
  intro bytes hbytes
  obtain ⟨A, hA⟩ := Option.isSome_iff_exists.1 (hall bytes hbytes)
  exact P.length_of_decode hA

@[simp] theorem decodeSum_nil : P.decodeSum [] = some 0 := rfl

theorem decodeSum_cons (bytes : Bytes) (list : List Bytes) :
    P.decodeSum (bytes :: list) =
      (P.decode bytes).bind fun A => (P.decodeSum list).map (A + ·) := by
  rw [decodeSum, decodeAll_cons, decodeSum]
  cases P.decode bytes <;> cases P.decodeAll list <;> simp

theorem decodeSum_isSome {list : List Bytes} :
    (P.decodeSum list).isSome ↔ ∀ bytes ∈ list, (P.decode bytes).isSome := by
  rw [decodeSum, Option.isSome_map, decodeAll_isSome]

theorem decodeSum_map {ι : Type*} {list : List ι} {f : ι → Bytes} {g : ι → G}
    (h : ∀ i ∈ list, P.decode (f i) = some (g i)) :
    P.decodeSum (list.map f) = some (list.map g).sum := by
  rw [decodeSum, P.decodeAll_map h]
  rfl

/-- The order of the strings does not matter, whether or not all of them decode. -/
theorem decodeSum_perm {list list' : List Bytes} (h : list.Perm list') :
    P.decodeSum list = P.decodeSum list' := by
  induction h with
  | nil => rfl
  | cons bytes _ ih => rw [decodeSum_cons, decodeSum_cons, ih]
  | swap first second list =>
      simp only [decodeSum_cons]
      cases P.decode first <;> cases P.decode second <;> cases P.decodeSum list <;>
        simp [add_left_comm]
  | trans _ _ ihfirst ihsecond => exact ihfirst.trans ihsecond

variable {P}

theorem Lawful.decode_toBytes (hP : P.Lawful) (A : G) :
    P.decode (P.toBytes A).toList = some A := by
  rw [decode_of_block, hP.fromBytes_toBytes]

/-- Multiples of the base point only depend on the scalar modulo `l`. -/
theorem Lawful.mod_nsmul_base (hP : P.Lawful) (n : ℕ) : (n % l) • P.base = n • P.base := by
  rw [← hP.addOrderOf_base]
  exact mod_addOrderOf_nsmul P.base n

/-- The bytes of a reduced scalar stand for the scalar. -/
theorem Lawful.leNat_ofNat_mod_nsmul_base (hP : P.Lawful) (n : ℕ) :
    leNat (Block.ofNat 32 (n % l)).toList • P.base = n • P.base := by
  rw [← hP.mod_nsmul_base n]
  exact congrArg (· • P.base) (Block.ofNat_toNat_of_lt (mod_l_lt n))

end Primitives

/-! ## The assumptions are consistent -/

/-- Eight less than what the 32 bytes of the curve's base point encode. -/
def encodingOffset : ℕ := 0x6666666666666666666666666666666666666666666666666666666666666650

/-- A lawful instance: the cyclic group of order `8 l` with the base point of
order `l`.  The encodings are numbered so that the base point has the bytes that
it has on the curve. -/
def cyclicPrimitives : Primitives (ZMod (8 * l)) where
  base := ((8 : ℕ) : ZMod (8 * l))
  toBytes A := Block.ofNat 32 (encodingOffset + A.val)
  fromBytes block :=
    if encodingOffset ≤ block.toNat ∧ block.toNat < encodingOffset + 8 * l then
      some ((block.toNat - encodingOffset : ℕ) : ZMod (8 * l))
    else none
  sha512 bytes := Block.ofNat 64 (leNat bytes)

instance : NeZero (8 * l) := ⟨by norm_num [l]⟩

theorem cyclicPrimitives_lawful : cyclicPrimitives.Lawful where
  addOrderOf_base := by
    change addOrderOf ((8 : ℕ) : ZMod (8 * l)) = l
    rw [ZMod.addOrderOf_coe 8 (NeZero.ne _), Nat.gcd_eq_right (Nat.dvd_mul_right 8 l),
      Nat.mul_div_cancel_left l (by norm_num)]
  fromBytes_toBytes A := by
    have hval : encodingOffset + A.val < encodingOffset + 8 * l :=
      Nat.add_lt_add_left (ZMod.val_lt A) _
    have hblock : (Block.ofNat 32 (encodingOffset + A.val)).toNat = encodingOffset + A.val :=
      Block.ofNat_toNat_of_lt (hval.trans (by norm_num [l, encodingOffset]))
    simp only [cyclicPrimitives, hblock, Nat.le_add_right, hval, and_self, if_true,
      Nat.add_sub_cancel_left, ZMod.natCast_val, ZMod.cast_id', id]

/-- A number that is too large encodes no point. -/
theorem cyclicPrimitives_decode_eq_none {bytes : Bytes} (h : encodingOffset + 8 * l ≤ leNat bytes) :
    cyclicPrimitives.decode bytes = none := by
  unfold Primitives.decode
  split_ifs with hlength
  · have hlarge : ¬ Block.toNat ⟨bytes, hlength⟩ < encodingOffset + 8 * l := Nat.not_lt.2 h
    simp only [cyclicPrimitives, hlarge, and_false, if_false]
  · rfl

example : (cyclicPrimitives.toBytes cyclicPrimitives.base).toList =
    0x58 :: List.replicate 31 0x66 := by
  decide +kernel

end MeshCosi
