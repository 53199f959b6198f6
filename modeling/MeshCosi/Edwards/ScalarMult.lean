import MeshCosi.Edwards.Encoding
import MeshCosi.Edwards.Recode
import MeshCosi.Edwards.Tables

/-!
# Multiples of the base point

`GeScalarMultBase` adds one entry of the table for each signed digit of the scalar: first
those of the odd positions, then four doublings, then those of the even positions.
`selectPoint` reads the table without a branch on the digit.
-/

namespace MeshCosi.Edwards25519

open Foundation

/-- `equal`. -/
def equal (b c : BitVec 32) : BitVec 32 := ((b ^^^ c) - 1) >>> 31

/-- `negative`. -/
def negative (b : BitVec 32) : BitVec 32 := b.sshiftRight 31 &&& 1

/-- `PreComputedGroupElementCMove`. -/
def preComputedGroupElementCMove (t u : PreComputedGroupElement) (b : BitVec 32) :
    PreComputedGroupElement :=
  ⟨feCMove t.yPlusX u.yPlusX b, feCMove t.yMinusX u.yMinusX b, feCMove t.xy2d u.xy2d b⟩

/-- `selectPoint`. -/
def selectPoint (pos : ℕ) (b : BitVec 32) : PreComputedGroupElement :=
  let bNegative := negative b
  let bAbs := b - ((-bNegative) &&& b) <<< 1
  let t := (List.range 8).foldl (fun t i =>
    preComputedGroupElementCMove t ((base.getD pos []).getD i .zero)
      (equal bAbs (BitVec.ofNat 32 (i + 1)))) .zero
  let minusT : PreComputedGroupElement := ⟨t.yMinusX, t.yPlusX, feNeg t.xy2d⟩
  preComputedGroupElementCMove t minusT bNegative

/-- The loops of `GeScalarMultBase` over the odd and the even positions. -/
def addDigits (e : Limbs 8 64) (parity : ℕ) (h : ExtendedGroupElement) : ExtendedGroupElement :=
  (List.range 32).foldl (fun h k =>
    (geMixedAdd h (selectPoint k ((e.toList.getD (2 * k + parity) 0).signExtend 32))).toExtended) h

/-- The four doublings. -/
def doubleFourTimes (h : ExtendedGroupElement) : ExtendedGroupElement :=
  let s := h.double.toProjective
  let s := s.double.toProjective
  let s := s.double.toProjective
  s.double.toExtended

/-- `GeScalarMultBase`. -/
def geScalarMultBase (a : Block 32) : ExtendedGroupElement :=
  let e := radixSigned a
  addDigits e 0 (doubleFourTimes (addDigits e 1 .zero))

/-! ## Reading the table -/

theorem feCMove_zero (f g : FieldElement) : feCMove f g 0 = f := by
  have hzeros : -(0 : BitVec 32) = 0#32 := by decide
  refine List.Vector.ext fun i => ?_
  rw [feCMove, List.Vector.get_ofFn, hzeros, BitVec.zero_and, BitVec.xor_zero]

theorem feCMove_one (f g : FieldElement) : feCMove f g 1 = g := by
  have hones : -(1 : BitVec 32) = BitVec.allOnes 32 := by decide
  refine List.Vector.ext fun i => ?_
  rw [feCMove, List.Vector.get_ofFn, hones, BitVec.allOnes_and, ← BitVec.xor_assoc,
    BitVec.xor_self, BitVec.zero_xor]

theorem cMove_zero (t u : PreComputedGroupElement) : preComputedGroupElementCMove t u 0 = t := by
  rw [preComputedGroupElementCMove, feCMove_zero, feCMove_zero, feCMove_zero]

theorem cMove_one (t u : PreComputedGroupElement) : preComputedGroupElementCMove t u 1 = u := by
  rw [preComputedGroupElementCMove, feCMove_one, feCMove_one, feCMove_one]

variable {P Q : CurvePoint} {t u : PreComputedGroupElement}

theorem PreComputedGroupElement.Represents.neg (ht : t.Represents P) :
    PreComputedGroupElement.Represents ⟨t.yMinusX, t.yPlusX, feNeg t.xy2d⟩ (-P) := by
  obtain ⟨yPlusX, yMinusX, xy2d, hyPlusX, hyMinusX, hxy2d, hP⟩ := ht
  exact ⟨_, _, _, hyMinusX, hyPlusX, hxy2d.feNeg, hP.neg⟩

theorem equal_eq : ∀ n < 9, ∀ i < 8,
    equal (BitVec.ofNat 32 n) (BitVec.ofNat 32 (i + 1)) = if n = i + 1 then 1 else 0 := by
  decide

/-- The sign and the absolute value of a digit. -/
theorem negative_of_nonneg : ∀ n : ℕ, n < 9 → negative (BitVec.ofInt 32 n) = 0 ∧
    BitVec.ofInt 32 n - ((-negative (BitVec.ofInt 32 n)) &&& BitVec.ofInt 32 n) <<< 1 =
      BitVec.ofNat 32 n := by
  decide

theorem negative_of_neg : ∀ n : ℕ, n < 9 → n ≠ 0 → negative (BitVec.ofInt 32 (-n)) = 1 ∧
    BitVec.ofInt 32 (-n) - ((-negative (BitVec.ofInt 32 (-n))) &&& BitVec.ofInt 32 (-n)) <<< 1 =
      BitVec.ofNat 32 n := by
  decide

/-- The loop of `selectPoint` after `m` entries of the row. -/
theorem select_represents {pos n : ℕ} (hpos : pos < 32) (hn : n < 9) {m : ℕ} (hm : m ≤ 8) :
    ((List.range m).foldl (fun t i =>
      preComputedGroupElementCMove t ((base.getD pos []).getD i .zero)
        (equal (BitVec.ofNat 32 n) (BitVec.ofNat 32 (i + 1)))) .zero).Represents
      ((if n ≤ m then n else 0) • 256 ^ pos • basePoint) := by
  induction m with
  | zero =>
      have hzero : (if n ≤ 0 then n else 0) = 0 := by
        split_ifs <;> omega
      rw [hzero, zero_nsmul]
      exact PreComputedGroupElement.represents_zero
  | succ m ih =>
      have ih := ih (by omega)
      rw [List.range_succ, List.foldl_append, List.foldl_cons, List.foldl_nil, equal_eq n hn m hm]
      split_ifs with hentry hle hle
      · rw [cMove_one, hentry]
        exact base_represents hpos hm
      · omega
      · rw [cMove_zero]
        rwa [if_pos (by omega)] at ih
      · rw [cMove_zero]
        rwa [if_neg (by omega)] at ih

/-- `selectPoint` reads the multiple for a digit between -8 and 8. -/
theorem selectPoint_represents {pos : ℕ} (hpos : pos < 32) {b : ℤ} (hb : -8 ≤ b ∧ b ≤ 8) :
    (selectPoint pos (BitVec.ofInt 32 b)).Represents (b • 256 ^ pos • basePoint) := by
  have hrow : ∀ {n : ℕ}, n < 9 → _ := fun hn => select_represents hpos hn (le_refl 8)
  rcases le_or_gt 0 b with hnonneg | hneg
  · obtain ⟨n, rfl⟩ := Int.eq_ofNat_of_zero_le hnonneg
    have hn : n < 9 := by omega
    have ht := hrow hn
    rw [if_pos (by omega)] at ht
    obtain ⟨hsign, habs⟩ := negative_of_nonneg n hn
    rw [selectPoint]
    simp only [habs]
    rw [hsign, cMove_zero, natCast_zsmul]
    exact ht
  · obtain ⟨n, hnegated⟩ := Int.eq_ofNat_of_zero_le (neg_nonneg.2 hneg.le)
    obtain rfl : b = -(n : ℤ) := by omega
    have hn : n < 9 := by omega
    have ht := hrow hn
    rw [if_pos (by omega)] at ht
    obtain ⟨hsign, habs⟩ := negative_of_neg n hn (by omega)
    rw [selectPoint]
    simp only [habs]
    rw [hsign, cMove_one, neg_zsmul, natCast_zsmul]
    exact ht.neg

/-! ## Adding up -/

/-- The loop over the digits of one parity. -/
theorem addDigits_represents {e : Limbs 8 64} {s : ℕ → ℤ} (he : Holds e s)
    (hs : ∀ j < 64, -8 ≤ s j ∧ s j ≤ 8) {parity : ℕ} (hparity : parity < 2)
    {h : ExtendedGroupElement} (hh : h.Represents P) :
    (addDigits e parity h).Represents
      (P + (∑ k ∈ Finset.range 32, s (2 * k + parity) * 256 ^ k) • basePoint) := by
  have hloop : ∀ n ≤ 32, ((List.range n).foldl (fun h k =>
      (geMixedAdd h (selectPoint k ((e.toList.getD (2 * k + parity) 0).signExtend 32))).toExtended)
        h).Represents (P + (∑ k ∈ Finset.range n, s (2 * k + parity) * 256 ^ k) • basePoint) := by
    intro n hn
    induction n with
    | zero =>
        rw [Finset.sum_range_zero, zero_zsmul, add_zero]
        exact hh
    | succ n ih =>
        have hj : 2 * n + parity < 64 := by omega
        have hdigit := hs _ hj
        have hfits : Fits 8 (s (2 * n + parity)) :=
          Fits.of_le (by decide : Fits 8 (-8)) (by decide : Fits 8 8) hdigit.1 hdigit.2
        have hentry := selectPoint_represents hn hdigit
        rw [← hfits.signExtend_ofInt (by norm_num), ← he.getD hj] at hentry
        have hmul : s (2 * n + parity) • 256 ^ n • basePoint =
            (s (2 * n + parity) * 256 ^ n) • basePoint := by
          rw [mul_smul, ← natCast_zsmul, Nat.cast_pow]
          rfl
        have hnext := (geMixedAdd_represents (ih (Nat.le_of_succ_le hn)) hentry).toExtended
        rw [List.range_succ, List.foldl_append, Finset.sum_range_succ, add_zsmul, ← add_assoc,
          ← hmul]
        exact hnext
  exact hloop 32 le_rfl

theorem doubleFourTimes_represents {h : ExtendedGroupElement} (hh : h.Represents P) :
    (doubleFourTimes h).Represents ((16 : ℤ) • P) := by
  have h16 := hh.double.toProjective.double.toProjective.double.toProjective.double.toExtended
  have hsum : P + P + (P + P) + (P + P + (P + P)) +
      (P + P + (P + P) + (P + P + (P + P))) = (16 : ℤ) • P := by abel
  rwa [hsum] at h16

/-- `GeScalarMultBase` computes the multiple of the base point, for scalars of 255 bits. -/
theorem geScalarMultBase_represents {a : Block 32} (ha : a.toNat < 2 ^ 255) :
    (geScalarMultBase a).Represents (a.toNat • basePoint) := by
  obtain ⟨s, he, hs, hvalue⟩ := radixSigned_spec ha
  have hodd := addDigits_represents he hs one_lt_two ExtendedGroupElement.represents_zero
  have heven := addDigits_represents he hs two_pos (doubleFourTimes_represents hodd)
  have hsum : 16 * (∑ k ∈ Finset.range 32, s (2 * k + 1) * 256 ^ k) +
      ∑ k ∈ Finset.range 32, s (2 * k + 0) * 256 ^ k = a.toNat := by
    rw [← hvalue, sum_range_two_mul (fun j => s j * 16 ^ j) 32, Finset.mul_sum, add_comm]
    refine congrArg₂ (· + ·) (Finset.sum_congr rfl fun k _ => ?_)
      (Finset.sum_congr rfl fun k _ => ?_)
    · rw [add_zero, pow_mul]
      norm_num
    · rw [pow_succ, pow_mul]
      norm_num
      ring
  rw [zero_add, smul_smul, ← add_zsmul, hsum, natCast_zsmul] at heven
  exact heven

end MeshCosi.Edwards25519
