import MeshCosi.Edwards.Lawful
import MeshCosi.Edwards.ScalarMult

/-!
# Two multiples at once

`GeDoubleScalarMultVartime` reads the digits that `slide` leaves from the top: it skips
those where both are zero, and then doubles and adds or subtracts an odd multiple of
either point.  The odd multiples of `A` are computed first, those of the base point are
in the table `bi`.
-/

namespace MeshCosi.Edwards25519

open Foundation

/-- `Ai[i]`. -/
def cachedMultiple (A : ExtendedGroupElement) : ℕ → CachedGroupElement
  | 0 => A.toCached
  | i + 1 => (geAdd A.double.toExtended (cachedMultiple A i)).toExtended.toCached

/-- What a digit `d` does to `t`: `add` or `sub` with the entry `d/2` or `(-d)/2`, or
nothing. -/
def addDigit (d : BitVec 8) (t : CompletedGroupElement) (add sub : ℕ → CompletedGroupElement) :
    CompletedGroupElement :=
  if (0 : BitVec 8).slt d then add (d.sdiv 2).toNat
  else if d.slt 0 then sub ((-d).sdiv 2).toNat
  else t

/-- One round of the main loop. -/
def doubleAndAdd (A : ExtendedGroupElement) (a b : BitVec 8) (r : ProjectiveGroupElement) :
    ProjectiveGroupElement :=
  let t := r.double
  let t := addDigit a t (fun i => geAdd t.toExtended (cachedMultiple A i))
    (fun i => geSub t.toExtended (cachedMultiple A i))
  let t := addDigit b t (fun i => geMixedAdd t.toExtended (bi.getD i .zero))
    (fun i => geMixedSub t.toExtended (bi.getD i .zero))
  t.toProjective

/-- The main loop, for the digits below `n`. -/
def doubleAndAddFrom (A : ExtendedGroupElement) (aSlide bSlide : Limbs 8 256) :
    ℕ → ProjectiveGroupElement → ProjectiveGroupElement
  | 0, r => r
  | i + 1, r =>
      doubleAndAddFrom A aSlide bSlide i
        (doubleAndAdd A (aSlide.toList.getD i 0) (bSlide.toList.getD i 0) r)

/-- The loop that skips the digits where both are zero. -/
def digitsInUse (aSlide bSlide : Limbs 8 256) : ℕ → ℕ
  | 0 => 0
  | i + 1 =>
      if aSlide.toList.getD i 0 ≠ 0 ∨ bSlide.toList.getD i 0 ≠ 0 then i + 1
      else digitsInUse aSlide bSlide i

/-- `GeDoubleScalarMultVartime`. -/
def geDoubleScalarMultVartime (a : Block 32) (A : ExtendedGroupElement) (b : Block 32) :
    ProjectiveGroupElement :=
  let aSlide := slide a
  let bSlide := slide b
  doubleAndAddFrom A aSlide bSlide (digitsInUse aSlide bSlide 256) .zero

variable {P Q : CurvePoint}

theorem cachedMultiple_represents {A : ExtendedGroupElement} (hA : A.Represents Q) (i : ℕ) :
    (cachedMultiple A i).Represents ((2 * i + 1) • Q) := by
  induction i with
  | zero =>
      rw [mul_zero, zero_add, one_nsmul]
      exact hA.toCached
  | succ i ih =>
      have h := (geAdd_represents hA.double.toExtended ih).toExtended.toCached
      have hsum : Q + Q + (2 * i + 1) • Q = (2 * (i + 1) + 1) • Q := by
        rw [← two_nsmul, ← add_nsmul]
        congr 1
        ring
      rwa [hsum] at h

private theorem positive_digit : ∀ n : ℕ, n < 8 →
    (0 : BitVec 8).slt (BitVec.ofInt 8 (2 * n + 1)) = true ∧
      ((BitVec.ofInt 8 (2 * n + 1)).sdiv 2).toNat = n := by
  decide

private theorem negative_digit : ∀ n : ℕ, n < 8 →
    (0 : BitVec 8).slt (BitVec.ofInt 8 (-(2 * n + 1))) = false ∧
      (BitVec.ofInt 8 (-(2 * n + 1))).slt 0 = true ∧
      ((-BitVec.ofInt 8 (-(2 * n + 1))).sdiv 2).toNat = n := by
  decide

/-- A digit adds its multiple, if the entries are the odd multiples. -/
theorem addDigit_represents {x : ℤ} (hx : x = 0 ∨ Odd x ∧ |x| ≤ 15) {t : CompletedGroupElement}
    {add sub : ℕ → CompletedGroupElement} (ht : t.Represents P)
    (hadd : ∀ n < 8, (add n).Represents (P + (2 * n + 1) • Q))
    (hsub : ∀ n < 8, (sub n).Represents (P - (2 * n + 1) • Q)) :
    (addDigit (BitVec.ofInt 8 x) t add sub).Represents (P + x • Q) := by
  rcases hx with rfl | ⟨⟨k, rfl⟩, hbound⟩
  · rw [zero_zsmul, add_zero]
    exact ht
  · obtain ⟨hlow, hhigh⟩ := abs_le.1 hbound
    unfold addDigit
    rcases le_or_gt 0 k with hnonneg | hneg
    · obtain ⟨n, rfl⟩ := Int.eq_ofNat_of_zero_le hnonneg
      have hn : n < 8 := by omega
      obtain ⟨hslt, hindex⟩ := positive_digit n hn
      have hmul : (2 * (n : ℤ) + 1) • Q = (2 * n + 1) • Q := by
        rw [← natCast_zsmul]
        push_cast
        rfl
      rw [if_pos hslt, hindex, hmul]
      exact hadd n hn
    · obtain ⟨n, hn'⟩ := Int.eq_ofNat_of_zero_le (show 0 ≤ -k - 1 by omega)
      obtain rfl : k = -(n : ℤ) - 1 := by omega
      have hn : n < 8 := by omega
      have hneg' : 2 * (-(n : ℤ) - 1) + 1 = -(2 * n + 1) := by ring
      obtain ⟨hslt, hslt', hindex⟩ := negative_digit n hn
      have hmul : P + (-(2 * (n : ℤ) + 1)) • Q = P - (2 * n + 1) • Q := by
        rw [neg_zsmul, ← sub_eq_add_neg, ← natCast_zsmul]
        push_cast
        rfl
      rw [hneg', hslt, if_neg (by decide), if_pos hslt', hindex, hmul]
      exact hsub n hn

theorem doubleAndAdd_represents {A : ExtendedGroupElement} (hA : A.Represents Q) {x y : ℤ}
    (hx : x = 0 ∨ Odd x ∧ |x| ≤ 15) (hy : y = 0 ∨ Odd y ∧ |y| ≤ 15)
    {r : ProjectiveGroupElement} (hr : r.Represents P) :
    (doubleAndAdd A (BitVec.ofInt 8 x) (BitVec.ofInt 8 y) r).Represents
      (P + P + x • Q + y • basePoint) := by
  have ha := addDigit_represents hx hr.double
    (fun i _ => geAdd_represents hr.double.toExtended (cachedMultiple_represents hA i))
    (fun i _ => geSub_represents hr.double.toExtended (cachedMultiple_represents hA i))
  exact (addDigit_represents hy ha
    (fun _ hi => geMixedAdd_represents ha.toExtended (bi_represents hi))
    (fun _ hi => geMixedSub_represents ha.toExtended (bi_represents hi))).toProjective

section Loop

variable {A : ExtendedGroupElement} {aSlide bSlide : Limbs 8 256} {s t : ℕ → ℤ}
  (ha : Holds aSlide s) (hb : Holds bSlide t)

include ha hb

theorem doubleAndAddFrom_represents (hA : A.Represents Q)
    (hs : ∀ j < 256, s j = 0 ∨ Odd (s j) ∧ |s j| ≤ 15)
    (ht : ∀ j < 256, t j = 0 ∨ Odd (t j) ∧ |t j| ≤ 15) {n : ℕ} (hn : n ≤ 256)
    {r : ProjectiveGroupElement} (hr : r.Represents P) :
    (doubleAndAddFrom A aSlide bSlide n r).Represents
      ((2 ^ n : ℤ) • P + (∑ j ∈ Finset.range n, s j * 2 ^ j) • Q +
        (∑ j ∈ Finset.range n, t j * 2 ^ j) • basePoint) := by
  induction n generalizing P r with
  | zero =>
      rw [pow_zero, one_zsmul, Finset.sum_range_zero, Finset.sum_range_zero, zero_zsmul, zero_zsmul,
        add_zero, add_zero]
      exact hr
  | succ n ih =>
      have hstep := doubleAndAdd_represents hA (hs n hn) (ht n hn) hr
      rw [← ha.getD hn, ← hb.getD hn] at hstep
      -- what is added at digit `n` is doubled `n` times by the passes that follow
      have hrest := ih (Nat.le_of_succ_le hn) hstep
      rw [doubleAndAddFrom, Finset.sum_range_succ, Finset.sum_range_succ]
      convert hrest using 1
      module

/-- The digits that are skipped are zero. -/
theorem sum_digitsInUse {n : ℕ} (hn : n ≤ 256) (hs : ∀ j < 256, |s j| ≤ 15)
    (ht : ∀ j < 256, |t j| ≤ 15) :
    ∑ j ∈ Finset.range (digitsInUse aSlide bSlide n), s j * 2 ^ j =
        ∑ j ∈ Finset.range n, s j * 2 ^ j ∧
      ∑ j ∈ Finset.range (digitsInUse aSlide bSlide n), t j * 2 ^ j =
        ∑ j ∈ Finset.range n, t j * 2 ^ j ∧ digitsInUse aSlide bSlide n ≤ n := by
  induction n with
  | zero => exact ⟨rfl, rfl, le_rfl⟩
  | succ n ih =>
      have hzero : ∀ x : ℤ, |x| ≤ 15 → BitVec.ofInt 8 x = 0 → x = 0 := fun x hx h => by
        have hfits : Fits 8 x := Fits.of_abs_le (by decide) (by decide) hx
        rw [← hfits.toInt_ofInt, h]
        rfl
      obtain ⟨ihs, iht, hle⟩ := ih (Nat.le_of_succ_le hn)
      unfold digitsInUse
      split_ifs with hdigits
      · exact ⟨rfl, rfl, le_rfl⟩
      · rw [not_or, not_not, not_not, ha.getD hn, hb.getD hn] at hdigits
        rw [Finset.sum_range_succ, Finset.sum_range_succ, hzero _ (hs n hn) hdigits.1,
          hzero _ (ht n hn) hdigits.2, zero_mul, add_zero, add_zero]
        exact ⟨ihs, iht, Nat.le_succ_of_le hle⟩

end Loop

/-- `GeDoubleScalarMultVartime` computes `aA + bB`, for scalars of 255 bits. -/
theorem geDoubleScalarMultVartime_represents {a b : Block 32} (ha : a.toNat ≤ 2 ^ 255)
    (hb : b.toNat ≤ 2 ^ 255) {A : ExtendedGroupElement} (hA : A.Represents Q) :
    (geDoubleScalarMultVartime a A b).Represents (a.toNat • Q + b.toNat • basePoint) := by
  obtain ⟨s, has, hs, hsvalue⟩ := slide_spec ha
  obtain ⟨t, hbs, ht, htvalue⟩ := slide_spec hb
  have hbound : ∀ x : ℤ, x = 0 ∨ Odd x ∧ |x| ≤ 15 → |x| ≤ 15 := by
    rintro x (rfl | h)
    · norm_num
    · exact h.2
  obtain ⟨hssum, htsum, hle⟩ := sum_digitsInUse has hbs le_rfl
    (fun j hj => hbound _ (hs j hj)) (fun j hj => hbound _ (ht j hj))
  have h := doubleAndAddFrom_represents has hbs hA hs ht hle
    ProjectiveGroupElement.represents_zero
  rw [hssum, htsum, hsvalue, htvalue, smul_zero, zero_add, natCast_zsmul, natCast_zsmul] at h
  exact h

/-- The two multiples of a point that has been read and of the base point. -/
theorem double_multiple_of_fromBytes {s a b : Block 32} {A : ExtendedGroupElement}
    (hs : ExtendedGroupElement.fromBytes s = some A) (ha : a.toNat ≤ 2 ^ 255)
    (hb : b.toNat ≤ 2 ^ 255) :
    ∃ P, Encodes s P ∧
      (geDoubleScalarMultVartime a A b).toBytes =
        encodePoint (a.toNat • P + b.toNat • basePoint) := by
  have hspec := fromBytes_spec s
  rw [hs] at hspec
  obtain ⟨P, hA, hP⟩ := hspec
  exact ⟨P, hP, (geDoubleScalarMultVartime_represents ha hb hA).toBytes⟩

/-- The base point added to itself. -/
theorem double_multiple_of_fromBytes_one :
    ∃ A, ExtendedGroupElement.fromBytes (encodePoint basePoint) = some A ∧
      ∃ P, Encodes (encodePoint basePoint) P ∧
        (geDoubleScalarMultVartime (Block.ofNat 32 1) A (Block.ofNat 32 1)).toBytes =
          encodePoint ((Block.ofNat 32 1).toNat • P + (Block.ofNat 32 1).toNat • basePoint) := by
  obtain ⟨A, hA, -⟩ := exists_fromBytes_encodePoint basePoint
  have hone : (Block.ofNat 32 1).toNat ≤ 2 ^ 255 := by
    rw [Block.ofNat_toNat_of_lt (by norm_num)]
    norm_num
  exact ⟨A, hA, double_multiple_of_fromBytes hA hone hone⟩

end MeshCosi.Edwards25519
