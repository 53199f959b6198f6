import MeshCosi.Edwards.Field

/-!
# The field arithmetic is the arithmetic modulo `2^255 - 19`

Each function is shown to compute the operation of `ZMod fieldPrime` on the elements
that its arguments denote, with the bounds of the result.

Sums work limb by limb, and their bounds add up.  Products go through `FeCombine`.

* The sums of products that `FeMul` forms are the columns of the product, where a
  column beyond the last limb counts 19 times and two odd limbs count twice
  (`mulFactor`).  These factors make up for the weights (`mulFactor_balanced`).
* For elements of three units even twice a column fits into 64 bits
  (`fits_maxColumn`).  The ranges of the carries then say that what `FeCombine` leaves is
  at most one unit (`exists_combinedRanges`), and that no shift sees a wrapped limb.
* `FeSquare` adds up fewer products, but to the same columns (`squareLimbs_eq`).

Powers are chains of these, with the exponents written down at each statement.
-/

namespace MeshCosi.Edwards25519

open Foundation

/-- The largest limb `i` that a product leaves. -/
def limbUnit (i : ℕ) : ℤ := if i % 2 = 0 then 2 ^ 25 else 2 ^ 24 + 2 ^ 10

/-- The integer that ten limbs represent. -/
def feValue (s : Fin 10 → ℤ) : ℤ := limbValue feWeight s

/-- The limbs of `f` hold the integers `s`, at most `n` units each. -/
structure HoldsLimbs (n : ℕ) (f : FieldElement) (s : Fin 10 → ℤ) : Prop where
  eq : f = toLimbs 32 s
  bound : ∀ i, |s i| ≤ n * limbUnit i

/-- `f` stands for an element of the field, with limbs of at most `n` units. -/
def Denotes (n : ℕ) (f : FieldElement) (x : ZMod fieldPrime) : Prop :=
  ∃ s, HoldsLimbs n f s ∧ (feValue s : ZMod fieldPrime) = x

theorem limbUnit_nonneg (i : ℕ) : 0 ≤ limbUnit i := by
  unfold limbUnit
  split_ifs <;> norm_num

theorem limbUnit_le (i : ℕ) : limbUnit i ≤ 2 ^ 25 := by
  unfold limbUnit
  split_ifs <;> norm_num

theorem HoldsLimbs.mono {m n : ℕ} {f : FieldElement} {s : Fin 10 → ℤ} (h : HoldsLimbs m f s)
    (hmn : m ≤ n) : HoldsLimbs n f s :=
  ⟨h.eq, fun i => (h.bound i).trans
    (mul_le_mul_of_nonneg_right (Nat.cast_le.2 hmn) (limbUnit_nonneg i))⟩

theorem Denotes.mono {m n : ℕ} {f : FieldElement} {x : ZMod fieldPrime} (h : Denotes m f x)
    (hmn : m ≤ n) : Denotes n f x := by
  obtain ⟨s, hs, hx⟩ := h
  exact ⟨s, hs.mono hmn, hx⟩

theorem HoldsLimbs.get {n : ℕ} {f : FieldElement} {s : Fin 10 → ℤ} (h : HoldsLimbs n f s)
    (i : Fin 10) : f.get i = BitVec.ofInt 32 (s i) := by
  rw [h.eq, get_toLimbs]

/-- A multiple of a limb that stays within 32 bits. -/
theorem HoldsLimbs.fits {n : ℕ} {f : FieldElement} {s : Fin 10 → ℤ} (h : HoldsLimbs n f s) {c : ℤ}
    (hc : |c| * n ≤ 57) (i : Fin 10) : Fits 32 (c * s i) := by
  have hbound : |c * s i| ≤ 57 * 2 ^ 25 := by
    rw [abs_mul]
    calc |c| * |s i| ≤ |c| * (n * limbUnit i) :=
          mul_le_mul_of_nonneg_left (h.bound i) (abs_nonneg c)
      _ = |c| * n * limbUnit i := by ring
      _ ≤ 57 * 2 ^ 25 := mul_le_mul hc (limbUnit_le i) (limbUnit_nonneg i) (by norm_num)
  exact Fits.of_abs_le (by decide) (by decide) hbound

/-! ## Sums -/

/-- An operation on each limb of two elements. -/
theorem HoldsLimbs.map₂ {m n k : ℕ} {f g : FieldElement} {s t : Fin 10 → ℤ}
    (hf : HoldsLimbs m f s) (hg : HoldsLimbs n g t) (op : BitVec 32 → BitVec 32 → BitVec 32)
    (op' : ℤ → ℤ → ℤ)
    (hop : ∀ x y, op (BitVec.ofInt 32 x) (BitVec.ofInt 32 y) = BitVec.ofInt 32 (op' x y))
    (hbound : ∀ i, |op' (s i) (t i)| ≤ k * limbUnit i) :
    HoldsLimbs k (List.Vector.ofFn fun i => op (f.get i) (g.get i)) fun i => op' (s i) (t i) := by
  refine ⟨?_, hbound⟩
  simp only [hf.get, hg.get, hop]
  rfl

theorem denotes_feZero : Denotes 0 feZero 0 :=
  ⟨fun _ => 0, ⟨rfl, by simp⟩, by simp [feValue, limbValue]⟩

theorem denotes_feOne : Denotes 1 feOne 1 := by
  refine ⟨fun i => if i = 0 then 1 else 0, ⟨rfl, by decide⟩, ?_⟩
  simp [feValue, limbValue, feWeight]

theorem Denotes.feAdd {m n : ℕ} {f g : FieldElement} {x y : ZMod fieldPrime} (hf : Denotes m f x)
    (hg : Denotes n g y) : Denotes (m + n) (feAdd f g) (x + y) := by
  obtain ⟨s, hs, rfl⟩ := hf
  obtain ⟨t, ht, rfl⟩ := hg
  rw [Edwards25519.feAdd]
  refine ⟨_, hs.map₂ ht (· + ·) (· + ·) (fun x y => (BitVec.ofInt_add x y).symm) fun i => ?_, ?_⟩
  · rw [Nat.cast_add, add_mul]
    exact (abs_add_le _ _).trans (add_le_add (hs.bound i) (ht.bound i))
  · simp only [feValue, limbValue, add_mul, Finset.sum_add_distrib]
    push_cast
    rfl

theorem Denotes.feSub {m n : ℕ} {f g : FieldElement} {x y : ZMod fieldPrime} (hf : Denotes m f x)
    (hg : Denotes n g y) : Denotes (m + n) (feSub f g) (x - y) := by
  obtain ⟨s, hs, rfl⟩ := hf
  obtain ⟨t, ht, rfl⟩ := hg
  rw [Edwards25519.feSub]
  refine ⟨_, hs.map₂ ht (· - ·) (· - ·) (fun x y => (ofInt_sub 32 x y).symm) fun i => ?_, ?_⟩
  · rw [Nat.cast_add, add_mul]
    exact (abs_sub _ _).trans (add_le_add (hs.bound i) (ht.bound i))
  · simp only [feValue, limbValue, sub_mul, Finset.sum_sub_distrib]
    push_cast
    rfl

theorem Denotes.feNeg {n : ℕ} {f : FieldElement} {x : ZMod fieldPrime} (hf : Denotes n f x) :
    Denotes n (feNeg f) (-x) := by
  obtain ⟨s, hs, rfl⟩ := hf
  rw [Edwards25519.feNeg]
  refine ⟨_, hs.map₂ hs (fun x _ => -x) (fun x _ => -x)
    (fun x _ => (BitVec.ofInt_neg).symm) fun i => ?_, ?_⟩
  · rw [abs_neg]
    exact hs.bound i
  · simp only [feValue, limbValue, neg_mul, Finset.sum_neg_distrib]
    push_cast
    rfl

/-! ## Products -/

/-- The factor of term `i` of column `k`: 2 where the weights of two odd limbs are
rounded up, and 19 beyond the last limb. -/
def mulFactor (k i : Fin 10) : ℤ :=
  (if i.val % 2 = 1 ∧ k.val % 2 = 0 then 2 else 1) * if i ≤ k then 1 else 19

/-- Column `k` of a product. -/
def mulColumn (s t : Fin 10 → ℤ) (k : Fin 10) : ℤ := ∑ i, mulFactor k i * (s i * t (k - i))

theorem mulFactor_balanced : ∀ i j : Fin 10,
    mulFactor (i + j) i * feWeight (i + j : Fin 10) ≡ feWeight i * feWeight j
      [ZMOD fieldPrime] := by
  unfold Int.ModEq
  decide

/-- The columns make up the product modulo `2^255 - 19`. -/
theorem feValue_mulColumn (s t : Fin 10 → ℤ) :
    (feValue (mulColumn s t) : ZMod fieldPrime) = feValue s * feValue t := by
  rw [← Int.cast_mul, ZMod.intCast_eq_intCast_iff]
  exact sum_cyclic_columns mulFactor_balanced s t

/-- The largest columns of products of elements of one unit. -/
def maxColumn (k : Fin 10) : ℤ := mulColumn (fun i => limbUnit i) (fun i => limbUnit i) k

theorem abs_mulColumn_le {m n : ℕ} {s t : Fin 10 → ℤ} (hs : ∀ i, |s i| ≤ m * limbUnit i)
    (ht : ∀ i, |t i| ≤ n * limbUnit i) (k : Fin 10) :
    |mulColumn s t k| ≤ m * n * maxColumn k := by
  have hfactor : ∀ i, 0 ≤ mulFactor k i := fun i => by
    unfold mulFactor
    split_ifs <;> norm_num
  rw [maxColumn, mulColumn, mulColumn, Finset.mul_sum]
  refine (Finset.abs_sum_le_sum_abs _ _).trans (Finset.sum_le_sum fun i _ => ?_)
  rw [abs_mul, abs_mul, abs_of_nonneg (hfactor i)]
  calc mulFactor k i * (|s i| * |t (k - i)|)
      ≤ mulFactor k i * (m * limbUnit i * (n * limbUnit (k - i : Fin 10))) := by
        refine mul_le_mul_of_nonneg_left ?_ (hfactor i)
        exact mul_le_mul (hs i) (ht (k - i)) (abs_nonneg _)
          (mul_nonneg (Nat.cast_nonneg m) (limbUnit_nonneg i))
    _ = m * n * (mulFactor k i * (limbUnit i * limbUnit (k - i : Fin 10))) := by ring

theorem fits_maxColumn : ∀ k, Fits 64 (-(18 * maxColumn k)) ∧ Fits 64 (18 * maxColumn k) := by
  decide

/-- The ranges of the limbs that are combined, for twice the product of elements of
three units. -/
def columnRanges : List.Vector (Range 64) 10 :=
  List.Vector.ofFn fun k => ⟨-(18 * maxColumn k), 18 * maxColumn k, fits_maxColumn k⟩

/-- The limbs that `FeCombine` leaves are at most one unit. -/
theorem exists_combinedRanges : ∃ ranges, rangeAll combineSteps columnRanges = some ranges ∧
    ∀ i : Fin 10, -limbUnit i ≤ (ranges.get i).lo ∧ (ranges.get i).hi ≤ limbUnit i := by
  have hcheck : (rangeAll combineSteps columnRanges).map (fun ranges => decide (∀ i : Fin 10,
      -limbUnit i ≤ (ranges.get i).lo ∧ (ranges.get i).hi ≤ limbUnit i)) = some true := by
    decide
  obtain ⟨ranges, hranges, hunit⟩ := Option.map_eq_some_iff.1 hcheck
  exact ⟨ranges, hranges, of_decide_eq_true hunit⟩

theorem balanced_combineSteps : ∀ step ∈ combineSteps, step.Balanced fieldPrime feWeight := by
  decide

/-- `FeCombine` keeps the value and brings the limbs down to one unit. -/
theorem denotes_feCombine {h : Fin 10 → ℤ} (hbound : ∀ k, |h k| ≤ 18 * maxColumn k) :
    Denotes 1 (feCombine (toLimbs 64 h)) (feValue h) := by
  have hstart : Within columnRanges h := fun k => by
    rw [columnRanges, List.Vector.get_ofFn]
    exact abs_le.1 (hbound k)
  obtain ⟨ranges, hranges, hunit⟩ := exists_combinedRanges
  obtain ⟨hrun, hwithin⟩ := rangeAll_sound hranges hstart
  have hvalue := exactAll_value balanced_combineSteps h
  generalize exactAll combineSteps h = t at hrun hwithin hvalue
  refine ⟨t, ⟨?_, fun i => ?_⟩, (ZMod.intCast_eq_intCast_iff _ _ _).2 hvalue⟩
  · refine List.Vector.ext fun i => ?_
    rw [feCombine, hrun, List.Vector.get_map, get_toLimbs, get_toLimbs,
      setWidth_ofInt (by norm_num)]
  · rw [Nat.cast_one, one_mul]
    exact abs_le.2 ⟨(hunit i).1.trans (hwithin i).1, (hwithin i).2.trans (hunit i).2⟩

/-- `int64(c * f[i])` for a multiple that fits into 32 bits. -/
theorem HoldsLimbs.signExtend_mul {n : ℕ} {f : FieldElement} {s : Fin 10 → ℤ}
    (h : HoldsLimbs n f s) {c : ℤ} (hc : |c| * n ≤ 57) (i : Fin 10) :
    (BitVec.ofInt 32 c * f.get i).signExtend 64 = BitVec.ofInt 64 (c * s i) := by
  rw [h.get, ← BitVec.ofInt_mul]
  exact (h.fits hc i).signExtend_ofInt (by norm_num)

/-- `int64(f[i])`. -/
theorem HoldsLimbs.signExtend {f : FieldElement} {s : Fin 10 → ℤ} (h : HoldsLimbs 3 f s)
    (i : Fin 10) : (f.get i).signExtend 64 = BitVec.ofInt 64 (s i) := by
  have hone := h.signExtend_mul (c := 1) (by norm_num) i
  rwa [one_mul, show BitVec.ofInt 32 1 = 1#32 from rfl, BitVec.one_mul] at hone

theorem mulLeft_mul_mulRight {f g : FieldElement} {s t : Fin 10 → ℤ} (hf : HoldsLimbs 3 f s)
    (hg : HoldsLimbs 3 g t) (k i : Fin 10) :
    mulLeft f k i * mulRight g k i = BitVec.ofInt 64 (mulFactor k i * (s i * t (k - i))) := by
  have hleft : mulLeft f k i =
      BitVec.ofInt 64 ((if i.val % 2 = 1 ∧ k.val % 2 = 0 then 2 else 1) * s i) := by
    unfold mulLeft
    split_ifs
    · exact hf.signExtend_mul (c := 2) (by norm_num) i
    · rw [one_mul, hf.signExtend]
  have hright : mulRight g k i = BitVec.ofInt 64 ((if i ≤ k then 1 else 19) * t (k - i)) := by
    unfold mulRight
    split_ifs
    · rw [one_mul, hg.signExtend]
    · exact hg.signExtend_mul (c := 19) (by norm_num) (k - i)
  rw [hleft, hright, ← BitVec.ofInt_mul, mulFactor]
  congr 1
  ring

/-- The sums of `FeMul` are the columns of the product. -/
theorem mulSums_eq {f g : FieldElement} {s t : Fin 10 → ℤ} (hs : HoldsLimbs 3 f s)
    (ht : HoldsLimbs 3 g t) :
    (List.Vector.ofFn fun k => (List.finRange 10).foldl
      (fun r i => r + mulLeft f k i * mulRight g k i) 0) = toLimbs 64 (mulColumn s t) := by
  rw [toLimbs]
  congr 1
  funext k
  have hterm : ∀ i ∈ List.finRange 10, _ := fun i _ => mulLeft_mul_mulRight hs ht k i
  have hsum := foldl_add_ofInt hterm 0
  rw [zero_add, ← Fin.sum_univ_def] at hsum
  exact hsum

/-- Even twice a column of elements of three units can be combined. -/
theorem two_mul_abs_mulColumn_le {f g : FieldElement} {s t : Fin 10 → ℤ} (hs : HoldsLimbs 3 f s)
    (ht : HoldsLimbs 3 g t) (k : Fin 10) : 2 * |mulColumn s t k| ≤ 18 * maxColumn k := by
  have hle := abs_mulColumn_le hs.bound ht.bound k
  push_cast at hle
  linarith

/-- `FeMul` multiplies, for arguments of three units. -/
theorem Denotes.feMul {f g : FieldElement} {x y : ZMod fieldPrime} (hf : Denotes 3 f x)
    (hg : Denotes 3 g y) : Denotes 1 (feMul f g) (x * y) := by
  obtain ⟨s, hs, rfl⟩ := hf
  obtain ⟨t, ht, rfl⟩ := hg
  rw [← feValue_mulColumn, Edwards25519.feMul, mulSums_eq hs ht]
  refine denotes_feCombine fun k => ?_
  linarith [two_mul_abs_mulColumn_le hs ht k, abs_nonneg (mulColumn s t k)]

/-- The shorter sums of `feSquare` are the columns of the product. -/
theorem squareLimbs_eq {f : FieldElement} {s : Fin 10 → ℤ} (hf : HoldsLimbs 3 f s) :
    squareLimbs f = toLimbs 64 (mulColumn s s) := by
  have htwice := hf.signExtend_mul (c := 2) (by norm_num)
  have htwo : (2 : BitVec 32) = BitVec.ofInt 32 2 := rfl
  have h19 : (19 : BitVec 64) = BitVec.ofInt 64 19 := rfl
  have h38 : (38 : BitVec 64) = BitVec.ofInt 64 38 := rfl
  apply List.Vector.eq
  simp only [squareLimbs, htwo, h19, h38, hf.signExtend, htwice, ← BitVec.ofInt_mul,
    ← BitVec.ofInt_add, List.Vector.toList_mk]
  change _ = [0, 1, 2, 3, 4, 5, 6, 7, 8, 9].map fun k => BitVec.ofInt 64 (mulColumn s s k)
  simp only [List.map_cons, List.map_nil, List.cons.injEq, and_true, mulColumn, mulFactor,
    Fin.sum_univ_succ, Fin.sum_univ_zero, Fin.reduceSucc, Fin.reduceSub, Fin.reduceLE]
  norm_num only [Fin.coe_ofNat_eq_mod, Fin.val_zero, Fin.val_one, if_true, if_false, and_true,
    and_false]
  -- one identity for each limb: `feSquare` has collected the equal products
  refine ⟨?_, ?_, ?_, ?_, ?_, ?_, ?_, ?_, ?_, ?_⟩ <;> congr 1 <;> ring

/-- `FeSquare` squares, for arguments of three units. -/
theorem Denotes.feSquare {f : FieldElement} {x : ZMod fieldPrime} (hf : Denotes 3 f x) :
    Denotes 1 (feSquare f) (x ^ 2) := by
  have hmul := hf.feMul hf
  obtain ⟨s, hs, -⟩ := hf
  rw [Edwards25519.feMul, mulSums_eq hs hs, ← squareLimbs_eq hs, ← pow_two] at hmul
  rwa [Edwards25519.feSquare]

/-- `FeSquare` leaves the limbs that `FeMul` leaves, although it adds up fewer products. -/
theorem feSquare_eq_feMul_self {f : FieldElement} {x : ZMod fieldPrime} (hf : Denotes 3 f x) :
    feSquare f = feMul f f := by
  obtain ⟨s, hs, -⟩ := hf
  rw [feSquare, feMul, squareLimbs_eq hs, mulSums_eq hs hs]

/-- An element whose limbs have both signs. -/
theorem feSquare_eq_feMul_self_signed :
    feSquare ⟨[1, -2, 3, -4, 5, -6, 7, -8, 9, -10], rfl⟩ =
      feMul ⟨[1, -2, 3, -4, 5, -6, 7, -8, 9, -10], rfl⟩
        ⟨[1, -2, 3, -4, 5, -6, 7, -8, 9, -10], rfl⟩ :=
  feSquare_eq_feMul_self ⟨fun i => (-1) ^ i.val * (i.val + 1), ⟨rfl, by decide⟩, rfl⟩

/-- `FeSquare2` computes twice the square, for arguments of three units. -/
theorem Denotes.feSquare2 {f : FieldElement} {x : ZMod fieldPrime} (hf : Denotes 3 f x) :
    Denotes 1 (feSquare2 f) (2 * x ^ 2) := by
  obtain ⟨s, hs, rfl⟩ := hf
  have hdouble : (squareLimbs f).map (fun h => h + h) =
      toLimbs 64 fun k => 2 * mulColumn s s k := by
    refine List.Vector.ext fun k => ?_
    rw [squareLimbs_eq hs, List.Vector.get_map, get_toLimbs, get_toLimbs, ← BitVec.ofInt_add,
      two_mul]
  have hvalue : (feValue (fun k => 2 * mulColumn s s k) : ZMod fieldPrime) =
      2 * (feValue s : ZMod fieldPrime) ^ 2 := by
    rw [pow_two, ← feValue_mulColumn, feValue, feValue, limbValue, limbValue]
    simp only [mul_assoc, ← Finset.mul_sum]
    push_cast
    rfl
  rw [← hvalue, Edwards25519.feSquare2, hdouble]
  refine denotes_feCombine fun k => ?_
  rw [abs_mul, abs_two]
  exact two_mul_abs_mulColumn_le hs hs k

/-! ## Powers -/

theorem Denotes.feSquareTimes {f : FieldElement} {x : ZMod fieldPrime} (hf : Denotes 1 f x)
    (n : ℕ) : Denotes 1 (feSquareTimes n f) (x ^ 2 ^ n) := by
  induction n with
  | zero => simpa [Edwards25519.feSquareTimes] using hf
  | succ n ih =>
      rw [Edwards25519.feSquareTimes, Function.iterate_succ_apply', pow_succ, pow_mul]
      exact (ih.mono (by norm_num)).feSquare

theorem Denotes.feMul_pow {f g : FieldElement} {x : ZMod fieldPrime} {a b : ℕ}
    (hf : Denotes 1 f (x ^ a)) (hg : Denotes 1 g (x ^ b)) :
    Denotes 1 (Edwards25519.feMul f g) (x ^ (a + b)) := by
  rw [pow_add]
  exact (hf.mono (by norm_num)).feMul (hg.mono (by norm_num))

theorem Denotes.feSquareTimes_pow {f : FieldElement} {x : ZMod fieldPrime} {a : ℕ}
    (hf : Denotes 1 f (x ^ a)) (n : ℕ) :
    Denotes 1 (Edwards25519.feSquareTimes n f) (x ^ (a * 2 ^ n)) := by
  rw [pow_mul]
  exact hf.feSquareTimes n

theorem Denotes.feSquare_pow {f : FieldElement} {x : ZMod fieldPrime} {a : ℕ}
    (hf : Denotes 1 f (x ^ a)) : Denotes 1 (Edwards25519.feSquare f) (x ^ (a * 2)) := by
  rw [pow_mul]
  exact (hf.mono (by norm_num)).feSquare

theorem Denotes.congr_pow {f : FieldElement} {x : ZMod fieldPrime} {a b : ℕ}
    (hf : Denotes 1 f (x ^ a)) (hab : a = b) : Denotes 1 f (x ^ b) := hab ▸ hf

/-- `FeInvert` raises to the power `p - 2`. -/
theorem Denotes.feInvert_pow {z : FieldElement} {x : ZMod fieldPrime} (hz : Denotes 1 z x) :
    Denotes 1 (feInvert z) (x ^ (fieldPrime - 2)) := by
  have hz : Denotes 1 z (x ^ 1) := by rwa [pow_one]
  -- the exponents after each statement, in the order of the source
  have t0 := hz.feSquare_pow
  have t1 := hz.feMul_pow (t0.feSquareTimes_pow 2)
  have t0 := t0.feMul_pow t1
  have t1 := t1.feMul_pow t0.feSquare_pow
  have t1 := (t1.feSquareTimes_pow 5).feMul_pow t1
  have t2 := (t1.feSquareTimes_pow 10).feMul_pow t1
  have t2 := (t2.feSquareTimes_pow 20).feMul_pow t2
  have t1 := (t2.feSquareTimes_pow 10).feMul_pow t1
  have t2 := (t1.feSquareTimes_pow 50).feMul_pow t1
  have t2 := (t2.feSquareTimes_pow 100).feMul_pow t2
  have t1 := (t2.feSquareTimes_pow 50).feMul_pow t1
  have out := (t1.feSquareTimes_pow 5).feMul_pow t0
  rw [feInvert]
  exact out.congr_pow (by norm_num [fieldPrime])

/-- `fePow22523` raises to the power `(p - 5) / 8`. -/
theorem Denotes.fePow22523_pow {z : FieldElement} {x : ZMod fieldPrime} (hz : Denotes 1 z x) :
    Denotes 1 (fePow22523 z) (x ^ (2 ^ 252 - 3)) := by
  have hz : Denotes 1 z (x ^ 1) := by rwa [pow_one]
  have t0 := hz.feSquare_pow
  have t1 := hz.feMul_pow (t0.feSquareTimes_pow 2)
  have t0 := (t0.feMul_pow t1).feSquare_pow
  have t0 := t1.feMul_pow t0
  have t0 := (t0.feSquareTimes_pow 5).feMul_pow t0
  have t1 := (t0.feSquareTimes_pow 10).feMul_pow t0
  have t1 := (t1.feSquareTimes_pow 20).feMul_pow t1
  have t0 := (t1.feSquareTimes_pow 10).feMul_pow t0
  have t1 := (t0.feSquareTimes_pow 50).feMul_pow t0
  have t1 := (t1.feSquareTimes_pow 100).feMul_pow t1
  have t0 := (t1.feSquareTimes_pow 50).feMul_pow t0
  have out := (t0.feSquareTimes_pow 2).feMul_pow hz
  rw [fePow22523]
  exact out.congr_pow (by norm_num)

/-! ## Elements that are written out -/

/-- The limbs are as small as a product leaves them. -/
def Bounded (f : FieldElement) : Prop := ∀ i, |(f.get i).toInt| ≤ 1 * limbUnit i

instance (f : FieldElement) : Decidable (Bounded f) := inferInstanceAs (Decidable (∀ _, _))

/-- The integer that the limbs represent. -/
def limbsValue (f : FieldElement) : ℤ := feValue fun i => (f.get i).toInt

theorem Bounded.denotes {f : FieldElement} (h : Bounded f) :
    Denotes 1 f (limbsValue f : ZMod fieldPrime) := by
  refine ⟨fun i => (f.get i).toInt, ⟨List.Vector.ext fun i => ?_, h⟩, rfl⟩
  rw [get_toLimbs, BitVec.ofInt_toInt]

/-- A constant of the source and the number it stands for. -/
theorem Bounded.denotes_natCast {f : FieldElement} (h : Bounded f) {v : ℕ}
    (hv : limbsValue f % fieldPrime = v) : Denotes 1 f (v : ZMod fieldPrime) := by
  rw [← Int.cast_natCast, ← hv, ZMod.intCast_mod]
  exact h.denotes

end MeshCosi.Edwards25519
