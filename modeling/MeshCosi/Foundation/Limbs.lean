import Mathlib.Algebra.BigOperators.Fin
import Mathlib.Algebra.BigOperators.Intervals
import Mathlib.Algebra.BigOperators.ModEq
import Mathlib.Algebra.BigOperators.NatAntidiagonal
import Mathlib.Algebra.Order.BigOperators.Ring.Finset
import Mathlib.Data.Int.ModEq
import Mathlib.Data.Vector.Basic
import Mathlib.Tactic.LinearCombination
import Mathlib.Tactic.Linarith

/-!
# Straight-line arithmetic on limbs

A large number is held in several signed machine words, each with a weight.  The
code that reduces it carries from one limb to another and folds high limbs into
low ones.  `LimbStep.run` is such a statement on machine words, which wrap
around, and `LimbStep.exact` is the same statement on integers.

The words are a vector and the statements name limbs that exist, so nothing has to
be said about lengths.  Three things are followed through a program.

* The words.  Addition and multiplication wrap around consistently, so the two
  meanings can only differ where a right shift looks at the high bits.
* The ranges.  `rangeAll` computes between which bounds each limb lies, and it fails
  unless the bounds of every limb that is written fit into a word.  A program that
  passes behaves on words as on integers (`rangeAll_sound`), and no limb overflows
  at any point of it (`noOverflow_of_rangeAll`).
* The value.  A balanced statement puts what it takes from one limb into others that
  weigh the same modulo a number, so the represented value stays the same modulo
  that number (`exactAll_value`).

A bound is only ever proved by evaluating `rangeAll` on the ranges of the arguments.
-/

namespace Foundation

/-- The machine words that hold a large number. -/
abbrev Limbs (w n : ℕ) := List.Vector (BitVec w) n

/-- A statement of limb arithmetic. -/
inductive LimbStep (n : ℕ)
  /-- `c = (s[i] + bias) >> bits; s[j] += c * factor; s[i] -= c << bits`. -/
  | carry (i : Fin n) (bits : ℕ) (bias : ℤ) (j : Fin n) (factor : ℤ)
  /-- `s[j] += s[i] * factor` for each of the terms `(j, factor)`, and then `s[i] = 0`. -/
  | fold (i : Fin n) (terms : List (Fin n × ℤ))
  deriving Repr

variable {w n : ℕ}

namespace LimbStep

/-- The statement on machine words. -/
def run : LimbStep n → Limbs w n → Limbs w n
  | carry i bits bias j factor, s =>
      let c := (s.get i + BitVec.ofInt w bias).sshiftRight bits
      let s := s.set j (s.get j + c * BitVec.ofInt w factor)
      s.set i (s.get i - c <<< bits)
  | fold i terms, s =>
      let t := terms.foldl (fun t term =>
        t.set term.1 (t.get term.1 + s.get i * BitVec.ofInt w term.2)) s
      t.set i 0

/-- The statement on integers. -/
def exact : LimbStep n → (Fin n → ℤ) → Fin n → ℤ
  | carry i bits bias j factor, s =>
      let c := (s i + bias) >>> bits
      let s := Function.update s j (s j + c * factor)
      Function.update s i (s i - c * 2 ^ bits)
  | fold i terms, s =>
      let t := terms.foldl (fun t term =>
        Function.update t term.1 (t term.1 + s i * term.2)) s
      Function.update t i 0

end LimbStep

/-- A program on machine words. -/
def runAll (steps : List (LimbStep n)) (s : Limbs w n) : Limbs w n :=
  steps.foldl (fun s step => step.run s) s

/-- A program on integers. -/
def exactAll (steps : List (LimbStep n)) (s : Fin n → ℤ) : Fin n → ℤ :=
  steps.foldl (fun s step => step.exact s) s

theorem exactAll_cons (step : LimbStep n) (steps : List (LimbStep n)) (s : Fin n → ℤ) :
    exactAll (step :: steps) s = exactAll steps (step.exact s) := rfl

/-- After every statement each word is the integer that exact arithmetic computes. -/
def NoOverflow (steps : List (LimbStep n)) (s : Limbs w n) : Prop :=
  ∀ past later, past ++ later = steps →
    ∀ i, ((runAll past s).get i).toInt = exactAll past (fun i => (s.get i).toInt) i

/-! ## Words that stand for integers -/

/-- The words that hold integers modulo `2 ^ w`. -/
def toLimbs (w : ℕ) (s : Fin n → ℤ) : Limbs w n := List.Vector.ofFn fun i => BitVec.ofInt w (s i)

@[simp] theorem get_toLimbs (w : ℕ) (s : Fin n → ℤ) (i : Fin n) :
    (toLimbs w s).get i = BitVec.ofInt w (s i) :=
  List.Vector.get_ofFn _ i

theorem toLimbs_update (w : ℕ) (s : Fin n → ℤ) (i : Fin n) (x : ℤ) :
    toLimbs w (Function.update s i x) = (toLimbs w s).set i (BitVec.ofInt w x) := by
  refine List.Vector.ext fun j => ?_
  rcases eq_or_ne j i with rfl | hj
  · rw [get_toLimbs, List.Vector.get_set_same, Function.update_self]
  · rw [get_toLimbs, List.Vector.get_set_of_ne hj.symm, get_toLimbs, Function.update_of_ne hj]

/-- Limbs that are written out one by one. -/
theorem eq_toLimbs {r : Limbs w n} {x : ℕ → ℤ}
    (h : r.toList = (List.range n).map fun i => BitVec.ofInt w (x i)) :
    r = toLimbs w fun i => x i := by
  apply List.Vector.eq
  rw [h, toLimbs, List.Vector.toList_ofFn]
  refine List.ext_getElem (by simp) fun i _ _ => ?_
  rw [List.getElem_map, List.getElem_range, List.getElem_ofFn]

theorem ofInt_sub (w : ℕ) (x y : ℤ) :
    BitVec.ofInt w (x - y) = BitVec.ofInt w x - BitVec.ofInt w y := by
  rw [sub_eq_add_neg, BitVec.ofInt_add, BitVec.ofInt_neg, BitVec.sub_eq_add_neg]

theorem ofInt_shiftLeft (w : ℕ) (x : ℤ) (bits : ℕ) :
    BitVec.ofInt w x <<< bits = BitVec.ofInt w (x * 2 ^ bits) := by
  have htwo : BitVec.twoPow w bits = BitVec.ofInt w (2 ^ bits) := by
    rw [← Nat.cast_two, ← Nat.cast_pow, BitVec.ofInt_natCast]
    apply BitVec.eq_of_toNat_eq
    rw [BitVec.toNat_twoPow, BitVec.toNat_ofNat]
  rw [BitVec.shiftLeft_eq_mul_twoPow, htwo, BitVec.ofInt_mul]

/-- The integers that a signed word of `w` bits can hold. -/
def Fits (w : ℕ) (x : ℤ) : Prop := -2 ^ w ≤ x * 2 ∧ x * 2 < 2 ^ w

instance (w : ℕ) (x : ℤ) : Decidable (Fits w x) :=
  inferInstanceAs (Decidable (_ ∧ _))

theorem Fits.of_le {x lo hi : ℤ} (hlo : Fits w lo) (hhi : Fits w hi) (hl : lo ≤ x)
    (hh : x ≤ hi) : Fits w x :=
  ⟨hlo.1.trans (by linarith), lt_of_le_of_lt (by linarith) hhi.2⟩

theorem Fits.of_abs_le {x b : ℤ} (hlo : Fits w (-b)) (hhi : Fits w b) (h : |x| ≤ b) : Fits w x :=
  hlo.of_le hhi (abs_le.1 h).1 (abs_le.1 h).2

theorem Fits.toInt_ofInt {x : ℤ} (h : Fits w x) : (BitVec.ofInt w x).toInt = x := by
  rw [BitVec.toInt_ofInt]
  exact Int.bmod_eq_of_le_mul_two (by exact_mod_cast h.1) (by exact_mod_cast h.2)

/-- Only the right shift needs to know that the integer fits. -/
theorem Fits.ofInt_sshiftRight {x : ℤ} (h : Fits w x) (bits : ℕ) :
    (BitVec.ofInt w x).sshiftRight bits = BitVec.ofInt w (x >>> bits) := by
  have hshift : ((BitVec.ofInt w x).sshiftRight bits).toInt = x >>> bits := by
    rw [BitVec.toInt_sshiftRight, h.toInt_ofInt]
  rw [← hshift, BitVec.ofInt_toInt]

theorem Fits.sle_ofInt {x y : ℤ} (hx : Fits w x) (hy : Fits w y) :
    (BitVec.ofInt w x).sle (BitVec.ofInt w y) ↔ x ≤ y := by
  rw [BitVec.sle_iff_toInt_le, hx.toInt_ofInt, hy.toInt_ofInt]

theorem setWidth_ofInt {v : ℕ} (h : v ≤ w) (x : ℤ) :
    (BitVec.ofInt w x).setWidth v = BitVec.ofInt v x := by
  apply BitVec.eq_of_toNat_eq
  have hpow : (2 : ℤ) ^ v ∣ 2 ^ w := pow_dvd_pow 2 h
  have hv : (0 : ℤ) < 2 ^ v := by positivity
  have hw : (0 : ℤ) < 2 ^ w := by positivity
  rw [BitVec.toNat_setWidth, BitVec.toNat_ofInt, BitVec.toNat_ofInt]
  zify
  rw [Int.toNat_of_nonneg (Int.emod_nonneg _ (by exact_mod_cast hw.ne')),
    Int.toNat_of_nonneg (Int.emod_nonneg _ (by exact_mod_cast hv.ne'))]
  exact Int.emod_emod_of_dvd x hpow

theorem Fits.signExtend_ofInt {v : ℕ} (h : v ≤ w) {x : ℤ} (hx : Fits v x) :
    (BitVec.ofInt v x).signExtend w = BitVec.ofInt w x := by
  apply BitVec.eq_of_toInt_eq
  have hpow : (2 : ℤ) ^ v ≤ 2 ^ w := pow_le_pow_right₀ (by norm_num) h
  have hwide : Fits w x := ⟨by linarith [hx.1], by linarith [hx.2]⟩
  rw [BitVec.toInt_signExtend_of_le h, hx.toInt_ofInt, hwide.toInt_ofInt]

/-! ## Ranges -/

/-- A range of integers that a word of `w` bits can hold. -/
structure Range (w : ℕ) where
  lo : ℤ
  hi : ℤ
  fits : Fits w lo ∧ Fits w hi
  deriving DecidableEq

/-- The integer lies in the range. -/
def Range.Has (range : Range w) (x : ℤ) : Prop := range.lo ≤ x ∧ x ≤ range.hi

theorem Range.Has.fits {range : Range w} {x : ℤ} (h : range.Has x) : Fits w x :=
  range.fits.1.of_le range.fits.2 h.1 h.2

/-- The range between two bounds, if they fit. -/
def Range.between (w : ℕ) (lo hi : ℤ) : Option (Range w) :=
  if h : Fits w lo ∧ Fits w hi then some ⟨lo, hi, h⟩ else none

theorem Range.has_of_between {range : Range w} {lo hi x : ℤ}
    (hrange : Range.between w lo hi = some range) (hlo : lo ≤ x) (hhi : x ≤ hi) : range.Has x := by
  rw [Range.between, Option.dite_none_right_eq_some] at hrange
  obtain ⟨hfits, hrange⟩ := hrange
  rw [← Option.some.inj hrange]
  exact ⟨hlo, hhi⟩

/-- Each limb lies in its range. -/
def Within (ranges : List.Vector (Range w) n) (s : Fin n → ℤ) : Prop :=
  ∀ i, (ranges.get i).Has (s i)

variable {ranges ranges' : List.Vector (Range w) n} {s : Fin n → ℤ}

theorem Within.set (h : Within ranges s) {i : Fin n} {range : Range w} {x : ℤ}
    (hx : range.Has x) : Within (ranges.set i range) (Function.update s i x) := by
  intro k
  rcases eq_or_ne k i with rfl | hk
  · rwa [List.Vector.get_set_same, Function.update_self]
  · rw [List.Vector.get_set_of_ne hk.symm, Function.update_of_ne hk]
    exact h k

/-- Words in their ranges are read as the integers they stand for. -/
theorem Within.toInt_get (h : Within ranges s) (i : Fin n) : ((toLimbs w s).get i).toInt = s i := by
  rw [get_toLimbs, (h i).fits.toInt_ofInt]

/-- The ranges after something between `added.1` and `added.2` is added to a limb. -/
def addRange (ranges : List.Vector (Range w) n) (j : Fin n) (added : ℤ × ℤ) :
    Option (List.Vector (Range w) n) :=
  (Range.between w ((ranges.get j).lo + added.1) ((ranges.get j).hi + added.2)).map (ranges.set j)

/-- The bounds of the multiples of the numbers between two bounds. -/
def scaleBounds (factor lo hi : ℤ) : ℤ × ℤ :=
  if 0 ≤ factor then (lo * factor, hi * factor) else (hi * factor, lo * factor)

/-- The ranges after a statement, if what it shifts and what it writes is certain to fit. -/
def LimbStep.range : LimbStep n → List.Vector (Range w) n → Option (List.Vector (Range w) n)
  | .carry i bits bias j factor, ranges =>
      if i = j then none else do
        let shifted ← Range.between w ((ranges.get i).lo + bias) ((ranges.get i).hi + bias)
        let rest ← Range.between w (-bias) (2 ^ bits - 1 - bias)
        let ranges ← addRange ranges j
          (scaleBounds factor (shifted.lo >>> bits) (shifted.hi >>> bits))
        some (ranges.set i rest)
  | .fold i terms, ranges => do
      let zero ← Range.between w 0 0
      let ranges ← terms.foldlM (fun t term =>
        addRange t term.1 (scaleBounds term.2 (ranges.get i).lo (ranges.get i).hi)) ranges
      some (ranges.set i zero)

/-- The ranges after a program. -/
def rangeAll (steps : List (LimbStep n)) (ranges : List.Vector (Range w) n) :
    Option (List.Vector (Range w) n) :=
  steps.foldlM (fun ranges step => step.range ranges) ranges

theorem rangeAll_append (steps later : List (LimbStep n)) (ranges : List.Vector (Range w) n) :
    rangeAll (steps ++ later) ranges = (rangeAll steps ranges).bind (rangeAll later) :=
  List.foldlM_append

theorem mem_scaleBounds (factor : ℤ) {x lo hi : ℤ} (hlo : lo ≤ x) (hhi : x ≤ hi) :
    (scaleBounds factor lo hi).1 ≤ x * factor ∧ x * factor ≤ (scaleBounds factor lo hi).2 := by
  unfold scaleBounds
  split_ifs with hfactor
  · exact ⟨mul_le_mul_of_nonneg_right hlo hfactor, mul_le_mul_of_nonneg_right hhi hfactor⟩
  · have hneg : factor ≤ 0 := (not_le.1 hfactor).le
    exact ⟨mul_le_mul_of_nonpos_right hhi hneg, mul_le_mul_of_nonpos_right hlo hneg⟩

theorem Within.add (h : Within ranges s) {j : Fin n} {added : ℤ × ℤ} {x : ℤ}
    (hranges : addRange ranges j added = some ranges') (hx : added.1 ≤ x ∧ x ≤ added.2) :
    Within ranges' (Function.update s j (s j + x)) := by
  obtain ⟨range, hrange, rfl⟩ := Option.map_eq_some_iff.1 hranges
  exact h.set (Range.has_of_between hrange (add_le_add (h j).1 hx.1) (add_le_add (h j).2 hx.2))

/-- What remains of a limb after its carry. -/
theorem sub_shiftRight_mul (x bias : ℤ) (bits : ℕ) :
    -bias ≤ x - (x + bias) >>> bits * 2 ^ bits ∧
      x - (x + bias) >>> bits * 2 ^ bits ≤ 2 ^ bits - 1 - bias := by
  have hpow : (0 : ℤ) < 2 ^ bits := by positivity
  have hmod := Int.emod_add_mul_ediv (x + bias) (2 ^ bits)
  have hnonneg := Int.emod_nonneg (x + bias) hpow.ne'
  have hlt := Int.emod_lt_of_pos (x + bias) hpow
  rw [Int.shiftRight_eq_div_pow]
  push_cast
  constructor <;> linarith

theorem shiftRight_le_shiftRight {x y : ℤ} (h : x ≤ y) (bits : ℕ) : x >>> bits ≤ y >>> bits := by
  rw [Int.shiftRight_eq_div_pow, Int.shiftRight_eq_div_pow]
  exact Int.ediv_le_ediv (by positivity) h

/-! ## Soundness of the check -/

theorem carry_sound {i j : Fin n} {bits : ℕ} {bias factor : ℤ}
    (hranges : (LimbStep.carry i bits bias j factor).range ranges = some ranges')
    (h : Within ranges s) :
    (LimbStep.carry i bits bias j factor).run (toLimbs w s) =
        toLimbs w ((LimbStep.carry i bits bias j factor).exact s) ∧
      Within ranges' ((LimbStep.carry i bits bias j factor).exact s) := by
  rw [LimbStep.range, Option.ite_none_left_eq_some] at hranges
  obtain ⟨hne, hranges⟩ := hranges
  obtain ⟨shifted, hshifted, hranges⟩ := Option.bind_eq_some_iff.1 hranges
  obtain ⟨rest, hrest, hranges⟩ := Option.bind_eq_some_iff.1 hranges
  obtain ⟨middle, hmiddle, hranges⟩ := Option.bind_eq_some_iff.1 hranges
  obtain rfl := Option.some.inj hranges
  have hhas : shifted.Has (s i + bias) := Range.has_of_between hshifted
    (add_le_add_left (h i).1 bias) (add_le_add_left (h i).2 bias)
  have hcarry := mem_scaleBounds factor (shiftRight_le_shiftRight hhas.1 bits)
    (shiftRight_le_shiftRight hhas.2 bits)
  have hsame : ∀ x, Function.update s j x i = s i := fun x => Function.update_of_ne hne x s
  constructor
  · -- the word that is carried stands for the integer that is carried
    simp only [LimbStep.run, LimbStep.exact, get_toLimbs, ← BitVec.ofInt_add,
      hhas.fits.ofInt_sshiftRight, ← BitVec.ofInt_mul, ← toLimbs_update, hsame, ofInt_shiftLeft,
      ← ofInt_sub]
  · simp only [LimbStep.exact, hsame]
    obtain ⟨hlo, hhi⟩ := sub_shiftRight_mul (s i) bias bits
    exact (h.add hmiddle hcarry).set (Range.has_of_between hrest hlo hhi)

theorem fold_terms_sound {x lo hi : ℤ} (hlo : lo ≤ x) (hhi : x ≤ hi) (terms : List (Fin n × ℤ))
    (h : Within ranges s)
    (hranges : terms.foldlM (fun t term => addRange t term.1 (scaleBounds term.2 lo hi)) ranges =
      some ranges') :
    terms.foldl (fun t term => t.set term.1
        (t.get term.1 + BitVec.ofInt w x * BitVec.ofInt w term.2)) (toLimbs w s) =
      toLimbs w (terms.foldl (fun t term =>
        Function.update t term.1 (t term.1 + x * term.2)) s) ∧
    Within ranges' (terms.foldl (fun t term =>
      Function.update t term.1 (t term.1 + x * term.2)) s) := by
  induction terms generalizing ranges s with
  | nil =>
      rw [List.foldlM_nil, Option.pure_def, Option.some.injEq] at hranges
      exact ⟨rfl, hranges ▸ h⟩
  | cons term terms ih =>
      rw [List.foldlM_cons, Option.bind_eq_bind, Option.bind_eq_some_iff] at hranges
      obtain ⟨middle, hmiddle, hranges⟩ := hranges
      have hnext := ih (h.add hmiddle (mem_scaleBounds term.2 hlo hhi)) hranges
      rw [toLimbs_update, BitVec.ofInt_add, BitVec.ofInt_mul, ← get_toLimbs] at hnext
      exact hnext

theorem fold_sound {i : Fin n} {terms : List (Fin n × ℤ)}
    (hranges : (LimbStep.fold i terms).range ranges = some ranges') (h : Within ranges s) :
    (LimbStep.fold i terms).run (toLimbs w s) = toLimbs w ((LimbStep.fold i terms).exact s) ∧
      Within ranges' ((LimbStep.fold i terms).exact s) := by
  obtain ⟨zero, hzero, hranges⟩ := Option.bind_eq_some_iff.1 hranges
  obtain ⟨middle, hmiddle, hranges⟩ := Option.bind_eq_some_iff.1 hranges
  obtain rfl := Option.some.inj hranges
  obtain ⟨hrun, hwithin⟩ := fold_terms_sound (h i).1 (h i).2 terms h hmiddle
  constructor
  · simp only [LimbStep.run, LimbStep.exact, toLimbs_update, get_toLimbs, ← hrun]
    rfl
  · exact hwithin.set (Range.has_of_between hzero le_rfl le_rfl)

/-- A program that passes the check does on words what it does on integers. -/
theorem rangeAll_sound {steps : List (LimbStep n)} (hranges : rangeAll steps ranges = some ranges')
    (h : Within ranges s) :
    runAll steps (toLimbs w s) = toLimbs w (exactAll steps s) ∧
      Within ranges' (exactAll steps s) := by
  induction steps generalizing ranges s with
  | nil =>
      rw [rangeAll, List.foldlM_nil, Option.pure_def, Option.some.injEq] at hranges
      exact ⟨rfl, hranges ▸ h⟩
  | cons step steps ih =>
      rw [rangeAll, List.foldlM_cons, Option.bind_eq_bind, Option.bind_eq_some_iff] at hranges
      obtain ⟨middle, hmiddle, hranges⟩ := hranges
      obtain ⟨hrun, hwithin⟩ : step.run (toLimbs w s) = toLimbs w (step.exact s) ∧
          Within middle (step.exact s) := by
        cases step with
        | carry => exact carry_sound hmiddle h
        | fold => exact fold_sound hmiddle h
      have hnext := ih hranges hwithin
      rw [← hrun] at hnext
      exact hnext

/-- A program passes the check up to every point of it. -/
theorem noOverflow_of_rangeAll {steps : List (LimbStep n)}
    (hranges : rangeAll steps ranges = some ranges') (h : Within ranges s) :
    NoOverflow steps (toLimbs w s) := by
  rintro past later rfl i
  rw [rangeAll_append, Option.bind_eq_some_iff] at hranges
  obtain ⟨middle, hpast, -⟩ := hranges
  obtain ⟨hrun, hwithin⟩ := rangeAll_sound hpast h
  rw [hrun, hwithin.toInt_get i, funext h.toInt_get]

/-! ## The represented value -/

/-- The number that limbs with weights represent. -/
def limbValue (weight : ℕ → ℤ) (s : Fin n → ℤ) : ℤ := ∑ i, s i * weight i

theorem limbValue_coe (weight x : ℕ → ℤ) (n : ℕ) :
    limbValue weight (fun i : Fin n => x i) = ∑ i ∈ Finset.range n, x i * weight i :=
  (Finset.sum_range fun i => x i * weight i).symm

/-- The limb at a position that is not known to be one. -/
def limbAt [NeZero n] (s : Fin n → ℤ) (i : ℕ) : ℤ := s (Fin.ofNat n i)

@[simp] theorem limbAt_val [NeZero n] (s : Fin n → ℤ) (i : Fin n) : limbAt s i = s i := by
  rw [limbAt, Fin.ofNat_val_eq_self]

theorem forall_limbAt [NeZero n] {s : Fin n → ℤ} {P : ℕ → ℤ → Prop} (h : ∀ i : Fin n, P i (s i))
    (i : ℕ) (hi : i < n) : P i (limbAt s i) := by
  have hlimb := h ⟨i, hi⟩
  rwa [← limbAt_val s] at hlimb

theorem limbValue_eq_sum_range [NeZero n] (weight : ℕ → ℤ) (s : Fin n → ℤ) :
    limbValue weight s = ∑ i ∈ Finset.range n, limbAt s i * weight i := by
  rw [limbValue, Finset.sum_range]
  simp only [limbAt_val]

theorem limbValue_update (weight : ℕ → ℤ) (s : Fin n → ℤ) (j : Fin n) (x : ℤ) :
    limbValue weight (Function.update s j x) = limbValue weight s + (x - s j) * weight j := by
  have hrest : ∀ i ∈ Finset.univ.erase j,
      Function.update s j x i * weight i = s i * weight i := fun i hi => by
    rw [Function.update_of_ne (Finset.ne_of_mem_erase hi)]
  rw [limbValue, limbValue, ← Finset.add_sum_erase _ _ (Finset.mem_univ j),
    ← Finset.add_sum_erase _ _ (Finset.mem_univ j), Finset.sum_congr rfl hrest,
    Function.update_self]
  ring

/-- What a statement moves weighs the same modulo `m` where it arrives. -/
def LimbStep.Balanced (m : ℤ) (weight : ℕ → ℤ) : LimbStep n → Prop
  | .carry i bits _ j factor => i ≠ j ∧ m ∣ factor * weight j - 2 ^ bits * weight i
  | .fold i terms =>
      (∀ term ∈ terms, term.1 ≠ i) ∧
        m ∣ (terms.map fun term => term.2 * weight term.1).sum - weight i

instance (m : ℤ) (weight : ℕ → ℤ) : (step : LimbStep n) → Decidable (step.Balanced m weight)
  | .carry _ _ _ _ _ => inferInstanceAs (Decidable (_ ∧ _))
  | .fold _ _ => inferInstanceAs (Decidable (_ ∧ _))

theorem fold_terms_value (weight : ℕ → ℤ) (i : Fin n) (x : ℤ) (terms : List (Fin n × ℤ))
    (s : Fin n → ℤ) (hterms : ∀ term ∈ terms, term.1 ≠ i) :
    let t := terms.foldl (fun t term => Function.update t term.1 (t term.1 + x * term.2)) s
    limbValue weight t =
        limbValue weight s + x * (terms.map fun term => term.2 * weight term.1).sum ∧
      t i = s i := by
  induction terms generalizing s with
  | nil => simp
  | cons term terms ih =>
      rw [List.forall_mem_cons] at hterms
      obtain ⟨hvalue, hsame⟩ := ih (Function.update s term.1 (s term.1 + x * term.2)) hterms.2
      rw [limbValue_update] at hvalue
      rw [Function.update_of_ne hterms.1.symm] at hsame
      rw [List.foldl_cons, List.map_cons, List.sum_cons]
      refine ⟨hvalue.trans ?_, hsame⟩
      ring

theorem exact_carry_value (weight : ℕ → ℤ) (s : Fin n → ℤ) {i j : Fin n} (hne : i ≠ j) (bits : ℕ)
    (bias factor : ℤ) :
    limbValue weight ((LimbStep.carry i bits bias j factor).exact s) = limbValue weight s +
      (s i + bias) >>> bits * (factor * weight j - 2 ^ bits * weight i) := by
  rw [LimbStep.exact, limbValue_update, limbValue_update, Function.update_of_ne hne]
  ring

theorem exact_fold_value (weight : ℕ → ℤ) (s : Fin n → ℤ) {i : Fin n} {terms : List (Fin n × ℤ)}
    (hterms : ∀ term ∈ terms, term.1 ≠ i) :
    limbValue weight ((LimbStep.fold i terms).exact s) = limbValue weight s +
      s i * ((terms.map fun term => term.2 * weight term.1).sum - weight i) := by
  obtain ⟨hvalue, hsame⟩ := fold_terms_value weight i (s i) terms s hterms
  rw [LimbStep.exact, limbValue_update, hvalue, hsame]
  ring

theorem LimbStep.Balanced.exact_value {m : ℤ} {weight : ℕ → ℤ} {step : LimbStep n}
    (h : step.Balanced m weight) (s : Fin n → ℤ) :
    limbValue weight (step.exact s) ≡ limbValue weight s [ZMOD m] := by
  apply Int.ModEq.symm
  rw [Int.modEq_iff_dvd]
  cases step with
  | carry i bits bias j factor =>
      rw [exact_carry_value weight s h.1, add_sub_cancel_left]
      exact h.2.mul_left _
  | fold i terms =>
      rw [exact_fold_value weight s h.1, add_sub_cancel_left]
      exact h.2.mul_left _

/-- A balanced program keeps the value modulo `m`; with `m = 0`, exactly. -/
theorem exactAll_value {m : ℤ} {weight : ℕ → ℤ} {steps : List (LimbStep n)}
    (h : ∀ step ∈ steps, step.Balanced m weight) (s : Fin n → ℤ) :
    limbValue weight (exactAll steps s) ≡ limbValue weight s [ZMOD m] := by
  induction steps generalizing s with
  | nil => rfl
  | cons step steps ih =>
      rw [List.forall_mem_cons] at h
      exact (ih h.2 (step.exact s)).trans (h.1.exact_value s)

/-! ## Products -/

/-- Column `k` of the product of two numbers in limbs. -/
def column (a b : ℕ → ℕ) (k : ℕ) : ℕ := ∑ i ∈ Finset.range (k + 1), a i * b (k - i)

/-- The columns make up the product. -/
theorem sum_column {a b : ℕ → ℕ} {n : ℕ} (ha : ∀ i, n ≤ i → a i = 0) (hb : ∀ i, n ≤ i → b i = 0)
    (x : ℕ) :
    ∑ k ∈ Finset.range (2 * n), column a b k * x ^ k =
      (∑ i ∈ Finset.range n, a i * x ^ i) * ∑ i ∈ Finset.range n, b i * x ^ i := by
  have hmaps : ∀ p ∈ Finset.range n ×ˢ Finset.range n, p.1 + p.2 ∈ Finset.range (2 * n) := by
    intro p hp
    rw [Finset.mem_product, Finset.mem_range, Finset.mem_range] at hp
    exact Finset.mem_range.2 (by omega)
  rw [Finset.sum_mul_sum, ← Finset.sum_product', ← Finset.sum_fiberwise_of_maps_to hmaps]
  refine Finset.sum_congr rfl fun k _ => ?_
  rw [column, ← Finset.Nat.sum_antidiagonal_eq_sum_range_succ fun i j => a i * b j, Finset.sum_mul]
  symm
  -- the pairs of a column that are left out have a limb beyond the last
  refine Finset.sum_subset_zero_on_sdiff ?_ ?_ ?_
  · intro p hp
    exact Finset.HasAntidiagonal.mem_antidiagonal.2 (Finset.mem_filter.1 hp).2
  · intro p hp
    rw [Finset.mem_sdiff, Finset.HasAntidiagonal.mem_antidiagonal, Finset.mem_filter,
      Finset.mem_product, Finset.mem_range, Finset.mem_range] at hp
    rcases Nat.lt_or_ge p.1 n with hlt | hge
    · rw [hb p.2 (by omega), mul_zero, zero_mul]
    · rw [ha p.1 hge, zero_mul, zero_mul]
  · intro p hp
    rw [← (Finset.mem_filter.1 hp).2]
    ring

/-- Words are summed like the integers they stand for. -/
theorem foldl_add_ofInt {ι : Type*} {x : ι → BitVec w} {y : ι → ℤ} {terms : List ι}
    (h : ∀ i ∈ terms, x i = BitVec.ofInt w (y i)) (c : ℤ) :
    terms.foldl (fun s i => s + x i) (BitVec.ofInt w c) =
      BitVec.ofInt w (c + (terms.map y).sum) := by
  induction terms generalizing c with
  | nil => simp
  | cons i terms ih =>
      rw [List.forall_mem_cons] at h
      rw [List.foldl_cons, h.1, ← BitVec.ofInt_add, ih h.2, List.map_cons, List.sum_cons, add_assoc]

theorem column_le_column {a b a' b' : ℕ → ℕ} (ha : ∀ i, a i ≤ a' i) (hb : ∀ i, b i ≤ b' i) (k : ℕ) :
    column a b k ≤ column a' b' k :=
  Finset.sum_le_sum fun _ _ => Nat.mul_le_mul (ha _) (hb _)

/-- A product modulo `m` in `n` limbs: the term of limbs `i` and `j` counts in limb
`i + j`, which wraps around, with a factor that makes up for the weights. -/
theorem sum_cyclic_columns [NeZero n] {m : ℤ} {weight : ℕ → ℤ} {factor : Fin n → Fin n → ℤ}
    (h : ∀ i j : Fin n, factor (i + j) i * weight (i + j : Fin n) ≡ weight i * weight j [ZMOD m])
    (a b : Fin n → ℤ) :
    limbValue weight (fun k => ∑ i, factor k i * (a i * b (k - i))) ≡
      limbValue weight a * limbValue weight b [ZMOD m] := by
  -- for each limb of the left factor, the limbs of the right one in the order they meet it
  have hrow : ∀ i : Fin n, ∑ k, factor k i * (a i * b (k - i)) * weight k =
      ∑ j, a i * b j * (factor (i + j) i * weight (i + j : Fin n)) := by
    intro i
    refine (Fintype.sum_equiv (Equiv.addLeft i) _ _ fun j => ?_).symm
    rw [Equiv.coe_addLeft, add_sub_cancel_left]
    ring
  simp only [limbValue, Finset.sum_mul]
  rw [Finset.sum_comm, Finset.sum_congr rfl fun i _ => hrow i]
  refine Int.ModEq.sum fun i _ => ?_
  rw [Finset.mul_sum]
  refine Int.ModEq.sum fun j _ => ?_
  calc a i * b j * (factor (i + j) i * weight (i + j : Fin n))
      ≡ a i * b j * (weight i * weight j) [ZMOD m] := (h i j).mul_left _
    _ = a i * weight i * (b j * weight j) := by ring

end Foundation
