import MeshCosi.Edwards.Point

/-!
# The tables of multiples of the base point

`bi` holds the odd multiples up to 15, and row `pos` of `base` the multiples up to 8 of
`256^pos` times the base point.  The entries are compared with multiples that are
computed as fractions, by evaluation.
-/

namespace MeshCosi.Edwards25519

open Foundation

/-- The remainders of two integers agree. -/
def SameRemainder (x y : ℤ) : Prop := (x - y) % fieldPrime = 0

instance (x y : ℤ) : Decidable (SameRemainder x y) := inferInstanceAs (Decidable (_ = _))

theorem SameRemainder.cast_eq {x y : ℤ} (h : SameRemainder x y) :
    (x : ZMod fieldPrime) = (y : ZMod fieldPrime) :=
  ((ZMod.intCast_eq_intCast_iff_dvd_sub y x fieldPrime).2 (Int.dvd_of_emod_eq_zero h)).symm

/-- The entry holds the coordinates `a / z` and `b / w`. -/
def PreComputedGroupElement.Matches (e : PreComputedGroupElement) (s : Fraction) : Prop :=
  (Bounded e.yPlusX ∧ Bounded e.yMinusX ∧ Bounded e.xy2d) ∧
    SameRemainder (limbsValue e.yPlusX * (s.z * s.w : ℕ)) (s.b * s.z + s.a * s.w : ℕ) ∧
    SameRemainder (limbsValue e.yMinusX * (s.z * s.w : ℕ)) ((s.b * s.z : ℕ) - (s.a * s.w : ℕ)) ∧
    SameRemainder (limbsValue e.xy2d * (s.z * s.w : ℕ)) (2 * dNat * s.a * s.b : ℕ)

instance (e : PreComputedGroupElement) (s : Fraction) : Decidable (e.Matches s) :=
  inferInstanceAs (Decidable (_ ∧ _))

theorem PreComputedGroupElement.Matches.represents {e : PreComputedGroupElement} {s : Fraction}
    {P : CurvePoint} (h : e.Matches s) (hP : P.Evaluates s) : e.Represents P := by
  obtain ⟨⟨hyPlusX, hyMinusX, hxy2d⟩, hsum, hdifference, hproduct⟩ := h
  obtain ⟨hz, hw, hx, hy⟩ := hP
  have hzw : (s.z : ZMod fieldPrime) * s.w ≠ 0 := mul_ne_zero hz hw
  refine ⟨_, _, _, hyPlusX.denotes, hyMinusX.denotes, hxy2d.denotes, ?_, ?_, ?_⟩
  · apply mul_right_cancel₀ hzw
    have h := hsum.cast_eq
    push_cast at h
    rw [h, ← hx, ← hy]
    ring
  · apply mul_right_cancel₀ hzw
    have h := hdifference.cast_eq
    push_cast at h
    rw [h, ← hx, ← hy]
    ring
  · apply mul_right_cancel₀ hzw
    have h := hproduct.cast_eq
    push_cast at h
    rw [h, ← hx, ← hy]
    change 2 * (dNat : ZMod fieldPrime) * P.x * P.y * (s.z * s.w) = _
    ring

/-- The entries hold a point and what follows in steps. -/
def MatchesSteps (step : Fraction) : Fraction → List PreComputedGroupElement → Prop
  | _, [] => True
  | s, e :: entries => e.Matches s ∧ MatchesSteps step (s.add fieldPrime dNat step) entries

instance decidableMatchesSteps (step : Fraction) : ∀ (s : Fraction) (entries),
    Decidable (MatchesSteps step s entries)
  | _, [] => inferInstanceAs (Decidable True)
  | s, e :: entries =>
      have := decidableMatchesSteps step (s.add fieldPrime dNat step) entries
      inferInstanceAs (Decidable (e.Matches s ∧ _))

theorem MatchesSteps.represents {step s : Fraction} {entries : List PreComputedGroupElement}
    (h : MatchesSteps step s entries) {P Q : CurvePoint} (hP : P.Evaluates s)
    (hQ : Q.Evaluates step) {j : ℕ} (hj : j < entries.length) :
    (entries.getD j .zero).Represents (P + j • Q) := by
  induction entries generalizing s P j with
  | nil => exact absurd hj (Nat.not_lt_zero j)
  | cons e entries ih =>
      cases j with
      | zero =>
          rw [zero_smul, add_zero]
          exact h.1.represents hP
      | succ j =>
          rw [succ_nsmul', ← add_assoc]
          exact ih h.2 (hP.add rfl hQ) (Nat.lt_of_succ_lt_succ hj)

/-- Each row holds the multiples of a point, 256 times that of the row before. -/
def MatchesRows : Fraction → List (List PreComputedGroupElement) → Prop
  | _, [] => True
  | s, row :: rows =>
      (row.length = 8 ∧ MatchesSteps s s row) ∧
        MatchesRows (Fraction.mul fieldPrime dNat 9 256 s) rows

instance decidableMatchesRows : ∀ (s : Fraction) (rows), Decidable (MatchesRows s rows)
  | _, [] => inferInstanceAs (Decidable True)
  | s, row :: rows =>
      have := decidableMatchesRows (Fraction.mul fieldPrime dNat 9 256 s) rows
      inferInstanceAs (Decidable ((row.length = 8 ∧ MatchesSteps s s row) ∧ _))

theorem MatchesRows.represents {s : Fraction} {rows : List (List PreComputedGroupElement)}
    (h : MatchesRows s rows) {P : CurvePoint} (hP : P.Evaluates s) {pos : ℕ}
    (hpos : pos < rows.length) {j : ℕ} (hj : j < 8) :
    ((rows.getD pos []).getD j .zero).Represents ((j + 1) • 256 ^ pos • P) := by
  induction rows generalizing s P pos with
  | nil => exact absurd hpos (Nat.not_lt_zero pos)
  | cons row rows ih =>
      cases pos with
      | zero =>
          rw [pow_zero, one_nsmul, succ_nsmul']
          exact h.1.2.represents hP hP (hj.trans_eq h.1.1.symm)
      | succ pos =>
          rw [pow_succ', mul_nsmul]
          exact ih h.2 (hP.mul rfl (by norm_num)) (Nat.lt_of_succ_lt_succ hpos)

/-- The base point as fractions. -/
def baseFraction : Fraction := ⟨baseX, 1, baseY, 1⟩

theorem matchesSteps_bi :
    MatchesSteps (baseFraction.add fieldPrime dNat baseFraction) baseFraction bi := by
  decide +kernel

theorem matchesRows_base : MatchesRows baseFraction base := by
  decide +kernel

/-- Entry `j` of `bi` is an odd multiple of the base point. -/
theorem bi_represents {j : ℕ} (hj : j < 8) :
    (bi.getD j .zero).Represents ((2 * j + 1) • basePoint) := by
  have hdouble := basePoint_evaluates.add rfl basePoint_evaluates
  have h := matchesSteps_bi.represents basePoint_evaluates hdouble hj
  rwa [← two_nsmul, ← mul_nsmul, ← succ_nsmul'] at h

/-- Entry `j` of row `pos` of `base`. -/
theorem base_represents {pos j : ℕ} (hpos : pos < 32) (hj : j < 8) :
    ((base.getD pos []).getD j .zero).Represents ((j + 1) • 256 ^ pos • basePoint) :=
  matchesRows_base.represents basePoint_evaluates hpos hj

end MeshCosi.Edwards25519
