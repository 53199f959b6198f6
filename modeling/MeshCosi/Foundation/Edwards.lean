import Mathlib.Algebra.Field.Basic
import Mathlib.Algebra.Group.Even
import Mathlib.Tactic.FieldSimp
import Mathlib.Tactic.LinearCombination
import Mathlib.Tactic.Ring

/-!
# Complete twisted Edwards curves

The curve `-x^2 + y^2 = 1 + d x^2 y^2` over a field with a square root of `-1` in
which `d` has none.  Its addition law has no exceptional cases: no denominator
vanishes, so the points are a commutative group under one pair of formulas.  The
group laws are identities between polynomials modulo the equations of the points.
-/

namespace Foundation

/-- A twisted Edwards curve with `a = -1` and a complete addition law. -/
structure EdwardsCurve (F : Type*) [Field F] where
  d : F
  i : F
  i_sq : i ^ 2 = -1
  not_isSquare_d : ¬IsSquare d
  two_ne_zero : (2 : F) ≠ 0

namespace EdwardsCurve

variable {F : Type*} [Field F] (E : EdwardsCurve F)

/-- The equation of the curve. -/
def OnCurve (x y : F) : Prop := y ^ 2 - x ^ 2 = 1 + E.d * x ^ 2 * y ^ 2

instance [DecidableEq F] (x y : F) : Decidable (E.OnCurve x y) :=
  inferInstanceAs (Decidable (_ = _))

/-- A point of the curve. -/
@[ext]
structure Point where
  x : F
  y : F
  onCurve : E.OnCurve x y

variable {E}

/-! ## The denominators -/

/-- If a denominator vanished, `d` would be a square. -/
theorem OnCurve.eq_zero_of_denominator {x₁ y₁ x₂ y₂ e r : F} (h₁ : E.OnCurve x₁ y₁)
    (h₂ : E.OnCurve x₂ y₂) (he : E.d * x₁ * x₂ * y₁ * y₂ = e) (hsign : e ^ 2 = 1)
    (hr : r ^ 2 = -1) : r * x₂ + y₂ = 0 := by
  unfold OnCurve at h₁ h₂
  by_contra hne
  have hx : x₁ ≠ 0 := by
    rintro rfl
    simp [← he] at hsign
  have hy : y₁ ≠ 0 := by
    rintro rfl
    simp [← he] at hsign
  have hsquare : (r * x₁ + e * y₁) ^ 2 = E.d * (x₁ * y₁ * (r * x₂ + y₂)) ^ 2 := by
    linear_combination (x₁ ^ 2 - E.d * x₁ ^ 2 * y₁ ^ 2 * x₂ ^ 2) * hr + (y₁ ^ 2 - 1) * hsign +
      h₁ - E.d * x₁ ^ 2 * y₁ ^ 2 * h₂ - (2 * r * x₁ * y₁ + E.d * x₁ * x₂ * y₁ * y₂ + e) * he
  refine E.not_isSquare_d ⟨(r * x₁ + e * y₁) / (x₁ * y₁ * (r * x₂ + y₂)), ?_⟩
  have hdenominator : x₁ * y₁ * (r * x₂ + y₂) ≠ 0 := mul_ne_zero (mul_ne_zero hx hy) hne
  rw [← pow_two, div_pow, hsquare, mul_div_cancel_right₀ _ (pow_ne_zero 2 hdenominator)]

theorem OnCurve.denominator_sq_ne_one {x₁ y₁ x₂ y₂ : F} (h₁ : E.OnCurve x₁ y₁)
    (h₂ : E.OnCurve x₂ y₂) : (E.d * x₁ * x₂ * y₁ * y₂) ^ 2 ≠ 1 := by
  intro hsign
  -- both roots of -1 give an equation, and together they leave only the origin
  have hplus := h₁.eq_zero_of_denominator h₂ rfl hsign E.i_sq
  have hminus := h₁.eq_zero_of_denominator h₂ rfl hsign (r := -E.i) (by rw [neg_sq, E.i_sq])
  have hy : y₂ = 0 := by
    have htwice : 2 * y₂ = 0 := by linear_combination hplus + hminus
    exact (mul_eq_zero.1 htwice).resolve_left E.two_ne_zero
  simp [hy] at hsign

theorem OnCurve.one_add_ne_zero {x₁ y₁ x₂ y₂ : F} (h₁ : E.OnCurve x₁ y₁)
    (h₂ : E.OnCurve x₂ y₂) : 1 + E.d * x₁ * x₂ * y₁ * y₂ ≠ 0 := fun h =>
  h₁.denominator_sq_ne_one h₂ (by linear_combination (E.d * x₁ * x₂ * y₁ * y₂ - 1) * h)

theorem OnCurve.one_sub_ne_zero {x₁ y₁ x₂ y₂ : F} (h₁ : E.OnCurve x₁ y₁)
    (h₂ : E.OnCurve x₂ y₂) : 1 - E.d * x₁ * x₂ * y₁ * y₂ ≠ 0 := fun h =>
  h₁.denominator_sq_ne_one h₂ (by linear_combination -(E.d * x₁ * x₂ * y₁ * y₂ + 1) * h)

/-! ## Addition -/

theorem onCurve_div_iff {a z b w : F} (hz : z ≠ 0) (hw : w ≠ 0) :
    E.OnCurve (a / z) (b / w) ↔
      (b * z) ^ 2 - (a * w) ^ 2 = (z * w) ^ 2 + E.d * (a * b) ^ 2 := by
  unfold OnCurve
  field_simp

theorem OnCurve.add {x₁ y₁ x₂ y₂ : F} (h₁ : E.OnCurve x₁ y₁) (h₂ : E.OnCurve x₂ y₂) :
    E.OnCurve ((x₁ * y₂ + x₂ * y₁) / (1 + E.d * x₁ * x₂ * y₁ * y₂))
      ((y₁ * y₂ + x₁ * x₂) / (1 - E.d * x₁ * x₂ * y₁ * y₂)) := by
  rw [onCurve_div_iff (h₁.one_add_ne_zero h₂) (h₁.one_sub_ne_zero h₂)]
  unfold OnCurve at h₁ h₂
  grind

namespace Point

instance : Zero E.Point := ⟨⟨0, 1, by simp [OnCurve]⟩⟩

instance : Neg E.Point := ⟨fun P => ⟨-P.x, P.y, by simpa [OnCurve] using P.onCurve⟩⟩

instance : Add E.Point := ⟨fun P Q => ⟨_, _, P.onCurve.add Q.onCurve⟩⟩

@[simp] theorem zero_x : (0 : E.Point).x = 0 := rfl

@[simp] theorem zero_y : (0 : E.Point).y = 1 := rfl

@[simp] theorem neg_x (P : E.Point) : (-P).x = -P.x := rfl

@[simp] theorem neg_y (P : E.Point) : (-P).y = P.y := rfl

/-! ## Points as fractions -/

/-- The coordinates of a point as two fractions `a / z` and `b / w`. -/
structure IsFraction (P : E.Point) (a z b w : F) : Prop where
  z_ne_zero : z ≠ 0
  w_ne_zero : w ≠ 0
  x_mul : P.x * z = a
  y_mul : P.y * w = b

theorem isFraction_self (P : E.Point) : P.IsFraction P.x 1 P.y 1 :=
  ⟨one_ne_zero, one_ne_zero, mul_one _, mul_one _⟩

theorem isFraction_add (P Q : E.Point) :
    (P + Q).IsFraction (P.x * Q.y + Q.x * P.y) (1 + E.d * P.x * Q.x * P.y * Q.y)
      (P.y * Q.y + P.x * Q.x) (1 - E.d * P.x * Q.x * P.y * Q.y) :=
  have hz := P.onCurve.one_add_ne_zero Q.onCurve
  have hw := P.onCurve.one_sub_ne_zero Q.onCurve
  ⟨hz, hw, div_mul_cancel₀ _ hz, div_mul_cancel₀ _ hw⟩

/-- Fractions for the same coordinates. -/
theorem IsFraction.ext {P Q : E.Point} {a z b w a' z' b' w' : F} (hP : P.IsFraction a z b w)
    (hQ : Q.IsFraction a' z' b' w') (hx : a * z' = a' * z) (hy : b * w' = b' * w) : P = Q := by
  rw [← hP.x_mul, ← hQ.x_mul] at hx
  rw [← hP.y_mul, ← hQ.y_mul] at hy
  ext
  · apply mul_right_cancel₀ (mul_ne_zero hP.z_ne_zero hQ.z_ne_zero)
    linear_combination hx
  · apply mul_right_cancel₀ (mul_ne_zero hP.w_ne_zero hQ.w_ne_zero)
    linear_combination hy

/-- The addition law on fractions. -/
theorem IsFraction.add {P Q : E.Point} {a z b w a' z' b' w' : F} (hP : P.IsFraction a z b w)
    (hQ : Q.IsFraction a' z' b' w') :
    (P + Q).IsFraction (a * b' * (w * z') + a' * b * (z * w'))
      (z * w * (z' * w') + E.d * a * a' * b * b') (b * b' * (z * z') + a * a' * (w * w'))
      (z * w * (z' * w') - E.d * a * a' * b * b') := by
  obtain ⟨hz, hw, rfl, rfl⟩ := hP
  obtain ⟨hz', hw', rfl, rfl⟩ := hQ
  have hsum := isFraction_add P Q
  have hscale : z * w * (z' * w') ≠ 0 := mul_ne_zero (mul_ne_zero hz hw) (mul_ne_zero hz' hw')
  refine ⟨?_, ?_, ?_, ?_⟩
  · intro h
    apply mul_ne_zero hsum.z_ne_zero hscale
    linear_combination h
  · intro h
    apply mul_ne_zero hsum.w_ne_zero hscale
    linear_combination h
  · linear_combination z * w * (z' * w') * hsum.x_mul
  · linear_combination z * w * (z' * w') * hsum.y_mul

/-! ## The group laws -/

protected theorem add_comm (P Q : E.Point) : P + Q = Q + P :=
  (isFraction_add P Q).ext (isFraction_add Q P) (by ring) (by ring)

protected theorem zero_add (P : E.Point) : 0 + P = P :=
  (isFraction_add 0 P).ext (isFraction_self P) (by simp) (by simp)

protected theorem neg_add_cancel (P : E.Point) : -P + P = 0 := by
  have hcurve : P.y ^ 2 - P.x ^ 2 = 1 + E.d * P.x ^ 2 * P.y ^ 2 := P.onCurve
  refine (isFraction_add (-P) P).ext (isFraction_self 0) ?_ ?_
  · rw [neg_x, neg_y, zero_x]
    ring
  · rw [neg_x, neg_y, zero_y]
    linear_combination hcurve

protected theorem add_assoc (P Q R : E.Point) : P + Q + R = P + (Q + R) := by
  have hP : P.y ^ 2 - P.x ^ 2 = 1 + E.d * P.x ^ 2 * P.y ^ 2 := P.onCurve
  have hQ : Q.y ^ 2 - Q.x ^ 2 = 1 + E.d * Q.x ^ 2 * Q.y ^ 2 := Q.onCurve
  have hR : R.y ^ 2 - R.x ^ 2 = 1 + E.d * R.x ^ 2 * R.y ^ 2 := R.onCurve
  refine ((isFraction_add P Q).add (isFraction_self R)).ext
    ((isFraction_self P).add (isFraction_add Q R)) ?_ ?_
  -- the differences lie in the ideal of the three equations
  · grind
  · grind

instance : AddCommGroup E.Point where
  add_assoc := Point.add_assoc
  zero_add := Point.zero_add
  add_zero P := (Point.add_comm P 0).trans (Point.zero_add P)
  neg_add_cancel := Point.neg_add_cancel
  add_comm := Point.add_comm
  nsmul := nsmulRec
  zsmul := zsmulRec

end Point

end EdwardsCurve

end Foundation
