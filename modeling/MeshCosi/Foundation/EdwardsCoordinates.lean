import MeshCosi.Foundation.Edwards

/-!
# Coordinates without division

The systems of coordinates in which points are added without dividing: projective and
extended coordinates, the fractions that an addition leaves, and the two forms in
which the second summand is prepared.  A point with any of its coordinates is a
relation, since coordinates are only determined up to a factor.
-/

namespace Foundation

namespace EdwardsCurve.Point

variable {F : Type*} [Field F] {E : EdwardsCurve F}

/-- `x = X / Z` and `y = Y / Z`. -/
structure IsProjective (P : E.Point) (X Y Z : F) : Prop where
  z_ne_zero : Z ≠ 0
  x_mul : P.x * Z = X
  y_mul : P.y * Z = Y

/-- Projective coordinates with `T = XY / Z`. -/
structure IsExtended (P : E.Point) (X Y Z T : F) : Prop extends P.IsProjective X Y Z where
  t_mul : P.x * P.y * Z = T

/-- The sum and the difference of affine coordinates, and `2dxy`. -/
structure IsPrecomputed (P : E.Point) (yPlusX yMinusX xy2d : F) : Prop where
  yPlusX_eq : P.y + P.x = yPlusX
  yMinusX_eq : P.y - P.x = yMinusX
  xy2d_eq : 2 * E.d * P.x * P.y = xy2d

/-- The same for projective coordinates. -/
structure IsCached (P : E.Point) (yPlusX yMinusX Z T2d : F) : Prop where
  z_ne_zero : Z ≠ 0
  yPlusX_eq : (P.y + P.x) * Z = yPlusX
  yMinusX_eq : (P.y - P.x) * Z = yMinusX
  t2d_eq : 2 * E.d * P.x * P.y * Z = T2d

variable {P Q : E.Point} {X Y Z T yPlusX yMinusX Z' T2d xy2d a z b w : F}

/-! ## Conversions -/

theorem isExtended_zero : (0 : E.Point).IsExtended 0 1 1 0 :=
  ⟨⟨one_ne_zero, by simp, by simp⟩, by simp⟩

theorem isPrecomputed_zero : (0 : E.Point).IsPrecomputed 1 1 0 :=
  ⟨by simp, by simp, by simp⟩

theorem IsFraction.toProjective (h : P.IsFraction a z b w) :
    P.IsProjective (a * w) (b * z) (z * w) := by
  obtain ⟨hz, hw, rfl, rfl⟩ := h
  exact ⟨mul_ne_zero hz hw, by ring, by ring⟩

theorem IsFraction.toExtended (h : P.IsFraction a z b w) :
    P.IsExtended (a * w) (b * z) (z * w) (a * b) := by
  refine ⟨h.toProjective, ?_⟩
  rw [← h.x_mul, ← h.y_mul]
  ring

theorem IsExtended.toCached (h : P.IsExtended X Y Z T) :
    P.IsCached (Y + X) (Y - X) Z (T * (2 * E.d)) := by
  obtain ⟨⟨hz, rfl, rfl⟩, rfl⟩ := h
  exact ⟨hz, by ring, by ring, by ring⟩

theorem IsExtended.neg (h : P.IsExtended X Y Z T) : (-P).IsExtended (-X) Y Z (-T) := by
  obtain ⟨⟨hz, rfl, rfl⟩, rfl⟩ := h
  exact ⟨⟨hz, by simp, by simp⟩, by simp⟩

theorem IsPrecomputed.neg (h : P.IsPrecomputed yPlusX yMinusX xy2d) :
    (-P).IsPrecomputed yMinusX yPlusX (-xy2d) := by
  obtain ⟨rfl, rfl, rfl⟩ := h
  exact ⟨by rw [neg_x, neg_y]; ring, by rw [neg_x, neg_y]; ring, by rw [neg_x, neg_y]; ring⟩

theorem IsPrecomputed.toCached (h : P.IsPrecomputed yPlusX yMinusX xy2d) :
    P.IsCached yPlusX yMinusX 1 xy2d := by
  obtain ⟨rfl, rfl, rfl⟩ := h
  exact ⟨one_ne_zero, mul_one _, mul_one _, mul_one _⟩

theorem IsCached.neg (h : P.IsCached yPlusX yMinusX Z T2d) :
    (-P).IsCached yMinusX yPlusX Z (-T2d) := by
  obtain ⟨hz, rfl, rfl, rfl⟩ := h
  exact ⟨hz, by rw [neg_x, neg_y]; ring, by rw [neg_x, neg_y]; ring, by rw [neg_x, neg_y]; ring⟩

/-! ## Addition -/

theorem IsFraction.scale (h : P.IsFraction a z b w) {c : F} (hc : c ≠ 0) :
    P.IsFraction (c * a) (c * z) (c * b) (c * w) := by
  obtain ⟨hz, hw, rfl, rfl⟩ := h
  exact ⟨mul_ne_zero hc hz, mul_ne_zero hc hw, by ring, by ring⟩

/-- Four products for the addition of a cached point. -/
theorem IsExtended.add (hP : P.IsExtended X Y Z T) (hQ : Q.IsCached yPlusX yMinusX Z' T2d) :
    (P + Q).IsFraction ((Y + X) * yPlusX - (Y - X) * yMinusX) (Z * Z' + Z * Z' + T2d * T)
      ((Y + X) * yPlusX + (Y - X) * yMinusX) (Z * Z' + Z * Z' - T2d * T) := by
  obtain ⟨⟨hz, rfl, rfl⟩, rfl⟩ := hP
  obtain ⟨hz', rfl, rfl, rfl⟩ := hQ
  convert (isFraction_add P Q).scale (mul_ne_zero E.two_ne_zero (mul_ne_zero hz hz')) using 1 <;>
    ring

/-- The difference exchanges the two products and the two denominators. -/
theorem IsExtended.sub (hP : P.IsExtended X Y Z T) (hQ : Q.IsCached yPlusX yMinusX Z' T2d) :
    (P - Q).IsFraction ((Y + X) * yMinusX - (Y - X) * yPlusX) (Z * Z' + Z * Z' - T2d * T)
      ((Y + X) * yMinusX + (Y - X) * yPlusX) (Z * Z' + Z * Z' + T2d * T) := by
  rw [sub_eq_add_neg]
  convert hP.add hQ.neg using 1 <;> ring

/-- Doubling needs no `T`. -/
theorem IsProjective.double (h : P.IsProjective X Y Z) :
    (P + P).IsFraction ((X + Y) ^ 2 - (Y ^ 2 + X ^ 2)) (Y ^ 2 - X ^ 2) (Y ^ 2 + X ^ 2)
      (2 * Z ^ 2 - (Y ^ 2 - X ^ 2)) := by
  obtain ⟨hz, rfl, rfl⟩ := h
  have hcurve : P.y ^ 2 - P.x ^ 2 = 1 + E.d * P.x ^ 2 * P.y ^ 2 := P.onCurve
  convert (isFraction_add P P).scale (pow_ne_zero 2 hz) using 1
  · ring
  · linear_combination Z ^ 2 * hcurve
  · ring
  · linear_combination -Z ^ 2 * hcurve

end EdwardsCurve.Point

end Foundation
