import MeshCosi.Edwards.Const
import MeshCosi.Edwards.Curve
import MeshCosi.Edwards.FieldBytes
import MeshCosi.Foundation.EdwardsCoordinates

/-!
# Points in limbs

The group elements of the package and the functions between them, statement by
statement, and what each computes: the sum, the difference or the double of the points
of the curve that its arguments represent.  The bounds are part of the representation.
A decompressed point has an `X` of two units, because the test of its sign has
overwritten it; every sum then stays within the three units that a product allows.
-/

namespace MeshCosi.Edwards25519

open Foundation

/-! ## Group elements -/

/-- `ProjectiveGroupElement`. -/
structure ProjectiveGroupElement where
  X : FieldElement
  Y : FieldElement
  Z : FieldElement

/-- `ExtendedGroupElement`. -/
structure ExtendedGroupElement where
  X : FieldElement
  Y : FieldElement
  Z : FieldElement
  T : FieldElement

/-- `CompletedGroupElement`. -/
structure CompletedGroupElement where
  X : FieldElement
  Y : FieldElement
  Z : FieldElement
  T : FieldElement

/-- `CachedGroupElement`. -/
structure CachedGroupElement where
  yPlusX : FieldElement
  yMinusX : FieldElement
  Z : FieldElement
  T2d : FieldElement

/-- `ProjectiveGroupElement.Zero`. -/
def ProjectiveGroupElement.zero : ProjectiveGroupElement := ⟨feZero, feOne, feOne⟩

/-- `ProjectiveGroupElement.Double`. -/
def ProjectiveGroupElement.double (p : ProjectiveGroupElement) : CompletedGroupElement :=
  let rX := feSquare p.X
  let rZ := feSquare p.Y
  let rT := feSquare2 p.Z
  let rY := feAdd p.X p.Y
  let t0 := feSquare rY
  let rY := feAdd rZ rX
  let rZ := feSub rZ rX
  let rX := feSub t0 rY
  let rT := feSub rT rZ
  ⟨rX, rY, rZ, rT⟩

/-- `ExtendedGroupElement.Zero`. -/
def ExtendedGroupElement.zero : ExtendedGroupElement := ⟨feZero, feOne, feOne, feZero⟩

/-- `ExtendedGroupElement.ToCached`. -/
def ExtendedGroupElement.toCached (p : ExtendedGroupElement) : CachedGroupElement :=
  ⟨feAdd p.Y p.X, feSub p.Y p.X, p.Z, feMul p.T feD2⟩

/-- `ExtendedGroupElement.ToProjective`. -/
def ExtendedGroupElement.toProjective (p : ExtendedGroupElement) : ProjectiveGroupElement :=
  ⟨p.X, p.Y, p.Z⟩

/-- `ExtendedGroupElement.Double`. -/
def ExtendedGroupElement.double (p : ExtendedGroupElement) : CompletedGroupElement :=
  p.toProjective.double

/-- `CompletedGroupElement.ToProjective`. -/
def CompletedGroupElement.toProjective (p : CompletedGroupElement) : ProjectiveGroupElement :=
  ⟨feMul p.X p.T, feMul p.Y p.Z, feMul p.Z p.T⟩

/-- `CompletedGroupElement.ToExtended`. -/
def CompletedGroupElement.toExtended (p : CompletedGroupElement) : ExtendedGroupElement :=
  ⟨feMul p.X p.T, feMul p.Y p.Z, feMul p.Z p.T, feMul p.X p.Y⟩

/-- `PreComputedGroupElement.Zero`. -/
def PreComputedGroupElement.zero : PreComputedGroupElement := ⟨feOne, feOne, feZero⟩

/-- `geAdd`. -/
def geAdd (p : ExtendedGroupElement) (q : CachedGroupElement) : CompletedGroupElement :=
  let rX := feAdd p.Y p.X
  let rY := feSub p.Y p.X
  let rZ := feMul rX q.yPlusX
  let rY := feMul rY q.yMinusX
  let rT := feMul q.T2d p.T
  let rX := feMul p.Z q.Z
  let t0 := feAdd rX rX
  let rX := feSub rZ rY
  let rY := feAdd rZ rY
  let rZ := feAdd t0 rT
  let rT := feSub t0 rT
  ⟨rX, rY, rZ, rT⟩

/-- `geSub`. -/
def geSub (p : ExtendedGroupElement) (q : CachedGroupElement) : CompletedGroupElement :=
  let rX := feAdd p.Y p.X
  let rY := feSub p.Y p.X
  let rZ := feMul rX q.yMinusX
  let rY := feMul rY q.yPlusX
  let rT := feMul q.T2d p.T
  let rX := feMul p.Z q.Z
  let t0 := feAdd rX rX
  let rX := feSub rZ rY
  let rY := feAdd rZ rY
  let rZ := feSub t0 rT
  let rT := feAdd t0 rT
  ⟨rX, rY, rZ, rT⟩

/-- `geMixedAdd`. -/
def geMixedAdd (p : ExtendedGroupElement) (q : PreComputedGroupElement) : CompletedGroupElement :=
  let rX := feAdd p.Y p.X
  let rY := feSub p.Y p.X
  let rZ := feMul rX q.yPlusX
  let rY := feMul rY q.yMinusX
  let rT := feMul q.xy2d p.T
  let t0 := feAdd p.Z p.Z
  let rX := feSub rZ rY
  let rY := feAdd rZ rY
  let rZ := feAdd t0 rT
  let rT := feSub t0 rT
  ⟨rX, rY, rZ, rT⟩

/-- `geMixedSub`. -/
def geMixedSub (p : ExtendedGroupElement) (q : PreComputedGroupElement) : CompletedGroupElement :=
  let rX := feAdd p.Y p.X
  let rY := feSub p.Y p.X
  let rZ := feMul rX q.yMinusX
  let rY := feMul rY q.yPlusX
  let rT := feMul q.xy2d p.T
  let t0 := feAdd p.Z p.Z
  let rX := feSub rZ rY
  let rY := feAdd rZ rY
  let rZ := feSub t0 rT
  let rT := feAdd t0 rT
  ⟨rX, rY, rZ, rT⟩

/-- `ExtendedGroupElement.Add`. -/
def ExtendedGroupElement.add (a b : ExtendedGroupElement) : ExtendedGroupElement :=
  (geAdd a b.toCached).toExtended

/-- `ExtendedGroupElement.Sub`. -/
def ExtendedGroupElement.sub (a b : ExtendedGroupElement) : ExtendedGroupElement :=
  (geSub a b.toCached).toExtended

/-! ## What they represent -/

/-- Projective coordinates of a point. -/
def ProjectiveGroupElement.Represents (p : ProjectiveGroupElement) (P : CurvePoint) : Prop :=
  ∃ X Y Z, Denotes 2 p.X X ∧ Denotes 1 p.Y Y ∧ Denotes 1 p.Z Z ∧ P.IsProjective X Y Z

/-- Extended coordinates of a point. -/
def ExtendedGroupElement.Represents (p : ExtendedGroupElement) (P : CurvePoint) : Prop :=
  ∃ X Y Z T, Denotes 2 p.X X ∧ Denotes 1 p.Y Y ∧ Denotes 1 p.Z Z ∧ Denotes 1 p.T T ∧
    P.IsExtended X Y Z T

/-- The fractions that an addition leaves. -/
def CompletedGroupElement.Represents (p : CompletedGroupElement) (P : CurvePoint) : Prop :=
  ∃ X Y Z T, Denotes 3 p.X X ∧ Denotes 3 p.Y Y ∧ Denotes 3 p.Z Z ∧ Denotes 3 p.T T ∧
    P.IsFraction X Z Y T

/-- A point prepared for addition. -/
def CachedGroupElement.Represents (p : CachedGroupElement) (P : CurvePoint) : Prop :=
  ∃ yPlusX yMinusX Z T2d, Denotes 3 p.yPlusX yPlusX ∧ Denotes 3 p.yMinusX yMinusX ∧
    Denotes 1 p.Z Z ∧ Denotes 1 p.T2d T2d ∧ P.IsCached yPlusX yMinusX Z T2d

/-- A point prepared in affine coordinates. -/
def PreComputedGroupElement.Represents (p : PreComputedGroupElement) (P : CurvePoint) : Prop :=
  ∃ yPlusX yMinusX xy2d, Denotes 1 p.yPlusX yPlusX ∧ Denotes 1 p.yMinusX yMinusX ∧
    Denotes 1 p.xy2d xy2d ∧ P.IsPrecomputed yPlusX yMinusX xy2d

theorem Denotes.of_one {f : FieldElement} {x : ZMod fieldPrime} (h : Denotes 1 f x) :
    Denotes 3 f x := h.mono (by norm_num)

theorem Denotes.of_two {f : FieldElement} {x : ZMod fieldPrime} (h : Denotes 2 f x) :
    Denotes 3 f x := h.mono (by norm_num)

variable {P Q : CurvePoint}

theorem denotes_feD : Denotes 1 feD curve.d :=
  Bounded.denotes_natCast (by decide) (by decide)

theorem denotes_feD2 : Denotes 1 feD2 (2 * curve.d) := by
  have h : Denotes 1 feD2 ((2 * dNat % fieldPrime : ℕ) : ZMod fieldPrime) :=
    Bounded.denotes_natCast (by decide) (by decide)
  rw [ZMod.natCast_mod, Nat.cast_mul, Nat.cast_two] at h
  exact h

theorem denotes_feSqrtM1 : Denotes 1 feSqrtM1 curve.i :=
  Bounded.denotes_natCast (by decide) (by decide)

theorem ProjectiveGroupElement.represents_zero : zero.Represents 0 :=
  ⟨0, 1, 1, denotes_feZero.mono (by norm_num), denotes_feOne, denotes_feOne,
    EdwardsCurve.Point.isExtended_zero.toIsProjective⟩

theorem ExtendedGroupElement.represents_zero : zero.Represents 0 :=
  ⟨0, 1, 1, 0, denotes_feZero.mono (by norm_num), denotes_feOne, denotes_feOne,
    denotes_feZero.mono (by norm_num), EdwardsCurve.Point.isExtended_zero⟩

theorem PreComputedGroupElement.represents_zero : zero.Represents 0 :=
  ⟨1, 1, 0, denotes_feOne, denotes_feOne, denotes_feZero.mono (by norm_num),
    EdwardsCurve.Point.isPrecomputed_zero⟩

theorem ExtendedGroupElement.Represents.toProjective {p : ExtendedGroupElement}
    (hp : p.Represents P) : p.toProjective.Represents P := by
  obtain ⟨X, Y, Z, T, hX, hY, hZ, -, hP⟩ := hp
  exact ⟨X, Y, Z, hX, hY, hZ, hP.toIsProjective⟩

theorem CompletedGroupElement.Represents.toExtended {p : CompletedGroupElement}
    (hp : p.Represents P) : p.toExtended.Represents P := by
  obtain ⟨X, Y, Z, T, hX, hY, hZ, hT, hP⟩ := hp
  exact ⟨_, _, _, _, (hX.feMul hT).mono (by norm_num), hY.feMul hZ, hZ.feMul hT, hX.feMul hY,
    hP.toExtended⟩

theorem CompletedGroupElement.Represents.toProjective {p : CompletedGroupElement}
    (hp : p.Represents P) : p.toProjective.Represents P := by
  obtain ⟨X, Y, Z, T, hX, hY, hZ, hT, hP⟩ := hp
  exact ⟨_, _, _, (hX.feMul hT).mono (by norm_num), hY.feMul hZ, hZ.feMul hT, hP.toProjective⟩

theorem ProjectiveGroupElement.Represents.double {p : ProjectiveGroupElement}
    (hp : p.Represents P) : p.double.Represents (P + P) := by
  obtain ⟨X, Y, Z, hX, hY, hZ, hP⟩ := hp
  have rX := hX.of_two.feSquare
  have rZ := hY.of_one.feSquare
  have rT := hZ.of_one.feSquare2
  have t0 := (hX.feAdd hY).feSquare
  have rY := rZ.feAdd rX
  have rZ := rZ.feSub rX
  exact ⟨_, _, _, _, t0.feSub rY, rY.of_two, rZ.of_two, rT.feSub rZ, hP.double⟩

theorem ExtendedGroupElement.Represents.double {p : ExtendedGroupElement}
    (hp : p.Represents P) : p.double.Represents (P + P) := hp.toProjective.double

theorem ExtendedGroupElement.Represents.toCached {p : ExtendedGroupElement}
    (hp : p.Represents P) : p.toCached.Represents P := by
  obtain ⟨X, Y, Z, T, hX, hY, hZ, hT, hP⟩ := hp
  exact ⟨_, _, _, _, hY.feAdd hX, hY.feSub hX, hZ, hT.of_one.feMul denotes_feD2.of_one,
    hP.toCached⟩

theorem geAdd_represents {p : ExtendedGroupElement} {q : CachedGroupElement} (hp : p.Represents P)
    (hq : q.Represents Q) : (geAdd p q).Represents (P + Q) := by
  obtain ⟨X, Y, Z, T, hX, hY, hZ, hT, hP⟩ := hp
  obtain ⟨yPlusX, yMinusX, Z', T2d, hyPlusX, hyMinusX, hZ', hT2d, hQ⟩ := hq
  have rZ := (hY.feAdd hX).feMul hyPlusX
  have rY := (hY.feSub hX).feMul hyMinusX
  have rT := hT2d.of_one.feMul hT.of_one
  have rX := hZ.of_one.feMul hZ'.of_one
  have t0 := rX.feAdd rX
  exact ⟨_, _, _, _, (rZ.feSub rY).of_two, (rZ.feAdd rY).of_two, t0.feAdd rT, t0.feSub rT,
    hP.add hQ⟩

theorem geSub_represents {p : ExtendedGroupElement} {q : CachedGroupElement} (hp : p.Represents P)
    (hq : q.Represents Q) : (geSub p q).Represents (P - Q) := by
  obtain ⟨X, Y, Z, T, hX, hY, hZ, hT, hP⟩ := hp
  obtain ⟨yPlusX, yMinusX, Z', T2d, hyPlusX, hyMinusX, hZ', hT2d, hQ⟩ := hq
  have rZ := (hY.feAdd hX).feMul hyMinusX
  have rY := (hY.feSub hX).feMul hyPlusX
  have rT := hT2d.of_one.feMul hT.of_one
  have rX := hZ.of_one.feMul hZ'.of_one
  have t0 := rX.feAdd rX
  exact ⟨_, _, _, _, (rZ.feSub rY).of_two, (rZ.feAdd rY).of_two, t0.feSub rT, t0.feAdd rT,
    hP.sub hQ⟩

theorem geMixedAdd_represents {p : ExtendedGroupElement} {q : PreComputedGroupElement}
    (hp : p.Represents P) (hq : q.Represents Q) : (geMixedAdd p q).Represents (P + Q) := by
  obtain ⟨X, Y, Z, T, hX, hY, hZ, hT, hP⟩ := hp
  obtain ⟨yPlusX, yMinusX, xy2d, hyPlusX, hyMinusX, hxy2d, hQ⟩ := hq
  have rZ := (hY.feAdd hX).feMul hyPlusX.of_one
  have rY := (hY.feSub hX).feMul hyMinusX.of_one
  have rT := hxy2d.of_one.feMul hT.of_one
  have t0 := hZ.feAdd hZ
  have hsum := hP.add hQ.toCached
  rw [mul_one] at hsum
  exact ⟨_, _, _, _, (rZ.feSub rY).of_two, (rZ.feAdd rY).of_two, t0.feAdd rT, t0.feSub rT, hsum⟩

theorem geMixedSub_represents {p : ExtendedGroupElement} {q : PreComputedGroupElement}
    (hp : p.Represents P) (hq : q.Represents Q) : (geMixedSub p q).Represents (P - Q) := by
  obtain ⟨X, Y, Z, T, hX, hY, hZ, hT, hP⟩ := hp
  obtain ⟨yPlusX, yMinusX, xy2d, hyPlusX, hyMinusX, hxy2d, hQ⟩ := hq
  have rZ := (hY.feAdd hX).feMul hyMinusX.of_one
  have rY := (hY.feSub hX).feMul hyPlusX.of_one
  have rT := hxy2d.of_one.feMul hT.of_one
  have t0 := hZ.feAdd hZ
  have hdifference := hP.sub hQ.toCached
  rw [mul_one] at hdifference
  exact ⟨_, _, _, _, (rZ.feSub rY).of_two, (rZ.feAdd rY).of_two, t0.feSub rT, t0.feAdd rT,
    hdifference⟩

/-- `Add` adds the points that its arguments represent. -/
theorem ExtendedGroupElement.Represents.add {a b : ExtendedGroupElement} (ha : a.Represents P)
    (hb : b.Represents Q) : (a.add b).Represents (P + Q) :=
  (geAdd_represents ha hb.toCached).toExtended

/-- `Sub` subtracts the points that its arguments represent. -/
theorem ExtendedGroupElement.Represents.sub {a b : ExtendedGroupElement} (ha : a.Represents P)
    (hb : b.Represents Q) : (a.sub b).Represents (P - Q) :=
  (geSub_represents ha hb.toCached).toExtended

end MeshCosi.Edwards25519
