import MeshCosi.Edwards.Point

/-!
# Points as bytes

A point is written as its `y` with the sign of its `x` in the top bit.  Reading it
back takes a square root: `x = u v^3 (u v^7)^((p-5)/8)` is a root of `u / v` up to a
factor, and one test or two tell whether there is a root at all.  `Encodes` says what
the bytes mean; at most one point has given bytes.  Bytes of a `y` that is not reduced
are accepted, and so is a negative zero.

With `w = u v^7` the candidate satisfies `v x^2 = u w^((p-1)/4)`
(`mul_rootCandidate_sq`).  If `u / v` is a square, so is `w`, and the power is a square
root of 1.  So there are three cases:

| `v x^2`      | `FromBytes`                     |
|--------------|---------------------------------|
| `u`          | takes `x`                       |
| `-u`         | takes `x` times a root of -1    |
| another      | fails: `u / v` is not a square  |

The functions are followed part by part, each with its own lemma (`candidateRoot_spec`,
`checkedRoot_spec`, `withSign_spec`), since the whole of `FromBytes` is too large to be
unfolded at once.
-/

namespace MeshCosi.Edwards25519

open Foundation

/-- `ProjectiveGroupElement.ToBytes`. -/
def ProjectiveGroupElement.toBytes (p : ProjectiveGroupElement) : Block 32 :=
  let recip := feInvert p.Z
  let x := feMul p.X recip
  let y := feMul p.Y recip
  (feToBytes y).1.modify 31 (· ^^^ (feIsNegative x).1 <<< 7)

/-- `ExtendedGroupElement.ToBytes`. -/
def ExtendedGroupElement.toBytes (p : ExtendedGroupElement) : Block 32 :=
  let recip := feInvert p.Z
  let x := feMul p.X recip
  let y := feMul p.Y recip
  (feToBytes y).1.modify 31 (· ^^^ (feIsNegative x).1 <<< 7)

/-- What `FromBytes` computes as a candidate for a root of `u / v`. -/
@[irreducible] def candidateRoot (u v : FieldElement) : FieldElement :=
  let v3 := feSquare v
  let v3 := feMul v3 v
  let X := feSquare v3
  let X := feMul X v
  let X := feMul X u
  let X := fePow22523 X
  let X := feMul X v3
  feMul X u

/-- The test in `FromBytes` whether `v X^2` is `u` or `-u`: the root, or `none` where it
returns false.  In the second case `FeToBytes` overwrites it. -/
@[irreducible] def checkedRoot (X u v : FieldElement) : Option FieldElement :=
  let vxx := feSquare X
  let vxx := feMul vxx v
  if (feIsNonZero (feSub vxx u)).1 = 1 then
    if (feIsNonZero (feAdd vxx u)).1 = 1 then none
    else some (feToBytes (feMul X feSqrtM1)).2
  else some X

/-- The choice of the sign in `FromBytes`, with what `FeIsNegative` leaves of `X`. -/
@[irreducible] def withSign (X : FieldElement) (sign : UInt8) : FieldElement :=
  let negative := feIsNegative X
  if negative.1 ≠ sign then feNeg negative.2 else negative.2

/-- The top bit of the bytes. -/
def topBit (s : Block 32) : UInt8 := s.toList.getD 31 0 >>> 7

/-- `ExtendedGroupElement.FromBytes`: the element, or `none` where it returns false. -/
def ExtendedGroupElement.fromBytes (s : Block 32) : Option ExtendedGroupElement :=
  let Y := feFromBytes s
  let Z := feOne
  let u := feSquare Y
  let v := feMul u feD
  let u := feSub u Z
  let v := feAdd v Z
  let X := candidateRoot u v
  (checkedRoot X u v).map fun X =>
    let X := withSign X (topBit s)
    ⟨X, Y, Z, feMul X Y⟩

/-! ## Writing -/

/-- The bytes of a point. -/
def encodePoint (P : CurvePoint) : Block 32 :=
  (Block.ofNat 32 P.y.val).modify 31 (· ^^^ signBit P.x <<< 7)

theorem pow_sub_two_eq_inv {z : ZMod fieldPrime} (hz : z ≠ 0) : z ^ (fieldPrime - 2) = z⁻¹ := by
  apply eq_inv_of_mul_eq_one_left
  rw [← pow_succ, ← ZMod.pow_card_sub_one_eq_one hz]
  rfl

/-- `FeInvert` inverts, and takes zero to zero. -/
theorem feInvert_on_bytes (a : Block 32) :
    (feToBytes (feInvert (feFromBytes a))).1 = Block.ofNat 32 ((fieldValue a)⁻¹).val := by
  have hinverse := (denotes_feFromBytes a).feInvert_pow
  have hpow : fieldValue a ^ (fieldPrime - 2) = (fieldValue a)⁻¹ := by
    rcases eq_or_ne (fieldValue a) 0 with hzero | hne
    · rw [hzero, inv_zero, zero_pow (by norm_num [fieldPrime])]
    · exact pow_sub_two_eq_inv hne
  rw [← hpow]
  exact hinverse.of_one.feToBytes.1

/-- The bytes that both `ToBytes` compute from projective coordinates. -/
theorem toBytes_eq_encodePoint {X Y Z : FieldElement} {x y z : ZMod fieldPrime} {P : CurvePoint}
    (hX : Denotes 2 X x) (hY : Denotes 1 Y y) (hZ : Denotes 1 Z z) (hP : P.IsProjective x y z) :
    (feToBytes (feMul Y (feInvert Z))).1.modify 31
        (· ^^^ (feIsNegative (feMul X (feInvert Z))).1 <<< 7) = encodePoint P := by
  obtain ⟨hz, rfl, rfl⟩ := hP
  have hrecip := hZ.feInvert_pow
  rw [pow_sub_two_eq_inv hz] at hrecip
  have hx := hX.of_two.feMul hrecip.of_one
  have hy := hY.of_one.feMul hrecip.of_one
  rw [mul_inv_cancel_right₀ hz] at hx hy
  rw [hy.of_one.feToBytes.1, hx.of_one.feIsNegative.1]
  rfl

theorem ProjectiveGroupElement.Represents.toBytes {p : ProjectiveGroupElement} {P : CurvePoint}
    (hp : p.Represents P) : p.toBytes = encodePoint P := by
  obtain ⟨X, Y, Z, hX, hY, hZ, hP⟩ := hp
  exact toBytes_eq_encodePoint hX hY hZ hP

theorem ExtendedGroupElement.Represents.toBytes {p : ExtendedGroupElement} {P : CurvePoint}
    (hp : p.Represents P) : p.toBytes = encodePoint P := by
  obtain ⟨X, Y, Z, T, hX, hY, hZ, -, hP⟩ := hp
  exact toBytes_eq_encodePoint hX hY hZ hP.toIsProjective

/-! ## Square roots -/

/-- The candidate for a square root of `u / v`. -/
def rootCandidate (u v : ZMod fieldPrime) : ZMod fieldPrime :=
  (u * v ^ 7) ^ (2 ^ 252 - 3) * v ^ 3 * u

theorem mul_rootCandidate_sq (u v : ZMod fieldPrime) :
    v * rootCandidate u v ^ 2 = u * (u * v ^ 7) ^ (2 ^ 253 - 5) := by
  have hpow : ∀ n, v * ((u * v ^ 7) ^ n * v ^ 3 * u) ^ 2 = u * (u * v ^ 7) ^ (2 * n + 1) := by
    intro n
    rw [pow_succ (u * v ^ 7), pow_mul']
    ring
  rw [rootCandidate, hpow]
  norm_num only

/-- If `u / v` has a square root, the candidate is one up to a root of -1. -/
theorem rootCandidate_sq {u v x : ZMod fieldPrime} (hv : v ≠ 0) (h : v * x ^ 2 = u) :
    v * rootCandidate u v ^ 2 = u ∨ v * rootCandidate u v ^ 2 = -u := by
  subst h
  rcases eq_or_ne x 0 with rfl | hx
  · left
    simp [rootCandidate]
  · -- the power is a square root of 1, since `u v^7` is a square
    have hsquare : ((v * x ^ 2 * v ^ 7) ^ (2 ^ 253 - 5)) ^ 2 = 1 := by
      have hroot : v * x ^ 2 * v ^ 7 = (x * v ^ 4) ^ 2 := by ring
      rw [hroot, ← pow_mul, ← pow_mul,
        ← ZMod.pow_card_sub_one_eq_one (mul_ne_zero hx (pow_ne_zero 4 hv))]
      norm_num only [fieldPrime]
    rw [mul_rootCandidate_sq]
    rcases sq_eq_one_iff.1 hsquare with h | h
    · left
      rw [h, mul_one]
    · right
      rw [h, mul_neg_one]

/-! ## What bytes mean -/

/-- The bytes stand for a point: its `y` modulo the order of the field, and the sign of
its `x` unless that is zero. -/
def Encodes (s : Block 32) (P : CurvePoint) : Prop :=
  P.y = ((s.toNat % 2 ^ 255 : ℕ) : ZMod fieldPrime) ∧ (P.x = 0 ∨ signBit P.x = topBit s)

theorem signBit_eq (x : ZMod fieldPrime) : signBit x = 0 ∨ signBit x = 1 := by
  unfold signBit
  rcases Nat.mod_two_eq_zero_or_one x.val with h | h <;> rw [h]
  · exact Or.inl rfl
  · exact Or.inr rfl

private theorem shift_seven_eq : ∀ n < 256,
    UInt8.ofNat n >>> 7 = 0 ∨ UInt8.ofNat n >>> 7 = 1 := by
  decide +kernel

theorem topBit_eq (s : Block 32) : topBit s = 0 ∨ topBit s = 1 := by
  have h := shift_seven_eq _ (s.toList.getD 31 0).toNat_lt
  rwa [UInt8.ofNat_toNat] at h

/-- The order of the field is odd, so a number and its negative have different signs. -/
theorem signBit_neg {x : ZMod fieldPrime} (hx : x ≠ 0) : signBit (-x) ≠ signBit x := by
  have hval : (-x).val = fieldPrime - x.val := by
    rw [ZMod.neg_val, if_neg hx]
  have hlt := ZMod.val_lt x
  have hodd : fieldPrime % 2 = 1 := by decide +kernel
  intro h
  have hparity := congrArg UInt8.toNat h
  unfold signBit at hparity
  rw [UInt8.toNat_ofNat', UInt8.toNat_ofNat', hval] at hparity
  omega

theorem curve_v_ne_zero (y : ZMod fieldPrime) : curve.d * y ^ 2 + 1 ≠ 0 := by
  intro h
  have hy : y ≠ 0 := by
    rintro rfl
    simp at h
  refine curve.not_isSquare_d ⟨curve.i / y, ?_⟩
  rw [div_mul_div_comm, ← pow_two, ← pow_two, curve.i_sq, eq_div_iff (pow_ne_zero 2 hy)]
  linear_combination h

/-- The equation of the curve, solved for `x`. -/
theorem onCurve_iff (x y : ZMod fieldPrime) :
    curve.OnCurve x y ↔ (curve.d * y ^ 2 + 1) * x ^ 2 = y ^ 2 - 1 := by
  unfold EdwardsCurve.OnCurve
  constructor <;> intro h <;> linear_combination -h

/-- Bytes stand for one point at most. -/
theorem Encodes.unique {s : Block 32} {P Q : CurvePoint} (hP : Encodes s P) (hQ : Encodes s Q) :
    P = Q := by
  have hy : P.y = Q.y := hP.1.trans hQ.1.symm
  have hsq : P.x ^ 2 = Q.x ^ 2 := by
    apply mul_left_cancel₀ (curve_v_ne_zero P.y)
    rw [(onCurve_iff _ _).1 P.onCurve, hy, (onCurve_iff _ _).1 Q.onCurve]
  rcases sq_eq_sq_iff_eq_or_eq_neg.1 hsq with hx | hx
  · exact EdwardsCurve.Point.ext hx hy
  · rcases eq_or_ne Q.x 0 with hzero | hne
    · exact EdwardsCurve.Point.ext (by rw [hx, hzero, neg_zero]) hy
    · have hPsign := hP.2.resolve_left (by rw [hx]; exact neg_ne_zero.2 hne)
      have hQsign := hQ.2.resolve_left hne
      exact absurd (hPsign.trans hQsign.symm) (hx ▸ signBit_neg hne)

private theorem sign_byte : ∀ n < 128, ∀ sign ∈ [(0 : UInt8), 1],
    (UInt8.ofNat n ^^^ sign <<< 7).toNat % 128 = n ∧
      (UInt8.ofNat n ^^^ sign <<< 7) >>> 7 = sign := by
  decide +kernel

/-- The bytes of a point stand for it. -/
theorem encodes_encodePoint (P : CurvePoint) : Encodes (encodePoint P) P := by
  have hlt := val_lt_two_pow P.y
  have hval : (Block.ofNat 32 P.y.val).toNat = P.y.val :=
    Block.ofNat_toNat_of_lt (hlt.trans (by norm_num))
  have hlast := toNat_eq_last (Block.ofNat 32 P.y.val)
  have hencoded := toNat_modify_last (Block.ofNat 32 P.y.val) (· ^^^ signBit P.x <<< 7)
  have htop := getD_modify_last (Block.ofNat 32 P.y.val) (· ^^^ signBit P.x <<< 7)
  rw [hval] at hlast hencoded
  generalize (Block.ofNat 32 P.y.val).toList.getD 31 0 = b at hlast hencoded htop
  obtain ⟨hlow, hsign⟩ := sign_byte b.toNat (by omega) (signBit P.x)
    (by simpa using signBit_eq P.x)
  rw [UInt8.ofNat_toNat] at hlow hsign
  have htopBit : topBit (encodePoint P) = signBit P.x := by
    rw [topBit, encodePoint, htop, hsign]
  have hmod : (encodePoint P).toNat % 2 ^ 255 = P.y.val := by
    rw [encodePoint, hencoded]
    omega
  exact ⟨by rw [hmod, ZMod.natCast_zmod_val], Or.inr htopBit.symm⟩

/-! ## Reading -/

/-- The test finds a root of `a / b` if the candidate is one up to a root of -1. -/
theorem checkedRoot_spec {X u v : FieldElement} {x a b : ZMod fieldPrime} (hX : Denotes 1 X x)
    (hu : Denotes 2 u a) (hv : Denotes 2 v b) :
    match checkedRoot X u v with
    | some r => ∃ x', Denotes 2 r x' ∧ b * x' ^ 2 = a
    | none => b * x ^ 2 ≠ a ∧ b * x ^ 2 ≠ -a := by
  have hvxx := hX.of_one.feSquare.of_one.feMul hv.of_two
  have hminus := (hvxx.feSub hu).feIsNonZero
  have hplus := (hvxx.feAdd hu).feIsNonZero
  have hne : (1#32 : BitVec 32) = 1 := rfl
  simp only [checkedRoot, hminus, hplus]
  by_cases hroot : x ^ 2 * b - a = 0
  · rw [if_pos hroot, if_neg (by decide)]
    exact ⟨x, hX.mono (by norm_num), by linear_combination hroot⟩
  · rw [if_neg hroot, if_pos hne]
    by_cases hnegative : x ^ 2 * b + a = 0
    · rw [if_pos hnegative, if_neg (by decide)]
      refine ⟨_, (hX.of_one.feMul denotes_feSqrtM1.of_one).of_one.feToBytes.2, ?_⟩
      rw [mul_pow, curve.i_sq]
      linear_combination -hnegative
    · rw [if_neg hnegative, if_pos hne]
      exact ⟨fun h => hroot (by linear_combination h), fun h => hnegative (by linear_combination h)⟩

theorem withSign_spec {X : FieldElement} {x : ZMod fieldPrime} (hX : Denotes 2 X x) (s : Block 32) :
    ∃ x', Denotes 2 (withSign X (topBit s)) x' ∧ x' ^ 2 = x ^ 2 ∧
      (x' = 0 ∨ signBit x' = topBit s) := by
  obtain ⟨hsign, hrest⟩ := hX.of_two.feIsNegative
  simp only [withSign, hsign]
  by_cases h : signBit x = topBit s
  · rw [if_neg (not_not.2 h)]
    exact ⟨x, hrest, rfl, Or.inr h⟩
  · rw [if_pos h]
    refine ⟨-x, hrest.feNeg, neg_sq x, ?_⟩
    rcases eq_or_ne x 0 with rfl | hx
    · exact Or.inl neg_zero
    · right
      have hne := signBit_neg hx
      rcases signBit_eq x with h0 | h0 <;> rcases signBit_eq (-x) with h1 | h1 <;>
        rcases topBit_eq s with h2 | h2 <;> simp_all

/-- The candidate that `FromBytes` computes is a root up to a root of -1, if there is
one. -/
theorem candidateRoot_spec {u v : FieldElement} {a b : ZMod fieldPrime} (hu : Denotes 2 u a)
    (hv : Denotes 2 v b) (hb : b ≠ 0) :
    ∃ x, Denotes 1 (candidateRoot u v) x ∧
      ∀ r, b * r ^ 2 = a → b * x ^ 2 = a ∨ b * x ^ 2 = -a := by
  refine ⟨rootCandidate a b, ?_, fun r hr => rootCandidate_sq hb hr⟩
  have hv3 := hv.of_two.feSquare.of_one.feMul hv.of_two
  have hcube : b ^ 2 * b = b ^ 3 := (pow_succ b 2).symm
  have hseven : (b ^ 3) ^ 2 * b * a = a * b ^ 7 := by ring
  rw [hcube] at hv3
  have hpow := (hv3.of_one.feSquare.of_one.feMul hv.of_two).of_one.feMul hu.of_two
  rw [hseven] at hpow
  have hX := (hpow.fePow22523_pow.of_one.feMul hv3.of_one).of_one.feMul hu.of_two
  rw [candidateRoot, rootCandidate]
  exact hX

/-- `FromBytes` reads the point that its bytes stand for, and fails if there is none. -/
theorem fromBytes_spec (s : Block 32) :
    match ExtendedGroupElement.fromBytes s with
    | some e => ∃ P, e.Represents P ∧ Encodes s P
    | none => ∀ P, ¬ Encodes s P := by
  have hY := denotes_feFromBytes s
  have hyy := hY.of_one.feSquare
  have hu := hyy.feSub denotes_feOne
  have hv := (hyy.of_one.feMul denotes_feD.of_one).feAdd denotes_feOne
  rw [mul_comm _ curve.d] at hv
  obtain ⟨x, hx, hcandidate⟩ := candidateRoot_spec hu hv (curve_v_ne_zero _)
  have hroot := checkedRoot_spec hx hu hv
  have hfromBytes : ExtendedGroupElement.fromBytes s = (checkedRoot _ _ _).map fun X =>
      ⟨withSign X (topBit s), feFromBytes s, feOne,
        feMul (withSign X (topBit s)) (feFromBytes s)⟩ := rfl
  rw [hfromBytes]
  generalize checkedRoot _ _ _ = root at hroot ⊢
  cases root with
  | none =>
      rintro P ⟨hy, -⟩
      rw [← hy] at hroot hcandidate
      exact (hcandidate P.x ((onCurve_iff _ _).1 P.onCurve)).elim hroot.1 hroot.2
  | some X =>
      obtain ⟨r, hX, hr⟩ := hroot
      obtain ⟨x', hX', hsq, hsign⟩ := withSign_spec hX s
      rw [← hsq, ← onCurve_iff] at hr
      refine ⟨⟨x', _, hr⟩, ⟨_, _, _, _, hX', hY, denotes_feOne, hX'.of_two.feMul hY.of_one, ?_⟩,
        rfl, hsign⟩
      exact ⟨⟨one_ne_zero, mul_one _, mul_one _⟩, mul_one _⟩

end MeshCosi.Edwards25519
