import MeshCosi.Cosi.SignOnLimbs
import MeshCosi.Edwards.DoubleScalarMult

/-!
# Verifying on limbs

The unexported `verify`, the method `Verify` and the package function `Verify` with the
arithmetic of the package.  The test of the top bits of `s` and the reduction of the
challenge give the 255 bits that `GeDoubleScalarMultVartime` relies on, so the answers
and the panics are those over the curve.
-/

namespace MeshCosi.Cosi.OnLimbs

open Foundation Ed25519 Edwards25519

variable (sha512 : Bytes → Block 64)

/-- The two `FeNeg` of `verify`, on `X` and on `T`. -/
def negated (A : Element) : Element := ⟨feNeg A.X, A.Y, A.Z, feNeg A.T⟩

/-- The unexported `verify`. -/
def verifyAgainst (cos : Cosigners Element) (message aggR sigR sigS : Bytes) (sigA : Element) :
    Bool :=
  if sigR.length ≠ 32 ∨ sigS.length ≠ 32 ∨ sigS.getD 31 0 &&& 224 ≠ 0 then false
  else
    let aggK := cos.aggr.toBytes
    let digest := sha512 (aggR ++ aggK.toList ++ message)
    let hReduced := Edwards25519.scReduce digest
    let b := (Block.zero 32).copyFrom sigS
    let projR := geDoubleScalarMultVartime hReduced (negated sigA) b
    decide (sigR = projR.toBytes.toList)

/-- The method `Verify`. -/
def verifyMethod (cos : Cosigners Element) (message sig : Bytes) : Cosigners Element × Bool :=
  if sig.length < signatureSize then (cos, false)
  else
    let mask :=
      if signatureSize < sig.length then sig.drop 64
      else List.replicate ((cos.keys.length + 7) / 8) 0
    let sig := sig.take 64
    let cos := setMask cos mask
    if cos.policy.any fun policy => !policy.check cos then (cos, false)
    else
      (cos, verifyAgainst sha512 cos message (sig.take 32) (sig.take 32) (sig.drop 32) cos.aggr)

/-- The package function `Verify`. -/
def verify (publicKeys : List PublicKey) (policy : Option Policy) (message sig : Bytes) :
    Go Bool :=
  if sig.length < signatureSize then .ok false
  else do
    let cos ← deref (newCosigners publicKeys (some (sig.drop 64)))
    let cos := cos.setPolicy policy
    return (verifyMethod sha512 cos message sig).2

theorem represents_negated {A : Element} {P : CurvePoint} (hA : A.Represents P) :
    (negated A).Represents (-P) := by
  obtain ⟨X, Y, Z, T, hX, hY, hZ, hT, hP⟩ := hA
  exact ⟨_, _, _, _, hX.feNeg, hY, hZ, hT.feNeg, hP.neg⟩

private theorem byte_lt_of_top_bits : ∀ n < 256, UInt8.ofNat n &&& 224 = 0 → n < 128 := by
  decide +kernel

/-- The check of the source makes the scalar small enough. -/
theorem toNat_lt_of_top_bits {sigS : Bytes} (hlength : sigS.length = 32)
    (htop : sigS.getD 31 0 &&& 224 = 0) : ((Block.zero 32).copyFrom sigS).toNat < 2 ^ 255 := by
  apply toNat_lt_of_last
  rw [Block.toList_copyFrom _ hlength]
  apply byte_lt_of_top_bits _ (sigS.getD 31 0).toNat_lt
  rwa [UInt8.ofNat_toNat]

section

variable {cos : Cosigners Element} {abstract : Cosigners CurvePoint} (h : Refines cos abstract)

include h

theorem Refines.verifyAgainst (message aggR sigR sigS : Bytes) {sigA : Element} {A : CurvePoint}
    (hA : sigA.Represents A) :
    verifyAgainst sha512 cos message aggR sigR sigS sigA =
      abstract.verifyAgainst (curvePrimitives sha512) message aggR sigR sigS A := by
  rw [OnLimbs.verifyAgainst, Cosigners.verifyAgainst]
  by_cases hbad : sigR.length ≠ 32 ∨ sigS.length ≠ 32 ∨ sigS.getD 31 0 &&& 224 ≠ 0
  · rw [if_pos hbad, if_pos hbad]
  · rw [if_neg hbad, if_neg hbad]
    rw [not_or, not_or, not_not, not_not, not_not] at hbad
    have hkey : cos.aggr.toBytes = (curvePrimitives sha512).toBytes abstract.aggr := h.aggr.toBytes
    have hpoint := (geDoubleScalarMultVartime_represents (scReduce_lt
      (sha512 (aggR ++ (cos.aggr.toBytes).toList ++ message))).le
      (toNat_lt_of_top_bits hbad.2.1 hbad.2.2).le (represents_negated hA)).toBytes
    simp only [scReduce_eq_remainder, hpoint]
    rw [hkey]
    rfl

theorem Refines.check (policy : Policy) : policy.check cos = policy.check abstract := by
  have htotal : cos.countTotal = abstract.countTotal := h.keys.length_eq
  have hcount : cos.countEnabled = abstract.countEnabled := by
    rw [Cosigners.countEnabled, Cosigners.countEnabled, h.keys.length_eq, h.mask]
  cases policy with
  | full => simp only [Policy.check, hcount, htotal]
  | thres t => simp only [Policy.check, hcount]

theorem Refines.setPolicy (policy : Option Policy) :
    Refines (cos.setPolicy policy) (abstract.setPolicy policy) := by
  cases policy with
  | none => exact ⟨h.keys, h.mask, h.aggr, rfl⟩
  | some policy => exact ⟨h.keys, h.mask, h.aggr, rfl⟩

/-- The method leaves related objects and gives the same answer. -/
theorem Refines.verifyMethod (message sig : Bytes) :
    Refines (verifyMethod sha512 cos message sig).1
        (abstract.verify (curvePrimitives sha512) message sig).1 ∧
      (verifyMethod sha512 cos message sig).2 =
        (abstract.verify (curvePrimitives sha512) message sig).2 := by
  rw [OnLimbs.verifyMethod, Cosigners.verify]
  by_cases hshort : sig.length < signatureSize
  · rw [if_pos hshort, if_pos hshort]
    exact ⟨h, rfl⟩
  · rw [if_neg hshort, if_neg hshort, h.keys.length_eq]
    dsimp only
    generalize (if signatureSize < sig.length then sig.drop 64
      else List.replicate ((abstract.keys.length + 7) / 8) 0) = mask
    have hmasked := h.setMask mask
    generalize OnLimbs.setMask cos mask = cos at hmasked ⊢
    generalize abstract.setMask mask = abstract at hmasked ⊢
    have hpolicy : (cos.policy.any fun policy => !policy.check cos) =
        abstract.policy.any fun policy => !policy.check abstract := by
      rw [hmasked.policy]
      exact congrArg abstract.policy.any (funext fun policy => by rw [hmasked.check])
    rw [hpolicy]
    split_ifs
    · exact ⟨hmasked, rfl⟩
    · exact ⟨hmasked, hmasked.verifyAgainst sha512 _ _ _ _ hmasked.aggr⟩

end

/-- `Verify` on limbs accepts, refuses and panics as over the curve, for every list of
keys, policy, message and signature. -/
theorem verify_on_limbs (publicKeys : List PublicKey) (policy : Option Policy)
    (message sig : Bytes) :
    verify sha512 publicKeys policy message sig =
      Cosi.verify (curvePrimitives sha512) publicKeys policy message sig := by
  rw [verify, Cosi.verify]
  by_cases hshort : sig.length < signatureSize
  · rw [if_pos hshort, if_pos hshort]
  · rw [if_neg hshort, if_neg hshort]
    have hrel := newCosigners_rel sha512 publicKeys (some (sig.drop 64))
    generalize newCosigners publicKeys (some (sig.drop 64)) = cos at hrel ⊢
    generalize Cosi.newCosigners (curvePrimitives sha512) publicKeys (some (sig.drop 64)) =
      abstract at hrel ⊢
    cases hrel with
    | none => rfl
    | some h =>
        exact congrArg Except.ok (((h.setPolicy policy).verifyMethod sha512 message sig).2)

end MeshCosi.Cosi.OnLimbs
