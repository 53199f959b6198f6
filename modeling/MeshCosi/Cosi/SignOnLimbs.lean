import MeshCosi.Cosi.OnLimbs
import MeshCosi.Edwards.ScalarMult

/-!
# Signing on limbs

`GenerateKey`, `Commit`, `Cosign` and `AggregateSignature` with the scalar and point
arithmetic of the package.  Clamped and reduced scalars meet the precondition of
`GeScalarMultBase`, so each of them returns what it returns over the curve.
-/

namespace MeshCosi.Cosi.OnLimbs

open Foundation Ed25519 Edwards25519

variable (sha512 : Bytes → Block 64)

/-- `GenerateKey`. -/
def generateKey (rand : Option (Block 32)) : Option (PublicKey × PrivateKey) :=
  match rand with
  | none => none
  | some seed =>
      let digest := sha512 seed.toList
      let digest := digest.modify 0 (· &&& 248)
      let digest := digest.modify 31 (· &&& 127)
      let digest := digest.modify 31 (· ||| 64)
      let hBytes := (Block.zero 32).copyFrom digest.toList
      let A := geScalarMultBase hBytes
      let publicKeyBytes := A.toBytes
      some (publicKeyBytes.toList, seed.toList ++ publicKeyBytes.toList)

/-- `Commit`. -/
def commit (rand : Option (Block 64)) : Option (Commitment × Secret) :=
  match rand with
  | none => none
  | some secretFull =>
      let secret : Secret := { reduced := Edwards25519.scReduce secretFull, valid := true }
      let R := geScalarMultBase secret.reduced
      some (R.toBytes.toList, secret)

/-- `Cosign`. -/
def cosign (privateKey : PrivateKey) (secret : Secret) (message : Bytes)
    (aggregateK : PublicKey) (aggregateR : Commitment) : Go (SignaturePart × Secret) :=
  if privateKey.length ≠ privateKeySize then
    .error (.text ("ed25519: bad private key length: " ++ toString privateKey.length))
  else if aggregateR.length ≠ publicKeySize then
    .error (.text ("ed25519: bad aggregateR length: " ++ toString aggregateR.length))
  else if secret.valid = false then
    .error (.text "ed25519: you must use a cosigning Secret only once")
  else
    let expandedSecretKey := secretScalar sha512 (privateKey.take 32)
    let hramDigest := sha512 (aggregateR ++ aggregateK ++ message)
    let hramDigestReduced := Edwards25519.scReduce hramDigest
    let s := Edwards25519.scMulAdd hramDigestReduced expandedSecretKey secret.reduced
    .ok (s.toList, { reduced := Block.zero 32, valid := false })

/-- The loop of `AggregateSignature` over the keys. -/
def sumParts : List Element → List SignaturePart → Block 32 → Go (Option (Block 32))
  | [], _, aggS => .ok (some aggS)
  | _ :: _, [], _ => .error .indexOutOfRange
  | _ :: keys, sigPart :: sigParts, aggS =>
      if sigPart.length ≠ 32 then .ok none
      else sumParts keys sigParts
        (Edwards25519.scMulAdd aggS scOne ((Block.zero 32).copyFrom sigPart))

/-- `AggregateSignature`. -/
def aggregateSignature (cos : Cosigners Element) (aggregateR : Commitment)
    (sigParts : List SignaturePart) : Go (Option Bytes) :=
  if aggregateR.length ≠ publicKeySize then .error (.text "ed25519: bad aggregateR length")
  else do
    let aggS ← sumParts cos.keys sigParts (Block.zero 32)
    return aggS.map fun aggS => aggregateR ++ aggS.toList

/-! ## The scalars are small enough -/

theorem toNat_lt_of_last {a : Block 32} (h : (a.toList.getD 31 0).toNat < 128) :
    a.toNat < 2 ^ 255 := by
  have hlast := toNat_eq_last a
  have hlow : a.toNat % 256 ^ 31 < 256 ^ 31 := Nat.mod_lt _ (by norm_num)
  omega

private theorem clamped_byte : ∀ n < 256, ((UInt8.ofNat n &&& 127) ||| 64).toNat < 128 := by
  decide +kernel

/-- Clamping leaves 255 bits. -/
theorem clamped_lt (a : Block 32) :
    ((a.modify 31 (· &&& 127)).modify 31 (· ||| 64)).toNat < 2 ^ 255 := by
  apply toNat_lt_of_last
  rw [getD_modify_last, getD_modify_last]
  have h := clamped_byte _ (a.toList.getD 31 0).toNat_lt
  rwa [UInt8.ofNat_toNat] at h

/-- A reduced scalar has 253 bits. -/
theorem scReduce_lt (digest : Block 64) : (MeshCosi.scReduce digest).toNat < 2 ^ 255 := by
  rw [MeshCosi.scReduce, Block.ofNat_toNat_of_lt (mod_l_lt _)]
  exact (Nat.mod_lt _ l_pos).trans (l_lt_two_pow.trans (by norm_num))

theorem toBytes_geScalarMultBase {a : Block 32} (ha : a.toNat < 2 ^ 255) :
    (geScalarMultBase a).toBytes =
      (curvePrimitives sha512).toBytes ((curvePrimitives sha512).geScalarMultBase a) :=
  (geScalarMultBase_represents ha).toBytes

/-- `GenerateKey` on limbs makes the keys that it makes over the curve. -/
theorem generate_key_on_limbs (rand : Option (Block 32)) :
    generateKey sha512 rand = Ed25519.generateKey (curvePrimitives sha512) rand := by
  cases rand with
  | none => rfl
  | some seed =>
      simp only [generateKey, Ed25519.generateKey]
      rw [toBytes_geScalarMultBase sha512]
      · rfl
      · rw [Block.copyFrom_modify _ _ (by norm_num), Block.copyFrom_modify _ _ (by norm_num)]
        exact clamped_lt _

/-- `Commit` on limbs makes the commitments and secrets that it makes over the curve. -/
theorem commit_on_limbs (rand : Option (Block 64)) :
    commit rand = Cosi.commit (curvePrimitives sha512) rand := by
  cases rand with
  | none => rfl
  | some secretFull =>
      simp only [commit, Cosi.commit, scReduce_eq_remainder]
      rw [toBytes_geScalarMultBase sha512 (scReduce_lt _)]

/-- `Cosign` on limbs returns, and panics, as over the curve. -/
theorem cosign_on_limbs (privateKey : PrivateKey) (secret : Secret) (message : Bytes)
    (aggregateK : PublicKey) (aggregateR : Commitment) :
    cosign sha512 privateKey secret message aggregateK aggregateR =
      Cosi.cosign (curvePrimitives sha512) privateKey secret message aggregateK aggregateR := by
  simp only [cosign, Cosi.cosign, scReduce_eq_remainder, scMulAdd_eq_remainder]
  rfl

theorem sumParts_eq_on_curve {keys : List Element} {points : List CurvePoint}
    (h : List.Forall₂ ExtendedGroupElement.Represents keys points) (sigParts : List SignaturePart)
    (aggS : Block 32) : sumParts keys sigParts aggS = Cosi.sumParts points sigParts aggS := by
  induction h generalizing sigParts aggS with
  | nil => rfl
  | cons _ _ ih =>
      cases sigParts with
      | nil => rfl
      | cons sigPart sigParts =>
          rw [sumParts, Cosi.sumParts, scMulAdd_eq_remainder]
          split_ifs
          · rfl
          · exact ih _ _

/-- `GeScalarMultBase` under the precondition that the source states. -/
theorem base_multiple_on_limbs {a : Block 32} (ha : a.toList.getD 31 0 ≤ 127) :
    (geScalarMultBase a).toBytes = encodePoint (a.toNat • basePoint) :=
  (geScalarMultBase_represents (toNat_lt_of_last (Nat.lt_succ_of_le ha))).toBytes

/-- The base point itself. -/
theorem base_multiple_on_limbs_one :
    (geScalarMultBase (Block.ofNat 32 1)).toBytes =
      encodePoint ((Block.ofNat 32 1).toNat • basePoint) :=
  base_multiple_on_limbs (by decide)

theorem Refines.aggregateSignature {cos : Cosigners Element} {abstract : Cosigners CurvePoint}
    (h : Refines cos abstract) (aggregateR : Commitment) (sigParts : List SignaturePart) :
    aggregateSignature cos aggregateR sigParts =
      abstract.aggregateSignature aggregateR sigParts := by
  rw [OnLimbs.aggregateSignature, Cosigners.aggregateSignature, sumParts_eq_on_curve h.keys]

/-- After any sequence of masks `AggregateSignature` on limbs returns, and panics, as over
the curve. -/
theorem aggregate_signature_on_limbs (publicKeys : List PublicKey) (mask : Option Bytes)
    (masks : List Bytes) (aggregateR : Commitment) (sigParts : List SignaturePart) :
    (newCosigners publicKeys mask).map
        (fun cos => aggregateSignature (masks.foldl setMask cos) aggregateR sigParts) =
      (Cosi.newCosigners (curvePrimitives sha512) publicKeys mask).map fun cos =>
        (masks.foldl Cosigners.setMask cos).aggregateSignature aggregateR sigParts :=
  newCosigners_map_eq sha512 (fun _ _ h => h.aggregateSignature aggregateR sigParts) publicKeys
    mask masks

end MeshCosi.Cosi.OnLimbs
