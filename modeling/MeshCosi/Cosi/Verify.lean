import MeshCosi.Cosi.Sign

/-!
# Verifying collective signatures

A signature is `R || s`, optionally followed by the mask of the cosigners that
did not sign.  Without a mask everybody is taken to have signed.  Verification
first replaces the object's mask, then asks the policy, then checks the
equation against the cached aggregate key.
-/

namespace MeshCosi.Cosi

open Foundation Ed25519

variable {G : Type}

/-- `Policy.Check`. -/
def Policy.check (policy : Policy) (cos : Cosigners G) : Bool :=
  match policy with
  | .full => cos.countEnabled = cos.countTotal
  | .thres t => t ≤ cos.countEnabled

variable [AddCommGroup G] (P : Primitives G)

namespace Cosigners

/-- The unexported `verify`: checks the part `sigR, sigS` against the key
`sigA`, with the challenge of the aggregate key and `aggR`. -/
def verifyAgainst (cos : Cosigners G) (message aggR sigR sigS : Bytes) (sigA : G) : Bool :=
  if sigR.length ≠ 32 ∨ sigS.length ≠ 32 ∨ sigS.getD 31 0 &&& 224 ≠ 0 then false
  else
    let aggK := P.toBytes cos.aggr
    let digest := P.sha512 (aggR ++ aggK.toList ++ message)
    let hReduced := scReduce digest
    let b := (Block.zero 32).copyFrom sigS
    let projR := P.geDoubleScalarMultVartime hReduced (-sigA) b
    decide (sigR = (P.toBytes projR).toList)

/-- `VerifyPart`: checks the part of one cosigner against its key. -/
def verifyPart (cos : Cosigners G) (message aggR : Bytes) (signer : ℕ) (indR indS : Bytes) :
    Go Bool :=
  match cos.keys[signer]? with
  | none => .error .indexOutOfRange
  | some key => .ok (cos.verifyAgainst P message aggR indR indS key)

/-- The method `Verify`, with the object as it leaves it. -/
def verify (cos : Cosigners G) (message sig : Bytes) : Cosigners G × Bool :=
  if sig.length < signatureSize then (cos, false)
  else
    let mask :=
      if signatureSize < sig.length then sig.drop 64
      else List.replicate ((cos.keys.length + 7) / 8) 0
    let sig := sig.take 64
    let cos := cos.setMask mask
    if cos.policy.any fun policy => !policy.check cos then (cos, false)
    else (cos, cos.verifyAgainst P message (sig.take 32) (sig.take 32) (sig.drop 32) cos.aggr)

end Cosigners

/-- The package function `Verify`.  `SetPolicy` on the nil result of
`NewCosigners` panics. -/
def verify (publicKeys : List PublicKey) (policy : Option Policy) (message sig : Bytes) :
    Go Bool :=
  if sig.length < signatureSize then .ok false
  else do
    let cos ← deref (newCosigners P publicKeys (some (sig.drop 64)))
    let cos := cos.setPolicy policy
    return (cos.verify P message sig).2

end MeshCosi.Cosi
