import MeshCosi.Cosi.Cosigners

/-!
# Producing collective signatures

The participants' side is `commit` and `cosign`, the leader's side
`aggregatePublicKey`, `aggregateCommit` and `aggregateSignature`.
-/

namespace MeshCosi.Cosi

open Foundation Ed25519

/-- `Commitment`. -/
abbrev Commitment := Bytes

/-- `SignaturePart`. -/
abbrev SignaturePart := Bytes

/-- `Secret`: a one-time secret, valid until it is used. -/
structure Secret where
  reduced : Block 32
  valid : Bool
  deriving DecidableEq

variable {G : Type} [AddCommGroup G] (P : Primitives G)

/-- `Commit`.  The argument is what reading 64 bytes of entropy yields. -/
def commit (rand : Option (Block 64)) : Option (Commitment × Secret) :=
  match rand with
  | none => none
  | some secretFull =>
      let secret : Secret := { reduced := scReduce secretFull, valid := true }
      let R := P.geScalarMultBase secret.reduced
      some ((P.toBytes R).toList, secret)

/-- `Cosign`: the signature part, and the secret as it is left behind. -/
def cosign (privateKey : PrivateKey) (secret : Secret) (message : Bytes)
    (aggregateK : PublicKey) (aggregateR : Commitment) : Go (SignaturePart × Secret) :=
  if privateKey.length ≠ privateKeySize then
    .error (.text ("ed25519: bad private key length: " ++ toString privateKey.length))
  else if aggregateR.length ≠ publicKeySize then
    .error (.text ("ed25519: bad aggregateR length: " ++ toString aggregateR.length))
  else if secret.valid = false then
    .error (.text "ed25519: you must use a cosigning Secret only once")
  else
    let expandedSecretKey := secretScalar P.sha512 (privateKey.take 32)
    let hramDigest := P.sha512 (aggregateR ++ aggregateK ++ message)
    let hramDigestReduced := scReduce hramDigest
    let s := scMulAdd hramDigestReduced expandedSecretKey secret.reduced
    .ok (s.toList, { reduced := Block.zero 32, valid := false })

/-- The loop of `AggregateCommit` over the keys: `none` is the nil result of a
commit that is not 32 bytes long or does not decode. -/
def sumCommits : List G → List Commitment → G → Go (Option G)
  | [], _, aggR => .ok (some aggR)
  | _ :: _, [], _ => .error .indexOutOfRange
  | _ :: keys, commitment :: commits, aggR =>
      match P.decode commitment with
      | none => .ok none
      | some indivR => sumCommits keys commits (aggR + indivR)

/-- `scOne`. -/
def scOne : Block 32 := (Block.zero 32).copyFrom [1]

/-- The loop of `AggregateSignature` over the keys: `none` is the nil result of
a part that is not 32 bytes long. -/
def sumParts : List G → List SignaturePart → Block 32 → Go (Option (Block 32))
  | [], _, aggS => .ok (some aggS)
  | _ :: _, [], _ => .error .indexOutOfRange
  | _ :: keys, sigPart :: sigParts, aggS =>
      if sigPart.length ≠ 32 then .ok none
      else sumParts keys sigParts (scMulAdd aggS scOne ((Block.zero 32).copyFrom sigPart))

namespace Cosigners

/-- `AggregatePublicKey`. -/
def aggregatePublicKey (cos : Cosigners G) : PublicKey := (P.toBytes cos.aggr).toList

/-- `AggregateCommit`. -/
def aggregateCommit (cos : Cosigners G) (commits : List Commitment) : Go (Option Bytes) := do
  let aggR ← sumCommits P cos.keys commits 0
  return aggR.map fun aggR => (P.toBytes aggR).toList

/-- `AggregateSignature`: 64 bytes, the aggregate commit and the summed parts. -/
def aggregateSignature (cos : Cosigners G) (aggregateR : Commitment)
    (sigParts : List SignaturePart) : Go (Option Bytes) :=
  if aggregateR.length ≠ publicKeySize then .error (.text "ed25519: bad aggregateR length")
  else do
    let aggS ← sumParts cos.keys sigParts (Block.zero 32)
    return aggS.map fun aggS => aggregateR ++ aggS.toList

end Cosigners

end MeshCosi.Cosi
