import MeshCosi.Edwards25519
import MeshCosi.Foundation.Go

/-!
# Key pairs and signatures of `ed25519`

A private key is the 32-byte seed followed by the public key.  The secret
scalar is the clamped first half of the seed's digest; the public key is the
encoded multiple of the base point.  A signature is `R || s`.
-/

namespace MeshCosi.Ed25519

open Foundation

/-- `PublicKey`: a byte slice, of `publicKeySize` bytes when it is well formed. -/
abbrev PublicKey := Bytes

/-- `PrivateKey`: a byte slice, of `privateKeySize` bytes when it is well formed. -/
abbrev PrivateKey := Bytes

def publicKeySize : ℕ := 32

def privateKeySize : ℕ := 64

def signatureSize : ℕ := 64

/-- The secret scalar of a seed, clamped as signing does it. -/
def secretScalar (sha512 : Bytes → Block 64) (seed : Bytes) : Block 32 :=
  let expandedSecretKey := (Block.zero 32).copyFrom (sha512 seed).toList
  let expandedSecretKey := expandedSecretKey.modify 0 (· &&& 248)
  let expandedSecretKey := expandedSecretKey.modify 31 (· &&& 63)
  expandedSecretKey.modify 31 (· ||| 64)

variable {G : Type} [AddCommGroup G] (P : Primitives G)

/-- `GenerateKey`.  The argument is what reading 32 bytes of entropy yields. -/
def generateKey (rand : Option (Block 32)) : Option (PublicKey × PrivateKey) :=
  match rand with
  | none => none
  | some seed =>
      let digest := P.sha512 seed.toList
      let digest := digest.modify 0 (· &&& 248)
      let digest := digest.modify 31 (· &&& 127)
      let digest := digest.modify 31 (· ||| 64)
      let hBytes := (Block.zero 32).copyFrom digest.toList
      let A := P.geScalarMultBase hBytes
      let publicKeyBytes := P.toBytes A
      some (publicKeyBytes.toList, seed.toList ++ publicKeyBytes.toList)

/-- `Verify`. -/
def verify (publicKey : PublicKey) (message sig : Bytes) : Go Bool :=
  if publicKey.length ≠ publicKeySize then
    .error (.text ("ed25519: bad public key length: " ++ toString publicKey.length))
  else if sig.length ≠ signatureSize ∨ sig.getD 63 0 &&& 224 ≠ 0 then .ok false
  else
    let publicKeyBytes := (Block.zero 32).copyFrom publicKey
    match P.fromBytes publicKeyBytes with
    | none => .ok false
    | some A =>
        let digest := P.sha512 (sig.take 32 ++ publicKey ++ message)
        let hReduced := scReduce digest
        let b := (Block.zero 32).copyFrom (sig.drop 32)
        let R := P.geDoubleScalarMultVartime hReduced (-A) b
        .ok (decide (sig.take 32 = (P.toBytes R).toList))

/-- Clearing bit 7, or bits 6 and 7, makes no difference once bit 6 is set. -/
private theorem and_or_64 : ∀ b : Fin 256,
    (UInt8.ofNat b.val &&& 127) ||| 64 = (UInt8.ofNat b.val &&& 63) ||| 64 := by
  decide +kernel

private theorem clamp_last (b : UInt8) : (b &&& 127) ||| 64 = (b &&& 63) ||| 64 := by
  have := and_or_64 ⟨b.toNat, b.toNat_lt⟩
  rwa [UInt8.ofNat_toNat] at this

/-- `GenerateKey` and signing derive the same scalar from a seed, although they
clamp its last byte with different masks. -/
theorem generateKey_eq (seed : Block 32) :
    generateKey P (some seed) =
      some ((P.toBytes (P.geScalarMultBase (secretScalar P.sha512 seed.toList))).toList,
        seed.toList ++
          (P.toBytes (P.geScalarMultBase (secretScalar P.sha512 seed.toList))).toList) := by
  have hclamp : ∀ block : Block 32, (block.modify 31 (· &&& 127)).modify 31 (· ||| 64) =
      (block.modify 31 (· &&& 63)).modify 31 (· ||| 64) := by
    intro block
    rw [Block.modify_modify, Block.modify_modify]
    exact congrArg (block.modify 31) (funext clamp_last)
  simp only [generateKey, secretScalar, Block.copyFrom_modify _ _ (show 32 ≤ 64 by norm_num),
    hclamp]

end MeshCosi.Ed25519
