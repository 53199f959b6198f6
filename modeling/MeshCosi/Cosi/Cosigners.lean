import MeshCosi.Ed25519
import MeshCosi.Foundation.Go

/-!
# The `Cosigners` object

The list of public keys in internal form, the bitmask of disabled cosigners,
packed little-endian into bytes, and the cached sum of the enabled keys.  The
bit of cosigner `i` is bit `i & 7` of byte `i >> 3`.
-/

namespace MeshCosi.Cosi

open Foundation Ed25519

/-- `MaskBit`: whether a cosigner is disabled. -/
abbrev MaskBit := Bool

/-- `Enabled`. -/
abbrev enabled : MaskBit := false

/-- `Disabled`. -/
abbrev disabled : MaskBit := true

/-- The two policies of the package: `fullPolicy` and `thresPolicy`. -/
inductive Policy where
  | full
  | thres (t : ℤ)
  deriving DecidableEq, Repr

/-- `ThresholdPolicy`. -/
def thresholdPolicy (threshold : ℤ) : Policy := .thres threshold

/-- `Cosigners`.  A nil policy is `none`. -/
structure Cosigners (G : Type) where
  keys : List G
  mask : Bytes
  aggr : G
  policy : Option Policy

/-- `byte(1) << uint(i & 7)`. -/
def maskBitOf (i : ℕ) : UInt8 := 1 <<< UInt8.ofNat (i % 8)

/-- Whether bit `i` of a byte string is set; bits past its end are not. -/
def isSet (mask : Bytes) (i : ℕ) : Bool := mask.getD (i / 8) 0 &&& maskBitOf i != 0

namespace Cosigners

variable {G : Type}

/-- `MaskBit`. -/
def maskBit (cos : Cosigners G) (signer : ℕ) : Go MaskBit :=
  if signer / 8 < cos.mask.length then .ok (isSet cos.mask signer) else .error .indexOutOfRange

/-- `MaskLen`. -/
def maskLen (cos : Cosigners G) : ℕ := (cos.keys.length + 7) / 8

/-- `CountTotal`. -/
def countTotal (cos : Cosigners G) : ℕ := cos.keys.length

/-- `CountEnabled`. -/
def countEnabled (cos : Cosigners G) : ℕ :=
  (List.range cos.keys.length).countP fun i => isSet cos.mask i = false

/-- `SetPolicy`. -/
def setPolicy (cos : Cosigners G) (policy : Option Policy) : Cosigners G :=
  match policy with
  | none => { cos with policy := some .full }
  | some policy => { cos with policy := some policy }

variable [AddCommGroup G]

/-- Gives the bit of cosigner `i` a value and keeps the cached sum in step: the
common body of `SetMask` and `SetMaskBit`. -/
def assign (cos : Cosigners G) (i : ℕ) (key : G) (value : MaskBit) : Cosigners G :=
  if value = disabled then
    if isSet cos.mask i = false then
      { cos with
        mask := cos.mask.modify (i / 8) (· ||| maskBitOf i)
        aggr := cos.aggr - key }
    else cos
  else
    if isSet cos.mask i = true then
      { cos with
        mask := cos.mask.modify (i / 8) (· &&& ~~~maskBitOf i)
        aggr := cos.aggr + key }
    else cos

/-- `SetMask`. -/
def setMask (cos : Cosigners G) (mask : Bytes) : Cosigners G :=
  cos.keys.zipIdx.foldl (fun cos entry =>
    cos.assign entry.2 entry.1 (decide (entry.2 / 8 < mask.length) && isSet mask entry.2)) cos

/-- `SetMaskBit`.  An index past the keys is out of range as soon as the bit
has to change. -/
def setMaskBit (cos : Cosigners G) (signer : ℕ) (value : MaskBit) : Go (Cosigners G) :=
  if signer / 8 < cos.mask.length then
    match cos.keys[signer]? with
    | some key => .ok (cos.assign signer key value)
    | none => if isSet cos.mask signer = value then .ok cos else .error .indexOutOfRange
  else .error .indexOutOfRange

end Cosigners

section

variable {G : Type} [AddCommGroup G] (P : Primitives G)

/-- The loop of `NewCosigners`: every key is copied into one shared buffer,
decoded from there and added to the aggregate. -/
def decodeKeys : Block 32 → G → List PublicKey → Option (List G × G)
  | _, aggr, [] => some ([], aggr)
  | pkBytes, aggr, pk :: publicKeys =>
      let pkBytes := pkBytes.copyFrom pk
      match P.fromBytes pkBytes with
      | none => none
      | some key =>
          (decodeKeys pkBytes (aggr + key) publicKeys).map fun rest => (key :: rest.1, rest.2)

/-- `NewCosigners`. -/
def newCosigners (publicKeys : List PublicKey) (mask : Option Bytes) : Option (Cosigners G) :=
  match decodeKeys P (Block.zero 32) 0 publicKeys with
  | none => none
  | some (keys, aggr) =>
      let cos : Cosigners G :=
        { keys := keys
          mask := List.replicate ((publicKeys.length + 7) / 8) 0
          aggr := aggr
          policy := some .full }
      match mask with
      | none => some cos
      | some mask => some (cos.setMask mask)

end

end MeshCosi.Cosi
