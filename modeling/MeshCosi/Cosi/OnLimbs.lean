import MeshCosi.Cosi.Verify
import MeshCosi.Edwards.Lawful

/-!
# The package on limbs

`NewCosigners`, `SetMask`, `AggregatePublicKey` and `AggregateCommit` once more, on the
group elements that the code computes with instead of points.  An object on limbs
refines an object over the curve, every operation keeps that, and what is written out
is the same.
-/

namespace MeshCosi.Cosi.OnLimbs

open Foundation Ed25519 Edwards25519

/-- `ExtendedGroupElement`. -/
abbrev Element := ExtendedGroupElement

/-- The common body of `SetMask` and `SetMaskBit`. -/
def assign (cos : Cosigners Element) (i : ℕ) (key : Element) (value : MaskBit) :
    Cosigners Element :=
  if value = disabled then
    if isSet cos.mask i = false then
      { cos with
        mask := cos.mask.modify (i / 8) (· ||| maskBitOf i)
        aggr := cos.aggr.sub key }
    else cos
  else
    if isSet cos.mask i = true then
      { cos with
        mask := cos.mask.modify (i / 8) (· &&& ~~~maskBitOf i)
        aggr := cos.aggr.add key }
    else cos

/-- `SetMask`. -/
def setMask (cos : Cosigners Element) (mask : Bytes) : Cosigners Element :=
  cos.keys.zipIdx.foldl (fun cos entry =>
    assign cos entry.2 entry.1 (decide (entry.2 / 8 < mask.length) && isSet mask entry.2)) cos

/-- The loop of `NewCosigners`. -/
def decodeKeys : Block 32 → Element → List PublicKey → Option (List Element × Element)
  | _, aggr, [] => some ([], aggr)
  | pkBytes, aggr, pk :: publicKeys =>
      let pkBytes := pkBytes.copyFrom pk
      (ExtendedGroupElement.fromBytes pkBytes).bind fun key =>
        (decodeKeys pkBytes (aggr.add key) publicKeys).map fun rest => (key :: rest.1, rest.2)

/-- `NewCosigners`. -/
def newCosigners (publicKeys : List PublicKey) (mask : Option Bytes) :
    Option (Cosigners Element) :=
  match decodeKeys (Block.zero 32) .zero publicKeys with
  | none => none
  | some (keys, aggr) =>
      let cos : Cosigners Element :=
        { keys := keys
          mask := List.replicate ((publicKeys.length + 7) / 8) 0
          aggr := aggr
          policy := some .full }
      match mask with
      | none => some cos
      | some mask => some (setMask cos mask)

/-- `AggregatePublicKey`. -/
def aggregatePublicKey (cos : Cosigners Element) : PublicKey := cos.aggr.toBytes.toList

/-- The loop of `AggregateCommit` over the keys.  The buffer is overwritten as a whole. -/
def sumCommits : List Element → List Commitment → Element → Go (Option Element)
  | [], _, aggR => .ok (some aggR)
  | _ :: _, [], _ => .error .indexOutOfRange
  | _ :: keys, commitment :: commits, aggR =>
      if h : commitment.length = publicKeySize then
        (ExtendedGroupElement.fromBytes ⟨commitment, h⟩).elim (.ok none) fun indivR =>
          sumCommits keys commits (aggR.add indivR)
      else .ok none

/-- `AggregateCommit`. -/
def aggregateCommit (cos : Cosigners Element) (commits : List Commitment) : Go (Option Bytes) := do
  let aggR ← sumCommits cos.keys commits .zero
  return aggR.map fun aggR => aggR.toBytes.toList

/-! ## Refinement -/

/-- The object on limbs stands for the object over the curve. -/
structure Refines (cos : Cosigners Element) (abstract : Cosigners CurvePoint) : Prop where
  keys : List.Forall₂ ExtendedGroupElement.Represents cos.keys abstract.keys
  mask : cos.mask = abstract.mask
  aggr : cos.aggr.Represents abstract.aggr
  policy : cos.policy = abstract.policy

theorem Refines.assign {cos : Cosigners Element} {abstract : Cosigners CurvePoint}
    (h : Refines cos abstract) (i : ℕ) {key : Element} {K : CurvePoint} (hkey : key.Represents K)
    (value : MaskBit) : Refines (assign cos i key value) (abstract.assign i K value) := by
  unfold OnLimbs.assign Cosigners.assign
  rw [h.mask]
  split_ifs
  · exact ⟨h.keys, rfl, h.aggr.sub hkey, h.policy⟩
  · exact h
  · exact ⟨h.keys, rfl, h.aggr.add hkey, h.policy⟩
  · exact h

/-- The loop of `SetMask` over a part of the keys. -/
theorem Refines.foldl_assign {entries : List (Element × ℕ)} {entries' : List (CurvePoint × ℕ)}
    (hentries : List.Forall₂ (fun entry entry' => entry.1.Represents entry'.1 ∧
      entry.2 = entry'.2) entries entries') (mask : Bytes) {cos : Cosigners Element}
    {abstract : Cosigners CurvePoint} (h : Refines cos abstract) :
    Refines
      (entries.foldl (fun cos entry => OnLimbs.assign cos entry.2 entry.1
        (decide (entry.2 / 8 < mask.length) && isSet mask entry.2)) cos)
      (entries'.foldl (fun cos entry => cos.assign entry.2 entry.1
        (decide (entry.2 / 8 < mask.length) && isSet mask entry.2)) abstract) := by
  induction hentries generalizing cos abstract with
  | nil => exact h
  | cons hentry _ ih =>
      rw [List.foldl_cons, List.foldl_cons, hentry.2]
      exact ih (h.assign _ hentry.1 _)

theorem forall₂_zipIdx {keys : List Element} {points : List CurvePoint}
    (h : List.Forall₂ ExtendedGroupElement.Represents keys points) (n : ℕ) :
    List.Forall₂ (fun entry entry' => entry.1.Represents entry'.1 ∧ entry.2 = entry'.2)
      (keys.zipIdx n) (points.zipIdx n) := by
  induction h generalizing n with
  | nil => exact .nil
  | cons hkey _ ih => exact .cons ⟨hkey, rfl⟩ (ih (n + 1))

theorem Refines.setMask {cos : Cosigners Element} {abstract : Cosigners CurvePoint}
    (h : Refines cos abstract) (mask : Bytes) :
    Refines (setMask cos mask) (abstract.setMask mask) :=
  h.foldl_assign (forall₂_zipIdx h.keys 0) mask

/-- A sequence of masks. -/
theorem Refines.foldl_setMask {cos : Cosigners Element} {abstract : Cosigners CurvePoint}
    (h : Refines cos abstract) (masks : List Bytes) :
    Refines (masks.foldl OnLimbs.setMask cos) (masks.foldl Cosigners.setMask abstract) := by
  induction masks generalizing cos abstract with
  | nil => exact h
  | cons mask masks ih => exact ih (h.setMask mask)

section Curve

variable (sha512 : Bytes → Block 64)

theorem decodeKeys_cons (pkBytes : Block 32) (aggr : Element) (pk : PublicKey)
    (publicKeys : List PublicKey) :
    decodeKeys pkBytes aggr (pk :: publicKeys) =
      (ExtendedGroupElement.fromBytes (pkBytes.copyFrom pk)).bind fun key =>
        (decodeKeys (pkBytes.copyFrom pk) (aggr.add key) publicKeys).map fun rest =>
          (key :: rest.1, rest.2) := rfl

theorem decodeKeys_rel (publicKeys : List PublicKey) (pkBytes : Block 32) {aggr : Element}
    {A : CurvePoint} (haggr : aggr.Represents A) :
    Option.Rel (fun rest rest' => List.Forall₂ ExtendedGroupElement.Represents rest.1 rest'.1 ∧
        rest.2.Represents rest'.2)
      (decodeKeys pkBytes aggr publicKeys)
      (Cosi.decodeKeys (curvePrimitives sha512) pkBytes A publicKeys) := by
  induction publicKeys generalizing pkBytes aggr A with
  | nil => exact .some ⟨.nil, haggr⟩
  | cons pk publicKeys ih =>
      have hdecode : Option.Rel ExtendedGroupElement.Represents
          (ExtendedGroupElement.fromBytes (pkBytes.copyFrom pk))
          ((curvePrimitives sha512).fromBytes (pkBytes.copyFrom pk)) := fromBytes_rel _
      rw [decodeKeys_cons, Cosi.decodeKeys]
      generalize ExtendedGroupElement.fromBytes (pkBytes.copyFrom pk) = key at hdecode ⊢
      generalize (curvePrimitives sha512).fromBytes (pkBytes.copyFrom pk) = K at hdecode ⊢
      cases hdecode with
      | none => exact .none
      | some hkey =>
          have hrest := ih (pkBytes.copyFrom pk) (haggr.add hkey)
          rw [Option.bind_some]
          generalize decodeKeys _ _ publicKeys = rest at hrest ⊢
          dsimp only
          generalize Cosi.decodeKeys (curvePrimitives sha512) _ _ publicKeys = rest' at hrest ⊢
          cases hrest with
          | none => exact .none
          | some h => exact .some ⟨.cons hkey h.1, h.2⟩

/-- `NewCosigners` on limbs refuses the same keys, and otherwise refines. -/
theorem newCosigners_rel (publicKeys : List PublicKey) (mask : Option Bytes) :
    Option.Rel Refines (newCosigners publicKeys mask)
      (Cosi.newCosigners (curvePrimitives sha512) publicKeys mask) := by
  have hdecode := decodeKeys_rel sha512 publicKeys (Block.zero 32)
    ExtendedGroupElement.represents_zero
  rw [newCosigners, Cosi.newCosigners]
  generalize decodeKeys _ _ publicKeys = decoded at hdecode ⊢
  generalize Cosi.decodeKeys (curvePrimitives sha512) _ _ publicKeys = decoded' at hdecode ⊢
  cases hdecode with
  | none => exact .none
  | @some decoded decoded' h =>
      have hcos : Refines
          ⟨decoded.1, List.replicate ((publicKeys.length + 7) / 8) 0, decoded.2, some .full⟩
          ⟨decoded'.1, List.replicate ((publicKeys.length + 7) / 8) 0, decoded'.2, some .full⟩ :=
        ⟨h.1, rfl, h.2, rfl⟩
      cases mask with
      | none => exact .some hcos
      | some mask => exact .some (hcos.setMask mask)

theorem sumCommits_cons (key : Element) (keys : List Element) (commitment : Commitment)
    (commits : List Commitment) (aggR : Element) :
    sumCommits (key :: keys) (commitment :: commits) aggR =
      if h : commitment.length = publicKeySize then
        (ExtendedGroupElement.fromBytes ⟨commitment, h⟩).elim (.ok none) fun indivR =>
          sumCommits keys commits (aggR.add indivR)
      else .ok none := rfl

/-- The loop of `AggregateCommit` panics, gives up or adds as it does over the curve. -/
theorem map_sumCommits {keys : List Element} {points : List CurvePoint}
    (h : List.Forall₂ ExtendedGroupElement.Represents keys points) (commits : List Commitment)
    {aggR : Element} {R : CurvePoint} (haggR : aggR.Represents R) :
    (sumCommits keys commits aggR).map (Option.map fun aggR => aggR.toBytes.toList) =
      (Cosi.sumCommits (curvePrimitives sha512) points commits R).map
        (Option.map fun R => (encodePoint R).toList) := by
  induction h generalizing commits aggR R with
  | nil =>
      have hbytes := haggR.toBytes
      rw [sumCommits, Cosi.sumCommits]
      change Except.ok (some aggR.toBytes.toList) = Except.ok (some (encodePoint R).toList)
      rw [hbytes]
  | cons _ _ ih =>
      cases commits with
      | nil => rfl
      | cons commitment commits =>
          rw [sumCommits_cons, Cosi.sumCommits, Primitives.decode]
          by_cases hlength : commitment.length = publicKeySize
          · have hdecode : Option.Rel ExtendedGroupElement.Represents
                (ExtendedGroupElement.fromBytes ⟨commitment, hlength⟩)
                ((curvePrimitives sha512).fromBytes ⟨commitment, hlength⟩) := fromBytes_rel _
            rw [dif_pos hlength, dif_pos (show commitment.length = 32 from hlength)]
            generalize ExtendedGroupElement.fromBytes ⟨commitment, hlength⟩ = indivR at hdecode ⊢
            generalize (curvePrimitives sha512).fromBytes ⟨commitment, hlength⟩ = I at hdecode ⊢
            cases hdecode with
            | none => rfl
            | some hindivR => exact ih commits (haggR.add hindivR)
          · rw [dif_neg hlength, dif_neg (show ¬commitment.length = 32 from hlength)]
            rfl

theorem Refines.aggregatePublicKey {cos : Cosigners Element} {abstract : Cosigners CurvePoint}
    (h : Refines cos abstract) :
    aggregatePublicKey cos = abstract.aggregatePublicKey (curvePrimitives sha512) :=
  congrArg List.Vector.toList h.aggr.toBytes

theorem Refines.aggregateCommit {cos : Cosigners Element} {abstract : Cosigners CurvePoint}
    (h : Refines cos abstract) (commits : List Commitment) :
    aggregateCommit cos commits = abstract.aggregateCommit (curvePrimitives sha512) commits := by
  have hsum := map_sumCommits sha512 h.keys commits ExtendedGroupElement.represents_zero
  unfold OnLimbs.aggregateCommit Cosigners.aggregateCommit
  generalize sumCommits cos.keys commits .zero = aggR at hsum ⊢
  generalize Cosi.sumCommits (curvePrimitives sha512) abstract.keys commits 0 = R at hsum ⊢
  cases aggR <;> cases R <;> exact hsum

/-- What `Refines` preserves is the same on limbs and over the curve, for the object that
`NewCosigners` makes and after any sequence of masks. -/
theorem newCosigners_map_eq {β : Type} {f : Cosigners Element → β} {g : Cosigners CurvePoint → β}
    (h : ∀ cos abstract, Refines cos abstract → f cos = g abstract) (publicKeys : List PublicKey)
    (mask : Option Bytes) (masks : List Bytes) :
    (newCosigners publicKeys mask).map (fun cos => f (masks.foldl setMask cos)) =
      (Cosi.newCosigners (curvePrimitives sha512) publicKeys mask).map fun cos =>
        g (masks.foldl Cosigners.setMask cos) := by
  have hrel := newCosigners_rel sha512 publicKeys mask
  generalize newCosigners publicKeys mask = cos at hrel ⊢
  generalize Cosi.newCosigners (curvePrimitives sha512) publicKeys mask = abstract at hrel ⊢
  cases hrel with
  | none => rfl
  | some hrefines => exact congrArg some (h _ _ (hrefines.foldl_setMask masks))

/-- After any sequence of masks the object on limbs writes the aggregate key of the object
over the curve. -/
theorem aggregate_key_on_limbs (publicKeys : List PublicKey) (mask : Option Bytes)
    (masks : List Bytes) :
    (newCosigners publicKeys mask).map
        (fun cos => aggregatePublicKey (masks.foldl setMask cos)) =
      (Cosi.newCosigners (curvePrimitives sha512) publicKeys mask).map fun cos =>
        (masks.foldl Cosigners.setMask cos).aggregatePublicKey (curvePrimitives sha512) :=
  newCosigners_map_eq sha512 (fun _ _ h => h.aggregatePublicKey sha512) publicKeys mask masks

/-- So it does the aggregate commit, with the same panics and the same refusals. -/
theorem aggregate_commit_on_limbs (publicKeys : List PublicKey) (mask : Option Bytes)
    (masks : List Bytes) (commits : List Commitment) :
    (newCosigners publicKeys mask).map
        (fun cos => aggregateCommit (masks.foldl setMask cos) commits) =
      (Cosi.newCosigners (curvePrimitives sha512) publicKeys mask).map fun cos =>
        (masks.foldl Cosigners.setMask cos).aggregateCommit (curvePrimitives sha512) commits :=
  newCosigners_map_eq sha512 (fun _ _ h => h.aggregateCommit sha512 commits) publicKeys mask masks

end Curve

end MeshCosi.Cosi.OnLimbs
