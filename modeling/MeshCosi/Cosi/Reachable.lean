import MeshCosi.Cosi.Aggregate

/-!
# The objects callers arrive at

A `Cosigners` object is built by `NewCosigners` and from then on changed by
`SetMask`, `SetMaskBit`, `SetPolicy` and `Verify`, in any order.  On a list of
decodable keys every object reached this way is consistent and keeps the keys
of the list.
-/

namespace MeshCosi.Cosi

open Foundation Ed25519

variable {G : Type} [AddCommGroup G] (P : Primitives G)

/-- The objects on a key list that callers of the package can arrive at. -/
inductive Reachable (publicKeys : List PublicKey) : Cosigners G → Prop
  | new {cos : Cosigners G} (mask : Option Bytes) (h : newCosigners P publicKeys mask = some cos) :
      Reachable publicKeys cos
  | setMask {cos : Cosigners G} (mask : Bytes) (h : Reachable publicKeys cos) :
      Reachable publicKeys (cos.setMask mask)
  | setMaskBit {cos next : Cosigners G} (signer : ℕ) (value : MaskBit)
      (h : Reachable publicKeys cos) (step : cos.setMaskBit signer value = .ok next) :
      Reachable publicKeys next
  | setPolicy {cos : Cosigners G} (policy : Option Policy) (h : Reachable publicKeys cos) :
      Reachable publicKeys (cos.setPolicy policy)
  | verify {cos : Cosigners G} (message sig : Bytes) (h : Reachable publicKeys cos) :
      Reachable publicKeys (cos.verify P message sig).1

variable {P}

/-- `SetMaskBit` on one of the cosigners is one step. -/
theorem Cosigners.Consistent.setMaskBit_eq {cos : Cosigners G} (h : cos.Consistent) {signer : ℕ}
    {key : G} (hkey : cos.keys[signer]? = some key) (value : MaskBit) :
    cos.setMaskBit signer value = .ok (cos.assign signer key value) := by
  have hlt : signer < cos.keys.length := (List.getElem?_eq_some_iff.1 hkey).1
  rw [Cosigners.setMaskBit, if_pos (h.byte_lt hlt), hkey]

theorem Cosigners.Consistent.setMaskBit {cos next : Cosigners G} (h : cos.Consistent) {signer : ℕ}
    {value : MaskBit} (step : cos.setMaskBit signer value = .ok next) :
    next.Consistent ∧ next.keys = cos.keys ∧ next.policy = cos.policy := by
  cases hkey : cos.keys[signer]? with
  | some key =>
      rw [h.setMaskBit_eq hkey] at step
      obtain ⟨hkeys, hpolicy, -⟩ := Cosigners.assign_frame cos signer key value
      rw [← Except.ok.inj step]
      exact ⟨h.assign hkey value, hkeys, hpolicy⟩
  | none =>
      -- an index past the keys is only survived when nothing has to change
      unfold Cosigners.setMaskBit at step
      simp only [hkey] at step
      split_ifs at step
      rw [← Except.ok.inj step]
      exact ⟨h, rfl, rfl⟩

/-- `Verify` leaves the object alone or sets the mask of the signature. -/
theorem Cosigners.verify_fst (cos : Cosigners G) (message sig : Bytes) :
    (cos.verify P message sig).1 =
      if sig.length < signatureSize then cos
      else cos.setMask (signatureMask cos.keys.length sig) := by
  split_ifs with hshort
  · rw [Cosigners.verify, if_pos hshort]
  · rw [cos.verify_of_le message (not_lt.1 hshort)]
    dsimp only
    split_ifs <;> rfl

theorem Cosigners.Consistent.verify {cos : Cosigners G} (h : cos.Consistent)
    (message sig : Bytes) :
    (cos.verify P message sig).1.Consistent ∧ (cos.verify P message sig).1.keys = cos.keys ∧
      (cos.verify P message sig).1.policy = cos.policy := by
  rw [Cosigners.verify_fst]
  split_ifs
  · exact ⟨h, rfl, rfl⟩
  · obtain ⟨hcons, hkeys, hpolicy, -⟩ := h.setMask (signatureMask cos.keys.length sig)
    exact ⟨hcons, hkeys, hpolicy⟩

/-- What every object on a list of decodable keys satisfies. -/
theorem Reachable.consistent {publicKeys : List PublicKey} {keys : List G} {cos : Cosigners G}
    (hkeys : P.decodeAll publicKeys = some keys) (h : Reachable P publicKeys cos) :
    cos.Consistent ∧ cos.keys = keys := by
  induction h with
  | new mask h =>
      have hnew := Cosigners.ofKeys_consistent keys
      cases mask with
      | none =>
          rw [newCosigners_eq hkeys, Option.some.injEq] at h
          rw [← h]
          exact ⟨hnew, rfl⟩
      | some mask =>
          rw [newCosigners_mask_eq hkeys, Option.some.injEq] at h
          rw [← h]
          exact ⟨(hnew.setMask mask).1, (hnew.setMask mask).2.1⟩
  | setMask mask _ ih => exact ⟨(ih.1.setMask mask).1, (ih.1.setMask mask).2.1.trans ih.2⟩
  | setMaskBit signer value _ step ih =>
      exact ⟨(ih.1.setMaskBit step).1, (ih.1.setMaskBit step).2.1.trans ih.2⟩
  | setPolicy policy _ ih =>
      exact ⟨(ih.1.setPolicy policy).1, (ih.1.setPolicy policy).2.trans ih.2⟩
  | verify message sig _ ih =>
      exact ⟨(ih.1.verify message sig).1, (ih.1.verify message sig).2.1.trans ih.2⟩

/-- The policy is never nil: `NewCosigners` sets one and `SetPolicy` replaces nil. -/
theorem Reachable.exists_policy {publicKeys : List PublicKey} {keys : List G} {cos : Cosigners G}
    (hkeys : P.decodeAll publicKeys = some keys) (h : Reachable P publicKeys cos) :
    ∃ policy, cos.policy = some policy := by
  induction h with
  | new mask h =>
      cases mask with
      | none =>
          rw [newCosigners_eq hkeys, Option.some.injEq] at h
          exact ⟨.full, by rw [← h]; rfl⟩
      | some mask =>
          rw [newCosigners_mask_eq hkeys, Option.some.injEq] at h
          rw [← h, ((Cosigners.ofKeys_consistent keys).setMask mask).2.2.1]
          exact ⟨.full, rfl⟩
  | setMask mask h ih => rwa [((h.consistent hkeys).1.setMask mask).2.2.1]
  | setMaskBit signer value h step ih => rwa [((h.consistent hkeys).1.setMaskBit step).2.2]
  | setPolicy policy _ _ => cases policy <;> exact ⟨_, rfl⟩
  | verify message sig h ih => rwa [((h.consistent hkeys).1.verify message sig).2.2]

theorem Cosigners.Consistent.maskBit_eq {cos : Cosigners G} (h : cos.Consistent) {i : ℕ}
    (hi : i < cos.keys.length) : cos.maskBit i = .ok (isSet cos.mask i) :=
  if_pos (h.byte_lt hi)

end MeshCosi.Cosi
