import MeshCosi.Cosi.Honest
import MeshCosi.Cosi.Reachable

/-!
# Signing with a participation mask

The leader disables the cosigners that do not take part.  `AggregatePublicKey`
follows the mask, but `AggregateCommit` and `AggregateSignature` go over every
key and the signature they produce carries no mask, so a verifier takes
everybody to have signed.  A round therefore works out exactly when the mask
disables nobody.
-/

namespace MeshCosi.Cosi

open Foundation Ed25519

variable {G : Type} [AddCommGroup G] (P : Primitives G)

/-- `testCosign`: the signing round of the package's test, with the parts of
all cosigners in the order of the key list.  That the test also checks each part
with `VerifyPart` changes nothing in the round. -/
def testCosign (message : Bytes) (participants : List (Participant P)) (cos : Cosigners G) :
    Go (Option Bytes) := do
  let aggK := cos.aggregatePublicKey P
  let aggR ← cos.aggregateCommit P (participants.map Participant.commitment)
  -- a nil aggregate commit goes on as a slice of length 0
  let aggR := aggR.getD []
  let sigparts ← cosignAll P message aggK aggR participants
  cos.aggregateSignature aggR sigparts

variable {P}

/-! ## The round -/

/-- An honest round always ends with the 64-byte signature over all participants. -/
theorem testCosign_eq (hP : P.Lawful) {participants : List (Participant P)} {cos : Cosigners G}
    (hkeys : cos.keys = participants.map Participant.key) (message : Bytes) :
    let R := P.toBytes (participants.map Participant.nonce).sum
    testCosign P message participants cos =
      .ok (some (R.toList ++ (assembled participants
        (challenge P R.toList (P.toBytes cos.aggr).toList message)).toList)) := by
  intro R
  have hcommit : cos.aggregateCommit P (participants.map Participant.commitment) =
      .ok (some R.toList) := cos.aggregateCommit_honest hP hkeys
  simp only [testCosign, hcommit, ok_bind, Option.getD_some, cosignAll_eq]
  rw [cos.aggregateSignature_eq R (by simp [hkeys]), List.map_map]
  rfl

/-- What a signing round under a policy promises: the leader's signature is
accepted by a fresh object on the same keys, whose mask afterwards is the
leader's. -/
def RoundAccepted (P : Primitives G) (participants : List (Participant P)) (policy : Policy)
    (message : Bytes) (leader : Cosigners G) : Prop :=
  ∃ sig verifier verified,
    testCosign P message participants leader = .ok (some sig) ∧
    newCosigners P (participants.map Participant.publicKey) none = some verifier ∧
    (verifier.setPolicy (some policy)).verify P message sig = (verified, true) ∧
    ∀ i < participants.length, verified.maskBit i = leader.maskBit i

/-- The object after verifying a compact signature has everybody enabled, so a
round can only be accepted when the leader disabled nobody. -/
theorem RoundAccepted.enabled (hP : P.Lawful) {participants : List (Participant P)}
    {policy : Policy} {message : Bytes} {leader : Cosigners G}
    (hkeys : leader.keys = participants.map Participant.key)
    (h : RoundAccepted P participants policy message leader) :
    ∀ i < participants.length, leader.maskBit i = .ok enabled := by
  obtain ⟨sig, verifier, verified, hsign, hnew, hverify, hmask⟩ := h
  have hdecode := decodeAll_publicKeys hP participants
  rw [testCosign_eq hP hkeys, Except.ok.injEq, Option.some.injEq] at hsign
  rw [newCosigners_eq hdecode, Option.some.injEq] at hnew
  obtain ⟨hcons, hsame⟩ :=
    (Cosigners.ofKeys_consistent (participants.map Participant.key)).setPolicy (some policy)
  rw [hnew] at hcons hsame
  rw [← hsign] at hverify
  obtain ⟨reset, hreset, hresetKeys, -, hall, -, heq⟩ := Cosigners.verify_compact (P := P) hcons
    message (P.toBytes (participants.map Participant.nonce).sum) (assembled participants
      (challenge P (P.toBytes (participants.map Participant.nonce).sum).toList
        (P.toBytes leader.aggr).toList message))
  have hverified : verified = reset := by
    rw [hverify] at heq
    split_ifs at heq <;> exact congrArg Prod.fst heq
  intro i hi
  have hlt : i < (verifier.setPolicy (some policy)).keys.length := by
    rw [hsame, ← hnew]
    simpa [Cosigners.ofKeys] using hi
  rw [← hmask i hi, hverified, hreset.maskBit_eq (hresetKeys ▸ hlt), hall i hlt]

/-- With everybody enabled an honest round is accepted under every policy that
accepts the leader's mask. -/
theorem roundAccepted_of_enabled (hP : P.Lawful) {participants : List (Participant P)}
    {policy : Policy} {message : Bytes} {leader : Cosigners G} (hleader : leader.Consistent)
    (hkeys : leader.keys = participants.map Participant.key)
    (haccept : policy.check leader = true)
    (h : ∀ i < participants.length, leader.maskBit i = .ok enabled) :
    RoundAccepted P participants policy message leader := by
  have hdecode := decodeAll_publicKeys hP participants
  have hbits : ∀ i < leader.keys.length, isSet leader.mask i = false := by
    intro i hi
    have hbit := h i (by simpa [hkeys] using hi)
    rw [hleader.maskBit_eq hi] at hbit
    exact Except.ok.inj hbit
  have haggr : leader.aggr = (participants.map Participant.key).sum := by
    rw [hleader.aggr_eq_sum hbits, hkeys]
  obtain ⟨hcons, hsame⟩ :=
    (Cosigners.ofKeys_consistent (participants.map Participant.key)).setPolicy (some policy)
  -- with everybody enabled, the policy judges the verifier's object as it judged the leader's
  have hpolicy : ∀ p, ((Cosigners.ofKeys (participants.map Participant.key)).setPolicy
      (some policy)).policy = some p →
      p.check (Cosigners.ofKeys (participants.map Participant.key)) = true := by
    rintro p ⟨⟩
    rw [← haccept]
    exact Policy.check_congr hkeys.symm (fun i _ => isSet_replicate_zero _ i) hbits
  obtain ⟨reset, hreset, hresetKeys, hall, hverify⟩ :=
    Cosigners.verify_honest hP hcons hsame hpolicy message
  refine ⟨_, _, reset, testCosign_eq hP hkeys message, newCosigners_eq hdecode, ?_, ?_⟩
  · rw [haggr]
    exact hverify
  · intro i hi
    have hlt : i < (participants.map Participant.key).length := by simpa using hi
    rw [h i hi, hreset.maskBit_eq (by rw [hresetKeys]; exact hlt), hall i hlt]

/-- **Signing with a mask.**  Whatever was done to the leader's object before,
and for every policy that accepts its mask, an honest round yields an accepted
signature that reproduces the mask if and only if the mask disables nobody. -/
theorem masked_round_accepted_iff (hP : P.Lawful) (participants : List (Participant P))
    (policy : Policy) (message : Bytes) {leader : Cosigners G}
    (hleader : Reachable P (participants.map Participant.publicKey) leader)
    (haccept : policy.check leader = true) :
    RoundAccepted P participants policy message leader ↔
      ∀ i < participants.length, leader.maskBit i = .ok enabled := by
  have hdecode := decodeAll_publicKeys hP participants
  obtain ⟨hcons, hkeys⟩ := hleader.consistent hdecode
  exact ⟨RoundAccepted.enabled hP hkeys, roundAccepted_of_enabled hP hcons hkeys haccept⟩

/-- Both participants sign: the round is accepted. -/
theorem masked_round_accepted_two :
    RoundAccepted cyclicPrimitives twoParticipants .full [104, 105]
      (Cosigners.ofKeys (twoParticipants.map Participant.key)) := by
  have hbits : ∀ i, isSet (Cosigners.ofKeys (twoParticipants.map Participant.key)).mask i = false :=
    isSet_replicate_zero _
  refine (masked_round_accepted_iff cyclicPrimitives_lawful twoParticipants .full [104, 105]
    (.new none (newCosigners_eq
    (decodeAll_publicKeys cyclicPrimitives_lawful twoParticipants))) ?_).2 fun i hi => ?_
  · exact decide_eq_true (Cosigners.countEnabled_eq_length fun i _ => hbits i)
  · rw [(Cosigners.ofKeys_consistent _).maskBit_eq (by simpa [Cosigners.ofKeys] using hi), hbits]

/-- One of two cosigners is disabled and the policy asks for one: the policy
accepts the mask, the round is not accepted. -/
theorem masked_round_rejected :
    ∃ leader, newCosigners cyclicPrimitives (twoParticipants.map Participant.publicKey)
        (some [1]) = some leader ∧
      (thresholdPolicy 1).check leader = true ∧
      ¬ RoundAccepted cyclicPrimitives twoParticipants (thresholdPolicy 1) [104, 105] leader := by
  refine ⟨_, newCosigners_mask_eq
    (decodeAll_publicKeys cyclicPrimitives_lawful twoParticipants) [1], ?_, fun haccepted => ?_⟩
  all_goals
    obtain ⟨hcons, hkeys, -, hbits⟩ := (Cosigners.ofKeys_consistent
      (twoParticipants.map Participant.key)).setMask [1]
    have hlength : (Cosigners.ofKeys (twoParticipants.map Participant.key)).keys.length = 2 := rfl
    rw [hlength] at hbits
  · have hcount : ((Cosigners.ofKeys (twoParticipants.map Participant.key)).setMask
        [1]).countEnabled = 1 := by
      rw [Cosigners.countEnabled, hkeys, hlength]
      simp only [hbits]
      decide
    simp [Policy.check, thresholdPolicy, hcount]
  · have henabled := haccepted.enabled cyclicPrimitives_lawful hkeys 0 (by decide)
    rw [hcons.maskBit_eq (by rw [hkeys]; decide), hbits] at henabled
    exact absurd henabled (by decide)

end MeshCosi.Cosi
