import MeshCosi.Cosi.Aggregate
import MeshCosi.Foundation.Multisig

/-!
# Honest signing rounds

A participant holds a key pair of `GenerateKey` and a commitment of `Commit`.
The responses of a group of participants to one challenge open the sum of
their commitments under the sum of their keys, in whatever order the three
lists are taken.
-/

namespace MeshCosi.Cosi

open Foundation Ed25519

variable {G : Type} [AddCommGroup G]

/-- A cosigner with a generated key pair and a commitment it has not used yet. -/
structure Participant (P : Primitives G) where
  publicKey : PublicKey
  privateKey : PrivateKey
  commitment : Commitment
  secret : Secret
  keyEntropy : Block 32
  commitEntropy : Block 64
  generated : generateKey P (some keyEntropy) = some (publicKey, privateKey)
  committed : commit P (some commitEntropy) = some (commitment, secret)

/-- The challenge `Cosign` and `Verify` derive from the two aggregates and the message. -/
def challenge (P : Primitives G) (aggR aggK message : Bytes) : Block 32 :=
  scReduce (P.sha512 (aggR ++ aggK ++ message))

/-- Every entropy gives a participant. -/
def Participant.ofEntropy (P : Primitives G) (keyEntropy : Block 32) (commitEntropy : Block 64) :
    Participant P where
  publicKey := (P.toBytes (P.geScalarMultBase (secretScalar P.sha512 keyEntropy.toList))).toList
  privateKey := keyEntropy.toList ++
    (P.toBytes (P.geScalarMultBase (secretScalar P.sha512 keyEntropy.toList))).toList
  commitment := (P.toBytes (P.geScalarMultBase (scReduce commitEntropy))).toList
  secret := { reduced := scReduce commitEntropy, valid := true }
  keyEntropy := keyEntropy
  commitEntropy := commitEntropy
  generated := generateKey_eq P keyEntropy
  committed := rfl

namespace Participant

variable {P : Primitives G} (p : Participant P)

/-- The secret scalar. -/
def scalar : Block 32 := secretScalar P.sha512 p.keyEntropy.toList

/-- The point of the public key. -/
def key : G := p.scalar.toNat • P.base

/-- The point of the commitment. -/
def nonce : G := p.secret.reduced.toNat • P.base

/-- The answer to a challenge. -/
def response (h : Block 32) : Block 32 := scMulAdd h p.scalar p.secret.reduced

theorem publicKey_eq : p.publicKey = (P.toBytes p.key).toList := by
  have h := p.generated
  rw [generateKey_eq, Option.some.injEq, Prod.mk.injEq] at h
  exact h.1.symm

theorem privateKey_eq : p.privateKey = p.keyEntropy.toList ++ p.publicKey := by
  have h := p.generated
  rw [generateKey_eq, Option.some.injEq, Prod.mk.injEq] at h
  rw [← h.2, ← h.1]

theorem commitment_eq : p.commitment = (P.toBytes p.nonce).toList ∧ p.secret.valid = true := by
  have h := p.committed
  simp only [commit, Option.some.injEq, Prod.mk.injEq] at h
  rw [← h.1, nonce, ← h.2]
  exact ⟨rfl, rfl⟩

theorem decode_publicKey (hP : P.Lawful) : P.decode p.publicKey = some p.key := by
  rw [publicKey_eq, hP.decode_toBytes]

theorem decode_commitment (hP : P.Lawful) : P.decode p.commitment = some p.nonce := by
  rw [p.commitment_eq.1, hP.decode_toBytes]

/-- `Cosign` returns the response to the challenge. -/
theorem cosign_eq (message aggK : Bytes) (aggR : Block 32) :
    cosign P p.privateKey p.secret message aggK aggR.toList =
      .ok ((p.response (challenge P aggR.toList aggK message)).toList,
        { reduced := Block.zero 32, valid := false }) := by
  have hlength : p.privateKey.length = privateKeySize := by
    simp [p.privateKey_eq, p.publicKey_eq, privateKeySize]
  have hseed : p.privateKey.take 32 = p.keyEntropy.toList := by
    rw [p.privateKey_eq]
    exact List.take_left' (by simp)
  have hR : aggR.toList.length = publicKeySize := by simp [publicKeySize]
  simp only [cosign, hlength, hR, p.commitment_eq.2, hseed, ne_eq, not_true_eq_false, if_false,
    Bool.true_eq_false]
  rfl

end Participant

variable {P : Primitives G}

/-- Generated keys decode. -/
theorem decodeAll_publicKeys (hP : P.Lawful) (participants : List (Participant P)) :
    P.decodeAll (participants.map Participant.publicKey) =
      some (participants.map Participant.key) :=
  P.decodeAll_map fun p _ => p.decode_publicKey hP

/-- The responses to one challenge open the summed commitments under the summed keys. -/
theorem sum_responses_open (hP : P.Lawful) (participants : List (Participant P)) (h : Block 32) :
    ((participants.map fun p => (p.response h).toNat).sum) • P.base =
      h.toNat • (participants.map Participant.key).sum +
        (participants.map Participant.nonce).sum := by
  have hresponse : ∀ p : Participant P,
      (p.response h).toNat = (h.toNat * p.scalar.toNat + p.secret.reduced.toNat) % l :=
    fun p => toNat_scMulAdd _ _ _
  simp only [hresponse]
  -- the responses are reduced modulo the order of the base point
  calc (participants.map fun p =>
          (h.toNat * p.scalar.toNat + p.secret.reduced.toNat) % l).sum • P.base
      = (participants.map fun p =>
          h.toNat * p.scalar.toNat + p.secret.reduced.toNat).sum • P.base := by
        rw [← hP.mod_nsmul_base, sum_map_mod, hP.mod_nsmul_base]
    _ = h.toNat • (participants.map Participant.key).sum +
          (participants.map Participant.nonce).sum :=
        sum_responses_nsmul participants (fun p => p.scalar.toNat)
          (fun p => p.secret.reduced.toNat) h.toNat P.base

/-- `AggregateCommit` on the commitments of all participants. -/
theorem Cosigners.aggregateCommit_honest (hP : P.Lawful) {cos : Cosigners G}
    {participants : List (Participant P)} (hkeys : cos.keys = participants.map Participant.key) :
    cos.aggregateCommit P (participants.map Participant.commitment) =
      .ok (some (P.toBytes (participants.map Participant.nonce).sum).toList) := by
  rw [cos.aggregateCommit_eq (by simp [hkeys]), hkeys, List.take_of_length_le (by simp),
    P.decodeSum_map fun p _ => p.decode_commitment hP, Option.map_some]

/-- The response a leader assembles from the parts, in any order. -/
def assembled (participants : List (Participant P)) (h : Block 32) : Block 32 :=
  Block.ofNat 32 ((participants.map fun p => (p.response h).toNat).sum % l)

/-- An honest round is accepted: for an object whose aggregate is the sum of
the keys, with the commitments and the parts summed in any order. -/
theorem verifyAgainst_honest (hP : P.Lawful) {cos : Cosigners G}
    {participants : List (Participant P)}
    (haggr : cos.aggr = (participants.map Participant.key).sum) (message : Bytes) :
    let R := P.toBytes (participants.map Participant.nonce).sum
    cos.verifyAgainst P message R.toList R.toList
      (assembled participants (challenge P R.toList (P.toBytes cos.aggr).toList message)).toList
      cos.aggr = true := by
  intro R
  apply cos.verifyAgainst_of_opens hP
  rw [sum_responses_open hP, haggr]
  rfl

omit [AddCommGroup G] in
/-- A policy judges two objects on the same keys alike when both have everybody enabled. -/
theorem Policy.check_congr {policy : Policy} {cos cos' : Cosigners G} (hkeys : cos.keys = cos'.keys)
    (hall : ∀ i < cos.keys.length, isSet cos.mask i = false)
    (hall' : ∀ i < cos'.keys.length, isSet cos'.mask i = false) :
    policy.check cos = policy.check cos' := by
  have hcount : cos.countEnabled = cos'.countEnabled := by
    rw [Cosigners.countEnabled_eq_length hall, Cosigners.countEnabled_eq_length hall', hkeys]
  have htotal : cos.countTotal = cos'.countTotal := congrArg List.length hkeys
  unfold Policy.check
  rw [hcount, htotal]

/-- The method `Verify` accepts the signature of an honest round and enables
everybody, under a policy that accepts everybody. -/
theorem Cosigners.verify_honest (hP : P.Lawful) {cos : Cosigners G} (hcons : cos.Consistent)
    {participants : List (Participant P)} (hkeys : cos.keys = participants.map Participant.key)
    (hpolicy : ∀ policy, cos.policy = some policy →
      policy.check (Cosigners.ofKeys (participants.map Participant.key)) = true)
    (message : Bytes) :
    let R := P.toBytes (participants.map Participant.nonce).sum
    let K := P.toBytes (participants.map Participant.key).sum
    ∃ reset : Cosigners G, reset.Consistent ∧ reset.keys = participants.map Participant.key ∧
      (∀ i < (participants.map Participant.key).length, isSet reset.mask i = false) ∧
      cos.verify P message
        (R.toList ++ (assembled participants (challenge P R.toList K.toList message)).toList) =
          (reset, true) := by
  intro R K
  obtain ⟨reset, hreset, hresetKeys, hresetPolicy, hall, hsum, heq⟩ :=
    Cosigners.verify_compact (P := P) hcons message R
      (assembled participants (challenge P R.toList K.toList message))
  rw [hkeys] at hresetKeys hall hsum
  have hcheck : (reset.policy.any fun policy => !policy.check reset) = false := by
    cases hcase : cos.policy with
    | none => rw [hresetPolicy, hcase, Option.any_none]
    | some policy =>
        have hsame : policy.check reset =
            policy.check (Cosigners.ofKeys (participants.map Participant.key)) :=
          Policy.check_congr hresetKeys (fun i hi => hall i (hresetKeys ▸ hi))
            fun i _ => isSet_replicate_zero _ i
        rw [hresetPolicy, hcase, Option.any_some, hsame, hpolicy policy hcase, Bool.not_true]
  have hsig := verifyAgainst_honest hP hsum message
  rw [hsum] at hsig
  refine ⟨reset, hreset, hresetKeys, hall, ?_⟩
  rw [heq, hcheck, if_neg Bool.false_ne_true, hsum]
  exact congrArg (Prod.mk reset) hsig

/-- The parts a leader collects, in the order of the list. -/
def cosignAll (P : Primitives G) (message : Bytes) (aggK : PublicKey) (aggR : Commitment)
    (participants : List (Participant P)) : Go (List SignaturePart) :=
  participants.mapM fun p => do
    let (part, _) ← cosign P p.privateKey p.secret message aggK aggR
    return part

theorem cosignAll_eq (message aggK : Bytes) (aggR : Block 32)
    (participants : List (Participant P)) :
    cosignAll P message aggK aggR.toList participants =
      .ok ((participants.map fun p => p.response (challenge P aggR.toList aggK message)).map
        List.Vector.toList) := by
  rw [List.map_map]
  apply mapM_eq_ok
  intro p _
  rw [p.cosign_eq]
  rfl

/-- `Verify` accepts the signature of an honest round, under the default policy. -/
theorem verify_honest (hP : P.Lawful) (participants : List (Participant P)) (message : Bytes) :
    let R := P.toBytes (participants.map Participant.nonce).sum
    let K := P.toBytes (participants.map Participant.key).sum
    verify P (participants.map Participant.publicKey) none message
      (R.toList ++ (assembled participants (challenge P R.toList K.toList message)).toList) =
        .ok true := by
  intro R K
  have hdecode := decodeAll_publicKeys hP participants
  have hlength : (R.toList ++
      (assembled participants (challenge P R.toList K.toList message)).toList).length =
        signatureSize := by
    simp [signatureSize]
  obtain ⟨hmasked, hmaskedKeys, -⟩ :=
    (Cosigners.ofKeys_consistent (participants.map Participant.key)).setMask []
  obtain ⟨hcons, hkeys⟩ := hmasked.setPolicy none
  -- the default policy asks for everybody
  have hfull : ∀ policy, (((Cosigners.ofKeys (participants.map Participant.key)).setMask
      []).setPolicy none).policy = some policy →
      policy.check (Cosigners.ofKeys (participants.map Participant.key)) = true := by
    rintro policy ⟨⟩
    exact decide_eq_true (Cosigners.countEnabled_eq_length fun i _ => isSet_replicate_zero _ i)
  obtain ⟨reset, -, -, -, hverify⟩ :=
    Cosigners.verify_honest hP hcons (hkeys.trans hmaskedKeys) hfull message
  rw [verify, if_neg (by rw [hlength]; exact lt_irrefl _),
    List.drop_of_length_le (by rw [hlength]; rfl), newCosigners_mask_eq hdecode, deref_some,
    ok_bind]
  exact congrArg (fun result => Except.ok result.2) hverify

/-- The parts of all cosigners, in any order, make an accepted signature. -/
theorem collective_signature (hP : P.Lawful) {signers parts : List (Participant P)}
    (hperm : parts.Perm signers) (message : Bytes) :
    let R := P.toBytes (signers.map Participant.nonce).sum
    let K := P.toBytes (signers.map Participant.key).sum
    ∃ sigParts sig, cosignAll P message K.toList R.toList parts = .ok sigParts ∧
      (Cosigners.ofKeys (signers.map Participant.key)).aggregateSignature R.toList sigParts =
        .ok (some sig) ∧
      sig.length = 64 ∧
      verify P (signers.map Participant.publicKey) none message sig = .ok true := by
  intro R K
  have hassembled : assembled parts (challenge P R.toList K.toList message) =
      assembled signers (challenge P R.toList K.toList message) := by
    rw [assembled, assembled, (hperm.map _).sum_eq]
  refine ⟨_, _, cosignAll_eq message K.toList R parts, Cosigners.aggregateSignature_eq _ R ?_,
    ?_, ?_⟩
  · simp [Cosigners.ofKeys, hperm.length_eq]
  · simp
  · rw [List.map_map]
    change verify P _ none message (R.toList ++ (assembled parts _).toList) = _
    rw [hassembled]
    exact verify_honest hP signers message

/-- Two participants over the cyclic group. -/
def twoParticipants : List (Participant cyclicPrimitives) :=
  [.ofEntropy cyclicPrimitives (Block.ofNat 32 1) (Block.ofNat 64 2),
    .ofEntropy cyclicPrimitives (Block.ofNat 32 3) (Block.ofNat 64 4)]

end MeshCosi.Cosi
