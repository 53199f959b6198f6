import MeshCosi.Cosi.Honest
import MeshCosi.Cosi.Reachable

/-!
# Verification without state

`Verify` works on an object that carries a mask and a cached aggregate over
from earlier calls.  `ReferenceAccepts` says what it decides without an object:
the signature names the signers, the policy judges their number, and the
signature equation holds for the sum of their keys.  The verdict of a reachable
object, of the package function and, on the 64-byte format, of `ed25519.Verify`
all come down to it.
-/

namespace MeshCosi.Cosi

open Foundation Ed25519

variable {G : Type} [AddCommGroup G]

/-! ## The reference -/

/-- The cosigners whose bit in the mask of a signature is clear. -/
def signersOf (n : ℕ) (sig : Bytes) : Finset ℕ :=
  (Finset.range n).filter fun i => isSet (sig.drop 64) i = false

/-- The sum of the keys of the signers. -/
def signersKey (keys : List G) (sig : Bytes) : G :=
  ∑ i ∈ signersOf keys.length sig, keys.getD i 0

/-- A policy as a condition on the signers among `n` cosigners. -/
def Policy.Accepts (policy : Policy) (n : ℕ) (signers : Finset ℕ) : Prop :=
  match policy with
  | .full => signers.card = n
  | .thres t => t ≤ signers.card

/-- `sigR` is the encoding of `s * B - h * A`, with `h` the challenge for the
encoded key `A`. -/
def Opens (P : Primitives G) (message sigR sigS : Bytes) (A : G) : Prop :=
  sigR = (P.toBytes (leNat sigS • P.base -
    (scReduce (P.sha512 (sigR ++ (P.toBytes A).toList ++ message))).toNat • A)).toList

/-- The signatures on a message that are valid under a policy. -/
structure ReferenceAccepts (P : Primitives G) (keys : List G) (policy : Policy)
    (message sig : Bytes) : Prop where
  length_le : 64 ≤ sig.length
  top_bits : sig.getD 63 0 &&& 224 = 0
  signers : policy.Accepts keys.length (signersOf keys.length sig)
  equation : Opens P message (sig.take 32) ((sig.drop 32).take 32) (signersKey keys sig)

variable {P : Primitives G}

/-! ## `Verify` decides the reference -/

omit [AddCommGroup G] in
theorem Policy.check_iff (policy : Policy) (cos : Cosigners G) :
    policy.check cos = true ↔ policy.Accepts cos.keys.length cos.enabledIndices := by
  cases policy with
  | full =>
      rw [Policy.check, decide_eq_true_eq, cos.countEnabled_eq_card]
      rfl
  | thres t =>
      rw [Policy.check, decide_eq_true_eq, cos.countEnabled_eq_card]
      rfl

/-- After `Verify` has set the mask, the enabled cosigners are the signers. -/
theorem Cosigners.Consistent.enabledIndices_signatureMask {cos : Cosigners G}
    (h : cos.Consistent) (sig : Bytes) :
    (cos.setMask (signatureMask cos.keys.length sig)).enabledIndices =
      signersOf cos.keys.length sig := by
  obtain ⟨-, hkeys, -, hbits⟩ := h.setMask (signatureMask cos.keys.length sig)
  unfold Cosigners.enabledIndices signersOf
  rw [hkeys]
  apply Finset.filter_congr
  intro i hi
  rw [hbits, if_pos (Finset.mem_range.1 hi), isSet_signatureMask]

/-- Its aggregate is then the key of the signers. -/
theorem Cosigners.Consistent.aggr_signatureMask {cos : Cosigners G} (h : cos.Consistent)
    (sig : Bytes) :
    (cos.setMask (signatureMask cos.keys.length sig)).aggr = signersKey cos.keys sig := by
  obtain ⟨hcons, hkeys, -⟩ := h.setMask (signatureMask cos.keys.length sig)
  rw [hcons.aggr_eq, Cosigners.enabledSum, h.enabledIndices_signatureMask, hkeys]
  rfl

/-- The two halves of a signature against the aggregate of the object: their
lengths are right, and the top bits are those of the last of the 64 bytes. -/
theorem Cosigners.verifyAgainst_halves (cos : Cosigners G) (message : Bytes) {sig : Bytes}
    (h : signatureSize ≤ sig.length) :
    cos.verifyAgainst P message (sig.take 32) (sig.take 32) ((sig.drop 32).take 32) cos.aggr =
      true ↔ sig.getD 63 0 &&& 224 = 0 ∧
        Opens P message (sig.take 32) ((sig.drop 32).take 32) cos.aggr := by
  have hR : (sig.take 32).length = 32 := by
    rw [List.length_take]
    exact Nat.min_eq_left (le_trans (by decide) h)
  have hS : ((sig.drop 32).take 32).length = 32 := by
    rw [List.length_take, List.length_drop]
    exact Nat.min_eq_left (Nat.le_sub_of_add_le h)
  have htop : ((sig.drop 32).take 32).getD 31 0 = sig.getD 63 0 := by
    simp [List.getD_eq_getElem?_getD]
  rw [Cosigners.verifyAgainst_eq_true, htop]
  exact ⟨fun haccept => haccept.2.2, fun hopens => ⟨hR, hS, hopens⟩⟩

/-- The verdict of `Verify` is the same whatever mask the object had before. -/
theorem Cosigners.Consistent.verify_iff {cos : Cosigners G} (h : cos.Consistent) {policy : Policy}
    (hpolicy : cos.policy = some policy) (message sig : Bytes) :
    (cos.verify P message sig).2 = true ↔ ReferenceAccepts P cos.keys policy message sig := by
  by_cases hlong : signatureSize ≤ sig.length
  · have hindices := h.enabledIndices_signatureMask sig
    have haggr := h.aggr_signatureMask sig
    obtain ⟨-, hkeys, hsame, -⟩ := h.setMask (signatureMask cos.keys.length sig)
    rw [cos.verify_of_le message hlong]
    generalize cos.setMask (signatureMask cos.keys.length sig) = reset at *
    have hcheck : policy.check reset = true ↔
        policy.Accepts cos.keys.length (signersOf cos.keys.length sig) := by
      rw [policy.check_iff, hindices, hkeys]
    have hequation := reset.verifyAgainst_halves (P := P) message hlong
    simp only [hsame, hpolicy, Option.any_some, Bool.not_eq_true']
    split_ifs with hreject
    · simp only [false_iff]
      intro hreference
      rw [hcheck.2 hreference.signers] at hreject
      exact absurd hreject (by decide)
    · rw [Bool.not_eq_false] at hreject
      rw [hequation, haggr]
      exact ⟨fun haccept => ⟨hlong, haccept.1, hcheck.1 hreject, haccept.2⟩,
        fun hreference => ⟨hreference.top_bits, hreference.equation⟩⟩
  · rw [Cosigners.verify, if_pos (not_le.1 hlong)]
    simp only [Bool.false_eq_true, false_iff]
    intro hreference
    exact hlong hreference.length_le

/-- The package function decides the reference as well, with nil for the full policy. -/
theorem verify_package {publicKeys : List PublicKey} {keys : List G}
    (hdecode : P.decodeAll publicKeys = some keys) (policy : Option Policy)
    (message sig : Bytes) :
    ∃ verdict, verify P publicKeys policy message sig = .ok verdict ∧
      (verdict = true ↔ ReferenceAccepts P keys (policy.getD .full) message sig) := by
  obtain ⟨hmasked, hmaskedKeys, -⟩ := (Cosigners.ofKeys_consistent keys).setMask (sig.drop 64)
  obtain ⟨hcons, hkeys⟩ := hmasked.setPolicy policy
  have hpolicy : (((Cosigners.ofKeys keys).setMask (sig.drop 64)).setPolicy policy).policy =
      some (policy.getD .full) := by
    cases policy <;> rfl
  have hiff := hcons.verify_iff (P := P) hpolicy message sig
  rw [hkeys, hmaskedKeys] at hiff
  refine ⟨_, ?_, hiff⟩
  unfold verify
  split_ifs with hshort
  · rw [Cosigners.verify, if_pos hshort]
  · rw [newCosigners_mask_eq hdecode, deref_some, ok_bind]
    rfl

/-- **Cached and fresh verification agree.**  Whatever was done to an object
before, its verdict is that of the package function under the same policy, and
both are the stateless reference. -/
theorem verify_eq_reference {publicKeys : List PublicKey} {keys : List G}
    (hdecode : P.decodeAll publicKeys = some keys) {cos : Cosigners G}
    (h : Reachable P publicKeys cos) (message sig : Bytes) :
    ∃ policy, cos.policy = some policy ∧
      (∀ given : Option Policy, given.getD .full = policy →
        verify P publicKeys given message sig = .ok (cos.verify P message sig).2) ∧
      ((cos.verify P message sig).2 = true ↔ ReferenceAccepts P keys policy message sig) := by
  obtain ⟨hcons, hkeys⟩ := h.consistent hdecode
  obtain ⟨policy, hpolicy⟩ := h.exists_policy hdecode
  have hiff := hcons.verify_iff (P := P) hpolicy message sig
  rw [hkeys] at hiff
  refine ⟨policy, hpolicy, ?_, hiff⟩
  intro given hgiven
  obtain ⟨verdict, hverdict, hreference⟩ := verify_package hdecode given message sig
  rw [hverdict, Except.ok.injEq, Bool.eq_iff_iff, hreference, hiff, hgiven]

/-- An object with a disabled cosigner accepts the signature of both participants. -/
theorem verify_eq_reference_two :
    ∃ cos sig, newCosigners cyclicPrimitives (twoParticipants.map Participant.publicKey)
        (some [1]) = some cos ∧ (cos.verify cyclicPrimitives [104, 105] sig).2 = true := by
  have hdecode := decodeAll_publicKeys cyclicPrimitives_lawful twoParticipants
  have hnew := newCosigners_mask_eq hdecode [1]
  obtain ⟨-, sig, -, -, -, haccept⟩ :=
    collective_signature cyclicPrimitives_lawful (List.Perm.refl twoParticipants) [104, 105]
  obtain ⟨policy, hpolicy, hagree, -⟩ :=
    verify_eq_reference hdecode (.new (some [1]) hnew) [104, 105] sig
  refine ⟨_, sig, hnew, ?_⟩
  rw [((Cosigners.ofKeys_consistent _).setMask [1]).2.2.1] at hpolicy
  have hverify := hagree none (Option.some.inj hpolicy)
  rw [haccept] at hverify
  exact (Except.ok.inj hverify).symm

/-! ## The compact format is plain Ed25519 -/

/-- `ed25519.Verify` under an encoded point. -/
theorem verify_toBytes (hcodec : ∀ A, P.fromBytes (P.toBytes A) = some A) (A : G)
    (message sig : Bytes) :
    ∃ verdict, Ed25519.verify P (P.toBytes A).toList message sig = .ok verdict ∧
      (verdict = true ↔ sig.length = 64 ∧ sig.getD 63 0 &&& 224 = 0 ∧
        Opens P message (sig.take 32) (sig.drop 32) A) := by
  have hlength : (P.toBytes A).toList.length = publicKeySize := List.Vector.toList_length _
  unfold Ed25519.verify
  rw [if_neg (not_not.2 hlength)]
  split_ifs with hguard
  · refine ⟨false, rfl, ?_⟩
    simp only [Bool.false_eq_true, false_iff]
    intro h
    rcases hguard with hsize | htop
    · exact hsize h.1
    · exact htop h.2.1
  · push Not at hguard
    obtain ⟨hsize, htop⟩ := hguard
    have hS : (sig.drop 32).length = 32 := by rw [List.length_drop, hsize]; rfl
    simp only [Block.copyFrom_toList, hcodec, Except.ok.injEq, exists_eq_left',
      Primitives.geDoubleScalarMultVartime, Block.toNat_copyFrom _ hS, smul_neg, neg_add_eq_sub,
      decide_eq_true_eq]
    exact ⟨fun h => ⟨hsize, htop, h⟩, fun h => h.2.2⟩

/-- A signature without a mask names everybody. -/
theorem signersOf_compact (n : ℕ) {sig : Bytes} (h : sig.length = 64) :
    signersOf n sig = Finset.range n := by
  apply Finset.filter_true_of_mem
  intro i _
  rw [List.drop_of_length_le h.le]
  exact isSet_of_length_le (Nat.zero_le _)

/-- On 64 bytes, under a policy that everybody together satisfies, the
reference is the condition of `ed25519.Verify` for the sum of all keys. -/
theorem referenceAccepts_compact {keys : List G} {policy : Policy}
    (hpolicy : policy = .full ∨ ∃ t : ℤ, t ≤ keys.length ∧ policy = thresholdPolicy t)
    (message : Bytes) {sig : Bytes} (h : sig.length = 64) :
    ReferenceAccepts P keys policy message sig ↔ sig.length = 64 ∧ sig.getD 63 0 &&& 224 = 0 ∧
      Opens P message (sig.take 32) (sig.drop 32) keys.sum := by
  have hsigners := signersOf_compact keys.length h
  have hkey : signersKey keys sig = keys.sum := by
    rw [signersKey, hsigners, sum_range_getD]
  have haccepts : policy.Accepts keys.length (signersOf keys.length sig) := by
    rw [hsigners]
    rcases hpolicy with rfl | ⟨t, ht, rfl⟩
    · exact Finset.card_range _
    · change t ≤ ((Finset.range keys.length).card : ℤ)
      rwa [Finset.card_range]
  have hS : (sig.drop 32).take 32 = sig.drop 32 := by
    apply List.take_of_length_le
    rw [List.length_drop, h]
  constructor
  · intro hreference
    refine ⟨h, hreference.top_bits, ?_⟩
    rw [← hkey, ← hS]
    exact hreference.equation
  · intro hplain
    refine ⟨h.ge, hplain.2.1, haccepts, ?_⟩
    rw [hkey, hS]
    exact hplain.2.2

/-- **The compact format is plain Ed25519.**  Under a policy that everybody
together satisfies, every object on the keys judges a 64-byte signature as
`ed25519.Verify` does under the aggregate key of the fresh object. -/
theorem verify_eq_ed25519_verify {publicKeys : List PublicKey} {keys : List G}
    (hdecode : P.decodeAll publicKeys = some keys)
    (hcodec : ∀ A, P.fromBytes (P.toBytes A) = some A) {cos : Cosigners G}
    (h : Reachable P publicKeys cos)
    (hpolicy : cos.policy = some .full ∨
      ∃ t : ℤ, t ≤ publicKeys.length ∧ cos.policy = some (thresholdPolicy t))
    (message : Bytes) {sig : Bytes} (hsig : sig.length = 64) :
    ∃ fresh, newCosigners P publicKeys none = some fresh ∧
      Ed25519.verify P (fresh.aggregatePublicKey P) message sig =
        .ok (cos.verify P message sig).2 := by
  obtain ⟨hcons, hkeys⟩ := h.consistent hdecode
  have hplain : ∃ policy, cos.policy = some policy ∧
      (policy = .full ∨ ∃ t : ℤ, t ≤ keys.length ∧ policy = thresholdPolicy t) := by
    rw [P.length_of_decodeAll hdecode]
    rcases hpolicy with hfull | ⟨t, ht, hthres⟩
    · exact ⟨_, hfull, Or.inl rfl⟩
    · exact ⟨_, hthres, Or.inr ⟨t, ht, rfl⟩⟩
  obtain ⟨policy, hcurrent, hpolicy⟩ := hplain
  have hiff := hcons.verify_iff (P := P) hcurrent message sig
  obtain ⟨verdict, hverdict, hopens⟩ := verify_toBytes hcodec keys.sum message sig
  refine ⟨_, newCosigners_eq hdecode, ?_⟩
  change Ed25519.verify P (P.toBytes keys.sum).toList message sig = _
  rw [hverdict, Except.ok.injEq, Bool.eq_iff_iff, hopens, hiff, hkeys,
    referenceAccepts_compact hpolicy message hsig]

/-- The signature of two participants is an Ed25519 signature under their
aggregate key. -/
theorem verify_eq_ed25519_verify_two :
    ∃ fresh sig, newCosigners cyclicPrimitives (twoParticipants.map Participant.publicKey)
        none = some fresh ∧
      Ed25519.verify cyclicPrimitives (fresh.aggregatePublicKey cyclicPrimitives) [104, 105] sig =
        .ok true := by
  have hdecode := decodeAll_publicKeys cyclicPrimitives_lawful twoParticipants
  have hnew := newCosigners_eq hdecode
  obtain ⟨-, sig, -, -, hlength, haccept⟩ :=
    collective_signature cyclicPrimitives_lawful (List.Perm.refl twoParticipants) [104, 105]
  obtain ⟨fresh, hfresh, hverify⟩ := verify_eq_ed25519_verify hdecode
    cyclicPrimitives_lawful.fromBytes_toBytes (.new none hnew) (Or.inl rfl) [104, 105] hlength
  obtain ⟨verdict, hverdict, hreference⟩ := verify_package hdecode none [104, 105] sig
  have hiff := (Cosigners.ofKeys_consistent (twoParticipants.map Participant.key)).verify_iff
    (P := cyclicPrimitives) rfl [104, 105] sig
  refine ⟨fresh, sig, hfresh, ?_⟩
  rw [hverify, Except.ok.injEq, hiff]
  rw [haccept, Except.ok.injEq] at hverdict
  exact hreference.1 hverdict.symm

end MeshCosi.Cosi
