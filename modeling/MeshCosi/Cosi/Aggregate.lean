import MeshCosi.Cosi.Mask
import MeshCosi.Cosi.Verify

/-!
# What the aggregation functions compute

One statement for each: `NewCosigners` on decodable keys, `AggregateCommit` on
enough commits, `AggregateSignature` on well-formed parts, and the two formats
of `Verify` brought down to the signature equation.
-/

namespace MeshCosi.Cosi

open Foundation Ed25519

variable {G : Type} [AddCommGroup G] {P : Primitives G}

/-! ## `NewCosigners` -/

/-- The object `NewCosigners` builds from decoded keys: everybody enabled,
the full policy. -/
def Cosigners.ofKeys (keys : List G) : Cosigners G where
  keys := keys
  mask := List.replicate ((keys.length + 7) / 8) 0
  aggr := keys.sum
  policy := some .full

theorem Cosigners.ofKeys_consistent (keys : List G) : (Cosigners.ofKeys keys).Consistent where
  mask_length := List.length_replicate
  aggr_eq := by
    have hindices : (ofKeys keys).enabledIndices = Finset.range keys.length := by
      apply Finset.filter_true_of_mem
      intro i _
      exact isSet_replicate_zero _ i
    rw [enabledSum, hindices]
    exact (sum_range_getD keys).symm

/-- What the shared buffer holds each time a key is decoded from it.  An entry
of the wrong length leaves part of the earlier entries in place. -/
def buffers : Block 32 → List PublicKey → List Bytes
  | _, [] => []
  | pkBytes, pk :: publicKeys =>
      (pkBytes.copyFrom pk).toList :: buffers (pkBytes.copyFrom pk) publicKeys

theorem length_buffers (pkBytes : Block 32) (publicKeys : List PublicKey) :
    (buffers pkBytes publicKeys).length = publicKeys.length := by
  induction publicKeys generalizing pkBytes with
  | nil => rfl
  | cons pk publicKeys ih => rw [buffers, List.length_cons, List.length_cons, ih]

/-- Entries of 32 bytes overwrite the whole buffer. -/
theorem buffers_of_length_eq {publicKeys : List PublicKey}
    (h : ∀ pk ∈ publicKeys, pk.length = 32) (pkBytes : Block 32) :
    buffers pkBytes publicKeys = publicKeys := by
  induction publicKeys generalizing pkBytes with
  | nil => rfl
  | cons pk publicKeys ih =>
      rw [List.forall_mem_cons] at h
      rw [buffers, ih h.2, Block.toList_copyFrom _ h.1]

theorem decodeKeys_eq (pkBytes : Block 32) (aggr : G) (publicKeys : List PublicKey) :
    decodeKeys P pkBytes aggr publicKeys =
      (P.decodeAll (buffers pkBytes publicKeys)).map fun keys => (keys, aggr + keys.sum) := by
  induction publicKeys generalizing pkBytes aggr with
  | nil => simp [decodeKeys, buffers]
  | cons pk publicKeys ih =>
      rw [decodeKeys, buffers, P.decodeAll_cons, P.decode_of_block]
      cases P.fromBytes (pkBytes.copyFrom pk) with
      | none => rfl
      | some key =>
          simp only [ih, Option.bind_some]
          cases P.decodeAll (buffers (pkBytes.copyFrom pk) publicKeys) <;> simp [add_assoc]

/-- `NewCosigners` with a nil mask decodes the buffers. -/
theorem newCosigners_none (publicKeys : List PublicKey) :
    newCosigners P publicKeys none =
      (P.decodeAll (buffers (Block.zero 32) publicKeys)).map Cosigners.ofKeys := by
  rw [newCosigners, decodeKeys_eq]
  cases hkeys : P.decodeAll (buffers (Block.zero 32) publicKeys) with
  | none => rfl
  | some keys =>
      have hlength := P.length_of_decodeAll hkeys
      rw [length_buffers] at hlength
      simp only [Option.map_some, zero_add, Cosigners.ofKeys, hlength]

theorem newCosigners_some (publicKeys : List PublicKey) (mask : Bytes) :
    newCosigners P publicKeys (some mask) =
      (newCosigners P publicKeys none).map fun cos => cos.setMask mask := by
  unfold newCosigners
  cases decodeKeys P (Block.zero 32) 0 publicKeys <;> rfl

/-- On entries of 32 bytes `NewCosigners` decodes each on its own. -/
theorem newCosigners_of_length_eq {publicKeys : List PublicKey}
    (h : ∀ pk ∈ publicKeys, pk.length = 32) :
    newCosigners P publicKeys none = (P.decodeAll publicKeys).map Cosigners.ofKeys := by
  rw [newCosigners_none, buffers_of_length_eq h]

theorem newCosigners_eq {publicKeys : List PublicKey} {keys : List G}
    (h : P.decodeAll publicKeys = some keys) :
    newCosigners P publicKeys none = some (Cosigners.ofKeys keys) := by
  rw [newCosigners_of_length_eq (P.length_eq_of_decodeAll h), h, Option.map_some]

theorem newCosigners_mask_eq {publicKeys : List PublicKey} {keys : List G}
    (h : P.decodeAll publicKeys = some keys) (mask : Bytes) :
    newCosigners P publicKeys (some mask) = some ((Cosigners.ofKeys keys).setMask mask) := by
  rw [newCosigners_some, newCosigners_eq h, Option.map_some]

/-- A first key that does not decode makes `NewCosigners` return nil. -/
theorem newCosigners_eq_none {pk : PublicKey} (hlength : pk.length = 32) (h : P.decode pk = none)
    (publicKeys : List PublicKey) : newCosigners P (pk :: publicKeys) none = none := by
  rw [newCosigners_none, buffers, P.decodeAll_cons, Block.toList_copyFrom _ hlength, h,
    Option.bind_none, Option.map_none]

/-- Whatever the bytes were, a non-nil object has one key for each of them,
everybody enabled. -/
theorem eq_ofKeys_of_newCosigners {publicKeys : List PublicKey} {cos : Cosigners G}
    (h : newCosigners P publicKeys none = some cos) :
    cos = Cosigners.ofKeys cos.keys ∧ cos.keys.length = publicKeys.length := by
  rw [newCosigners_none, Option.map_eq_some_iff] at h
  obtain ⟨keys, hkeys, rfl⟩ := h
  have hlength := P.length_of_decodeAll hkeys
  rw [length_buffers] at hlength
  exact ⟨rfl, hlength⟩

/-! ## `AggregateCommit` -/

theorem sumCommits_eq (keys : List G) (commits : List Commitment) (aggR : G)
    (h : keys.length ≤ commits.length) :
    sumCommits P keys commits aggR =
      .ok ((P.decodeSum (commits.take keys.length)).map (aggR + ·)) := by
  induction keys generalizing commits aggR with
  | nil => simp [sumCommits]
  | cons key keys ih =>
      cases commits with
      | nil => simp at h
      | cons commitment commits =>
          rw [sumCommits, List.length_cons, List.take_succ_cons, P.decodeSum_cons]
          cases P.decode commitment with
          | none => rfl
          | some indivR =>
              have hle : keys.length ≤ commits.length := by simpa using h
              simp only [ih commits (aggR + indivR) hle, Option.bind_some]
              cases P.decodeSum (commits.take keys.length) <;> simp [add_assoc]

/-- With a commit for every key, `AggregateCommit` is the encoded sum of that
many commits, or nil when one of them does not decode. -/
theorem Cosigners.aggregateCommit_eq (cos : Cosigners G) {commits : List Commitment}
    (h : cos.keys.length ≤ commits.length) :
    cos.aggregateCommit P commits =
      .ok ((P.decodeSum (commits.take cos.keys.length)).map fun A => (P.toBytes A).toList) := by
  rw [aggregateCommit, sumCommits_eq _ _ _ h]
  cases P.decodeSum (commits.take cos.keys.length) <;> simp [bind, Except.bind, pure, Except.pure]

/-! ## `AggregateSignature` -/

theorem toNat_scOne : scOne.toNat = 1 := by decide

theorem scMulAdd_scOne (n : ℕ) (part : Block 32) :
    scMulAdd (Block.ofNat 32 (n % l)) scOne part = Block.ofNat 32 ((n + part.toNat) % l) := by
  rw [scMulAdd, toNat_scOne, Block.ofNat_toNat_of_lt (mod_l_lt n), mul_one, Nat.mod_add_mod]

omit [AddCommGroup G] in
theorem sumParts_eq (keys : List G) (parts : List (Block 32)) (n : ℕ)
    (h : keys.length = parts.length) :
    sumParts keys (parts.map List.Vector.toList) (Block.ofNat 32 (n % l)) =
      .ok (some (Block.ofNat 32 ((n + (parts.map Block.toNat).sum) % l))) := by
  induction keys generalizing parts n with
  | nil =>
      obtain rfl : parts = [] := by simpa using h.symm
      simp [sumParts]
  | cons key keys ih =>
      cases parts with
      | nil => simp at h
      | cons part parts =>
          have hlength : keys.length = parts.length := by simpa using h
          rw [List.map_cons, sumParts, if_neg (by simp), Block.copyFrom_toList, scMulAdd_scOne,
            ih parts _ hlength, List.map_cons, List.sum_cons, Nat.add_assoc]

omit [AddCommGroup G] in
theorem Cosigners.aggregateSignature_eq (cos : Cosigners G) (aggregateR : Block 32)
    {parts : List (Block 32)} (h : cos.keys.length = parts.length) :
    cos.aggregateSignature aggregateR.toList (parts.map List.Vector.toList) =
      .ok (some (aggregateR.toList ++
        (Block.ofNat 32 ((parts.map Block.toNat).sum % l)).toList)) := by
  have hzero : Block.zero 32 = Block.ofNat 32 (0 % l) := by decide
  rw [aggregateSignature, if_neg (by simp [publicKeySize]), hzero, sumParts_eq _ _ _ h, zero_add]
  rfl

/-! ## The signature equation -/

/-- What the unexported `verify` checks: two halves of 32 bytes, a response
below `2^253`, and that the response opens `sigR` under the challenge. -/
theorem Cosigners.verifyAgainst_eq_true {cos : Cosigners G} {message aggR sigR sigS : Bytes}
    {sigA : G} :
    cos.verifyAgainst P message aggR sigR sigS sigA = true ↔
      sigR.length = 32 ∧ sigS.length = 32 ∧ sigS.getD 31 0 &&& 224 = 0 ∧
      sigR = (P.toBytes (leNat sigS • P.base -
        (scReduce (P.sha512 (aggR ++ (P.toBytes cos.aggr).toList ++ message))).toNat •
          sigA)).toList := by
  unfold verifyAgainst
  split_ifs with hguard
  · simp only [false_iff]
    intro h
    rcases hguard with hR | hS | htop
    · exact hR h.1
    · exact hS h.2.1
    · exact htop h.2.2.1
  · push Not at hguard
    obtain ⟨hR, hS, htop⟩ := hguard
    simp only [Primitives.geDoubleScalarMultVartime, Block.toNat_copyFrom _ hS, smul_neg,
      neg_add_eq_sub, decide_eq_true_eq, hR, hS, htop, true_and]

/-- A response that opens the commitment under the challenge is accepted. -/
theorem Cosigners.verifyAgainst_of_opens (hP : P.Lawful) (cos : Cosigners G)
    (message aggR : Bytes) {sigA R : G} {s : ℕ}
    (h : s • P.base =
      (scReduce (P.sha512 (aggR ++ (P.toBytes cos.aggr).toList ++ message))).toNat • sigA + R) :
    cos.verifyAgainst P message aggR (P.toBytes R).toList (Block.ofNat 32 (s % l)).toList sigA =
      true := by
  -- the response is reduced, so the guard on its top bits does not reject it
  have htop := top_bits_ofNat_mod_l s
  apply Cosigners.verifyAgainst_eq_true.2
  refine ⟨List.Vector.toList_length _, List.Vector.toList_length _, htop, ?_⟩
  rw [hP.leNat_ofNat_mod_nsmul_base, h, add_sub_cancel_left]

/-- The mask `Verify` takes from a signature: what follows the 64 bytes, or
zeros when nothing does. -/
def signatureMask (n : ℕ) (sig : Bytes) : Bytes :=
  if signatureSize < sig.length then sig.drop 64 else List.replicate ((n + 7) / 8) 0

/-- In both formats the missing bits are zero. -/
theorem isSet_signatureMask (n : ℕ) (sig : Bytes) (i : ℕ) :
    isSet (signatureMask n sig) i = isSet (sig.drop 64) i := by
  unfold signatureMask
  split_ifs with h
  · rfl
  · have hdrop : sig.drop 64 = [] := List.drop_of_length_le (not_lt.1 h)
    rw [isSet_replicate_zero, hdrop, isSet_of_length_le (Nat.zero_le _)]

/-- `Verify` on a signature that is long enough. -/
theorem Cosigners.verify_of_le (cos : Cosigners G) (message : Bytes) {sig : Bytes}
    (h : signatureSize ≤ sig.length) :
    cos.verify P message sig =
      let reset := cos.setMask (signatureMask cos.keys.length sig)
      if reset.policy.any fun policy => !policy.check reset then (reset, false)
      else (reset, reset.verifyAgainst P message (sig.take 32) (sig.take 32)
        ((sig.drop 32).take 32) reset.aggr) := by
  have hR : (sig.take 64).take 32 = sig.take 32 := by simp [List.take_take]
  have hS : (sig.take 64).drop 32 = (sig.drop 32).take 32 := List.drop_take
  rw [verify, if_neg (not_lt.2 h)]
  dsimp only
  rw [hR, hS]
  rfl

/-- `Verify` on the 64-byte format: the mask is reset to everybody enabled. -/
theorem Cosigners.verify_compact {cos : Cosigners G} (h : cos.Consistent) (message : Bytes)
    (sigR sigS : Block 32) :
    ∃ reset : Cosigners G, reset.Consistent ∧ reset.keys = cos.keys ∧ reset.policy = cos.policy ∧
      (∀ i < cos.keys.length, isSet reset.mask i = false) ∧ reset.aggr = cos.keys.sum ∧
      cos.verify P message (sigR.toList ++ sigS.toList) =
        if reset.policy.any fun policy => !policy.check reset then (reset, false)
        else (reset,
          reset.verifyAgainst P message sigR.toList sigR.toList sigS.toList reset.aggr) := by
  obtain ⟨hcons, hkeys, hpolicy, hbits⟩ :=
    h.setMask (signatureMask cos.keys.length (sigR.toList ++ sigS.toList))
  have hlength : (sigR.toList ++ sigS.toList).length = 64 := by simp
  have hall : ∀ i < cos.keys.length, isSet
      (cos.setMask (signatureMask cos.keys.length (sigR.toList ++ sigS.toList))).mask i =
        false := by
    intro i hi
    rw [hbits, if_pos hi, isSet_signatureMask, List.drop_of_length_le hlength.le]
    exact isSet_of_length_le (Nat.zero_le _)
  refine ⟨_, hcons, hkeys, hpolicy, hall, ?_, ?_⟩
  · rw [hcons.aggr_eq_sum (fun i hi => hall i (hkeys ▸ hi)), hkeys]
  · have hR : (sigR.toList ++ sigS.toList).take 32 = sigR.toList := by simp
    have hS : ((sigR.toList ++ sigS.toList).drop 32).take 32 = sigS.toList := by simp
    rw [cos.verify_of_le message hlength.ge, hR, hS]

end MeshCosi.Cosi
