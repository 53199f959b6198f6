import MeshCosi.Cosi.Reference
import MeshCosi.Foundation.Multisig

/-!
# Checking the parts of a signature

A leader can check each part with `VerifyPart` before it assembles them.  A part
that `Cosign` made with a generated key passes under every mask, whether or not
its signer is enabled.  When all parts pass, so does the whole, with nothing
assumed of the keys, commits and parts: a part that passes pins its commit down
to the point its response leaves, and these points add up to the aggregate
commit.
-/

namespace MeshCosi.Cosi

open Foundation Ed25519

variable {G : Type} [AddCommGroup G] {P : Primitives G}

/-- What a passed part says about its commit. -/
theorem Cosigners.eq_of_verifyPart {cos : Cosigners G} {message aggR indR indS : Bytes}
    {signer : ℕ} (h : cos.verifyPart P message aggR signer indR indS = .ok true) :
    ∃ key, cos.keys[signer]? = some key ∧
      indR = (P.toBytes (leNat indS • P.base -
        (challenge P aggR (P.toBytes cos.aggr).toList message).toNat • key)).toList := by
  unfold verifyPart at h
  cases hkey : cos.keys[signer]? with
  | none => simp [hkey] at h
  | some key =>
      simp only [hkey, Except.ok.injEq] at h
      obtain ⟨-, -, -, hcommit⟩ := Cosigners.verifyAgainst_eq_true.1 h
      exact ⟨key, rfl, hcommit⟩

/-- The part of an honest participant passes, whatever the aggregate of the object. -/
theorem Cosigners.verifyPart_honest (hP : P.Lawful) {cos : Cosigners G} (message aggR : Bytes)
    {i : ℕ} {p : Participant P} (hkey : cos.keys[i]? = some p.key) :
    cos.verifyPart P message aggR i p.commitment
      (p.response (challenge P aggR (P.toBytes cos.aggr).toList message)).toList = .ok true := by
  unfold verifyPart
  rw [hkey, p.commitment_eq.1]
  apply congrArg Except.ok
  apply cos.verifyAgainst_of_opens hP
  rw [add_nsmul, mul_nsmul']
  rfl

/-- Generated keys decode, and a cosigner's key is the point of its own entry. -/
theorem Reachable.keys_generated (hP : P.Lawful) {pairs : List (PublicKey × PrivateKey)}
    (hpairs : ∀ pair ∈ pairs, ∃ rand, generateKey P rand = some pair) {cos : Cosigners G}
    (h : Reachable P (pairs.map Prod.fst) cos) :
    cos.keys = pairs.map fun pair => (P.decode pair.1).getD 0 := by
  have hdecode : (P.decodeAll (pairs.map Prod.fst)).isSome := by
    rw [P.decodeAll_isSome, List.forall_mem_map]
    intro pair hpair
    obtain ⟨rand, hrand⟩ := hpairs pair hpair
    cases rand with
    | none => cases hrand
    | some seed =>
        rw [generateKey_eq, Option.some.injEq] at hrand
        rw [← hrand, hP.decode_toBytes]
        rfl
  obtain ⟨keys, hkeys⟩ := Option.isSome_iff_exists.1 hdecode
  rw [(h.consistent hkeys).2, P.eq_map_of_decodeAll hkeys, List.map_map]
  rfl

/-- **Honest parts pass.**  Whoever is enabled on the object, and whatever
aggregate commit the cosigner is sent, its part passes the check of `VerifyPart`
against its own commit. -/
theorem verifyPart_of_cosign (hP : P.Lawful) {pairs : List (PublicKey × PrivateKey)}
    (hpairs : ∀ pair ∈ pairs, ∃ rand, generateKey P rand = some pair) {cos : Cosigners G}
    (h : Reachable P (pairs.map Prod.fst) cos) {i : ℕ} {publicKey : PublicKey}
    {privateKey : PrivateKey} (hi : pairs[i]? = some (publicKey, privateKey))
    {rand : Option (Block 64)} {commitment : Commitment} {secret : Secret}
    (hcommit : commit P rand = some (commitment, secret)) (message : Bytes) {aggR : Bytes}
    (haggR : aggR.length = 32) :
    ∃ part used,
      cosign P privateKey secret message (cos.aggregatePublicKey P) aggR = .ok (part, used) ∧
      cos.verifyPart P message aggR i commitment part = .ok true := by
  -- the key pair and the commit come from two calls, with entropy of their own
  obtain ⟨keyRand, hgenerate⟩ := hpairs _ (List.mem_of_getElem? hi)
  obtain ⟨seed, rfl⟩ : ∃ seed, keyRand = some seed := by
    cases keyRand with
    | none => cases hgenerate
    | some seed => exact ⟨seed, rfl⟩
  obtain ⟨entropy, rfl⟩ : ∃ entropy, rand = some entropy := by
    cases rand with
    | none => cases hcommit
    | some entropy => exact ⟨entropy, rfl⟩
  let p : Participant P :=
    ⟨publicKey, privateKey, commitment, secret, seed, entropy, hgenerate, hcommit⟩
  have hkey : cos.keys[i]? = some p.key := by
    rw [h.keys_generated hP hpairs, List.getElem?_map, hi, Option.map_some,
      show P.decode publicKey = some p.key from p.decode_publicKey hP, Option.getD_some]
  exact ⟨_, _, p.cosign_eq message (cos.aggregatePublicKey P) ⟨aggR, haggR⟩,
    Cosigners.verifyPart_honest hP message aggR hkey⟩

/-- The part of a cosigner that is disabled by the mask passes as well. -/
theorem verifyPart_of_cosign_disabled :
    ∃ (p : Participant cyclicPrimitives) (cos : Cosigners (ZMod (8 * l))) (part : SignaturePart)
      (used : Secret),
      newCosigners cyclicPrimitives (twoParticipants.map Participant.publicKey) (some [1]) =
        some cos ∧
      twoParticipants[0]? = some p ∧
      cosign cyclicPrimitives p.privateKey p.secret [104, 105]
        (cos.aggregatePublicKey cyclicPrimitives) (List.replicate 32 7) = .ok (part, used) ∧
      cos.verifyPart cyclicPrimitives [104, 105] (List.replicate 32 7) 0 p.commitment part =
        .ok true := by
  have hP := cyclicPrimitives_lawful
  have hpairs : ∀ pair ∈ twoParticipants.map (fun p => (p.publicKey, p.privateKey)),
      ∃ rand, generateKey cyclicPrimitives rand = some pair :=
    List.forall_mem_map.2 fun p _ => ⟨some p.keyEntropy, p.generated⟩
  obtain ⟨cos, hnew⟩ : ∃ cos, newCosigners cyclicPrimitives
      (twoParticipants.map Participant.publicKey) (some [1]) = some cos :=
    ⟨_, newCosigners_mask_eq (decodeAll_publicKeys hP twoParticipants) [1]⟩
  have hreachable : Reachable cyclicPrimitives
      ((twoParticipants.map fun p => (p.publicKey, p.privateKey)).map Prod.fst) cos := by
    rw [List.map_map]
    exact .new (some [1]) hnew
  have haggR : (List.replicate 32 7 : Bytes).length = 32 := List.length_replicate
  obtain ⟨part, used, hcosign, hverify⟩ := verifyPart_of_cosign hP hpairs hreachable (i := 0) rfl
    (Participant.committed _) [104, 105] haggR
  exact ⟨_, _, part, used, hnew, rfl, hcosign, hverify⟩

/-- Byte strings of 32 bytes are arrays. -/
private theorem exists_blocks {parts : List SignaturePart}
    (h : ∀ part ∈ parts, part.length = 32) :
    ∃ blocks : List (Block 32), parts = blocks.map List.Vector.toList := by
  have hcopy : ∀ part ∈ parts, ((Block.zero 32).copyFrom part).toList = part :=
    fun part hpart => Block.toList_copyFrom _ (h part hpart)
  refine ⟨parts.map (Block.zero 32).copyFrom, ?_⟩
  rw [List.map_map]
  exact ((List.map_congr_left hcopy).trans (List.map_id' parts)).symm

/-- When every part passes, the commits are determined by keys and parts. -/
theorem Cosigners.commits_eq_of_verifyPart {cos : Cosigners G} {message aggR : Bytes}
    {commits : List Commitment} {blocks : List (Block 32)}
    (hcommits : commits.length = cos.keys.length) (hblocks : blocks.length = cos.keys.length)
    (h : ∀ i < cos.keys.length, cos.verifyPart P message aggR i (commits.getD i [])
      ((blocks.map List.Vector.toList).getD i []) = .ok true) :
    commits = (cos.keys.zip blocks).map fun entry =>
      (P.toBytes (entry.2.toNat • P.base -
        (challenge P aggR (P.toBytes cos.aggr).toList message).toNat • entry.1)).toList := by
  apply List.ext_getElem
  · rw [hcommits, List.length_map, List.length_zip, hblocks, Nat.min_self]
  · intro i hi _
    have hkeys : i < cos.keys.length := hcommits ▸ hi
    have hblock : i < blocks.length := hblocks ▸ hkeys
    obtain ⟨key, hkey, hcommit⟩ := Cosigners.eq_of_verifyPart (h i hkeys)
    obtain ⟨_, rfl⟩ := List.getElem?_eq_some_iff.1 hkey
    simp only [List.getD_eq_getElem?_getD, List.getElem?_map, List.getElem?_eq_getElem hi,
      List.getElem?_eq_getElem hblock, Option.map_some, Option.getD_some] at hcommit
    rw [hcommit, List.getElem_map, List.getElem_zip]
    rfl

/-- The aggregate commit is then the point the summed response leaves. -/
theorem Cosigners.aggR_eq_of_verifyPart (hP : P.Lawful) (cos : Cosigners G)
    {message aggR : Bytes} {commits : List Commitment} {blocks : List (Block 32)}
    (hcommits : commits.length = cos.keys.length) (hblocks : blocks.length = cos.keys.length)
    (haggR : cos.aggregateCommit P commits = .ok (some aggR))
    (h : ∀ i < cos.keys.length, cos.verifyPart P message aggR i (commits.getD i [])
      ((blocks.map List.Vector.toList).getD i []) = .ok true) :
    aggR = (P.toBytes ((blocks.map Block.toNat).sum • P.base -
      (challenge P aggR (P.toBytes cos.aggr).toList message).toNat • cos.keys.sum)).toList := by
  have hresponses : (cos.keys.zip blocks).map (fun entry => entry.2.toNat) =
      blocks.map Block.toNat := by
    calc (cos.keys.zip blocks).map (fun entry => entry.2.toNat)
        = ((cos.keys.zip blocks).map Prod.snd).map Block.toNat := by
          rw [List.map_map]
          rfl
      _ = blocks.map Block.toNat := by rw [List.map_snd_zip hblocks.le]
  rw [cos.aggregateCommit_eq hcommits.ge, List.take_of_length_le hcommits.le,
    Cosigners.commits_eq_of_verifyPart hcommits hblocks h,
    P.decodeSum_map fun entry _ => hP.decode_toBytes _, Option.map_some, Except.ok.injEq,
    Option.some.injEq, sum_openings, hresponses, List.map_fst_zip hblocks.ge] at haggR
  exact haggR.symm

/-- **Part checks imply the whole.**  For whatever keys `NewCosigners` accepts,
commits and parts that pass `VerifyPart` one by one make a signature that
`Verify` accepts. -/
theorem verify_of_verifyPart (hP : P.Lawful) {publicKeys : List PublicKey} {cos : Cosigners G}
    (hnew : newCosigners P publicKeys none = some cos) (message : Bytes)
    {commits : List Commitment} (hcommits : commits.length = publicKeys.length)
    {parts : List SignaturePart} (hparts : parts.length = publicKeys.length)
    (hsize : ∀ part ∈ parts, part.length = 32) {aggR : Bytes}
    (haggR : cos.aggregateCommit P commits = .ok (some aggR))
    (hverify : ∀ i < publicKeys.length,
      cos.verifyPart P message aggR i (commits.getD i []) (parts.getD i []) = .ok true) :
    ∃ sig, cos.aggregateSignature aggR parts = .ok (some sig) ∧
      (cos.verify P message sig).2 = true := by
  obtain ⟨hofKeys, hlength⟩ := eq_ofKeys_of_newCosigners hnew
  obtain ⟨blocks, rfl⟩ := exists_blocks hsize
  rw [← hlength] at hcommits hparts hverify
  rw [List.length_map] at hparts
  have haggr : cos.aggr = cos.keys.sum := by rw [hofKeys]; rfl
  have hR := cos.aggR_eq_of_verifyPart hP hcommits hparts haggR hverify
  obtain ⟨R, rfl⟩ : ∃ R : Block 32, aggR = R.toList := ⟨_, hR⟩
  refine ⟨_, cos.aggregateSignature_eq R hparts.symm, ?_⟩
  have hcons : cos.Consistent := by
    rw [hofKeys]
    exact Cosigners.ofKeys_consistent _
  have hpolicy : cos.policy = some .full := by rw [hofKeys]; rfl
  generalize hn : (blocks.map Block.toNat).sum = n at hR
  rw [hcons.verify_iff hpolicy, referenceAccepts_compact (Or.inl rfl) message (by simp)]
  refine ⟨by simp, ?_, ?_⟩
  · have htop := top_bits_ofNat_mod_l n
    simpa [List.getD_eq_getElem?_getD, List.getElem?_append] using htop
  · have htake : (R.toList ++ (Block.ofNat 32 (n % l)).toList).take 32 = R.toList := by simp
    have hdrop : (R.toList ++ (Block.ofNat 32 (n % l)).toList).drop 32 =
        (Block.ofNat 32 (n % l)).toList := by simp
    rw [haggr] at hR
    unfold Opens
    rw [htake, hdrop, hP.leNat_ofNat_mod_nsmul_base]
    exact hR

/-- The parts of two honest participants pass one by one, so their signature is
accepted. -/
theorem verify_of_verifyPart_two :
    let cos := Cosigners.ofKeys (twoParticipants.map Participant.key)
    ∃ aggR parts sig,
      cos.aggregateCommit cyclicPrimitives (twoParticipants.map Participant.commitment) =
        .ok (some aggR) ∧
      cos.aggregateSignature aggR parts = .ok (some sig) ∧
      (cos.verify cyclicPrimitives [104, 105] sig).2 = true := by
  intro cos
  have hP := cyclicPrimitives_lawful
  have hnew := newCosigners_eq (decodeAll_publicKeys hP twoParticipants)
  have hcommit := cos.aggregateCommit_honest hP rfl
  generalize (cyclicPrimitives.toBytes
    (twoParticipants.map Participant.nonce).sum).toList = aggR at hcommit
  have hparts : ∀ i < (twoParticipants.map Participant.publicKey).length,
      cos.verifyPart cyclicPrimitives [104, 105] aggR i
      ((twoParticipants.map Participant.commitment).getD i [])
      ((twoParticipants.map fun p => (p.response (challenge cyclicPrimitives aggR
        (cyclicPrimitives.toBytes cos.aggr).toList [104, 105])).toList).getD i []) = .ok true := by
    intro i hi
    rw [List.length_map] at hi
    simp only [List.getD_eq_getElem?_getD, List.getElem?_map, List.getElem?_eq_getElem hi,
      Option.map_some, Option.getD_some]
    apply Cosigners.verifyPart_honest hP
    change (twoParticipants.map Participant.key)[i]? = _
    rw [List.getElem?_map, List.getElem?_eq_getElem hi, Option.map_some]
  obtain ⟨sig, hsig, hverify⟩ := verify_of_verifyPart hP hnew [104, 105] (by simp) (by simp)
    (by simp) hcommit hparts
  exact ⟨aggR, _, sig, hcommit, hsig, hverify⟩

end MeshCosi.Cosi
