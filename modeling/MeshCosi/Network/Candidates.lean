import MeshCosi.Network.Invariants

/-!
# Malformed candidates

`tryFinalize` uses the keys and commits of the candidates as they came from the
network.  A key that is not a point makes `NewCosigners` return nil, which
`tryFinalize` dereferences; a commit that is not a point makes `AggregateCommit`
return nil, which `tryFinalize` broadcasts.
-/

namespace MeshCosi.Network

open Foundation Ed25519 Cosi

variable {G : Type} [AddCommGroup G] {P : Primitives G}

/-- The key and the commit of a candidate encode points. -/
def CommitteeCandidateInfo.Decodes (P : Primitives G) (cci : CommitteeCandidateInfo) : Prop :=
  (P.decode cci.publicKey).isSome ∧ (P.decode cci.commit).isSome

/-- The finalization of a round completes and broadcasts the sums of its own keys
and of the commits of its own nodes. -/
def SoundFinalization (P : Primitives G) (m : MeshSrv G) (round : UInt64) : Prop :=
  ∃ post msg, m.tryFinalize P round = .ok (post, msg) ∧
    msg.nodeId = (m.candidates round).map (·.nodeId) ∧
    msg.aggregatedPubKey.length = 32 ∧
    (P.decodeSum msg.publicKeys).map (fun A => (P.toBytes A).toList) = some msg.aggregatedPubKey ∧
    msg.aggregatedCommit.length = 32 ∧
    (P.decodeSum ((m.candidates round).map (·.commit))).map (fun A => (P.toBytes A).toList) =
      some msg.aggregatedCommit

/-- Candidates that decode are finalized soundly. -/
theorem soundFinalization_of_decodes {m : MeshSrv G} (hwf : m.WellFormed) {round : UInt64}
    (hwaiting : m.candidates round ≠ [] ∨ round ∈ m.spawned)
    (h : ∀ cci ∈ m.candidates round, cci.Decodes P) : SoundFinalization P m round := by
  obtain ⟨processed, hprocessed⟩ := hwf.exists_processed hwaiting
  have hkeys : (P.decodeAll ((m.candidates round).map (·.publicKey))).isSome := by
    rw [P.decodeAll_isSome, List.forall_mem_map]
    exact fun cci hcci => (h cci hcci).1
  have hcommits : (P.decodeSum ((m.candidates round).map (·.commit))).isSome := by
    rw [P.decodeSum_isSome, List.forall_mem_map]
    exact fun cci hcci => (h cci hcci).2
  obtain ⟨keys, hkeys⟩ := Option.isSome_iff_exists.1 hkeys
  obtain ⟨sum, hcommits⟩ := Option.isSome_iff_exists.1 hcommits
  have hcos := newCosigners_eq hkeys
  obtain ⟨hub, hhub, -⟩ := hwf.hub.broadcast
    (MeshSrv.committee P round (m.candidates round) (Cosigners.ofKeys keys))
  refine ⟨_, _, MeshSrv.tryFinalize_eq_ok.2 ⟨processed, _, hub, hprocessed, hcos, rfl, hhub, rfl⟩,
    rfl, List.Vector.toList_length _, ?_, ?_, ?_⟩
  · simp [MeshSrv.committee, Primitives.decodeSum, hkeys, Cosigners.aggregatePublicKey,
      Cosigners.ofKeys]
  · simp [MeshSrv.committee, MeshSrv.encodedSum, hcommits]
  · simp [MeshSrv.committee, MeshSrv.encodedSum, hcommits]

/-- In every reachable state, the finalization of a round completes with the sums
of its own keys and commits if and only if every waiting key and commit decodes. -/
theorem sound_finalization_iff {history : History G} {m : MeshSrv G}
    (run : (server P).Run history m) (round : UInt64)
    (hwaiting : m.candidates round ≠ [] ∨ round ∈ m.spawned) :
    SoundFinalization P m round ↔ ∀ cci ∈ m.candidates round, cci.Decodes P := by
  refine ⟨?_, soundFinalization_of_decodes (server_run_wellFormed run) hwaiting⟩
  rintro ⟨post, msg, hresult, -, -, hkeys, -, hcommits⟩ cci hcci
  obtain ⟨processed, cos, hub, -, -, rfl, -, -⟩ := MeshSrv.tryFinalize_eq_ok.1 hresult
  obtain ⟨key, hkey, -⟩ := Option.map_eq_some_iff.1 hkeys
  obtain ⟨sum, hsum, -⟩ := Option.map_eq_some_iff.1 hcommits
  constructor
  · exact P.decodeSum_isSome.1 (Option.isSome_of_eq_some hkey) _ (List.mem_map_of_mem hcci)
  · exact P.decodeSum_isSome.1 (Option.isSome_of_eq_some hsum) _ (List.mem_map_of_mem hcci)

/-- One candidate with a well-formed key and commit. -/
private theorem wellFormed_candidate (hP : P.Lawful) :
    ∃ (history : History G) (m : MeshSrv G), (server P).Run history m ∧
      (∀ cci ∈ m.candidates 1, cci.Decodes P) ∧ m.candidates 1 ≠ [] := by
  have run := (Machine.Run.nil (M := server P)).next
    (.handler (.requestCommittee (baseCandidate P 1 "a"))) rfl
  refine ⟨_, _, run, ?_, List.cons_ne_nil _ _⟩
  intro cci hcci
  obtain rfl : cci = baseCandidate P 1 "a" := List.mem_singleton.1 hcci
  have hdecode := Option.isSome_of_eq_some (hP.decode_toBytes P.base)
  exact ⟨hdecode, hdecode⟩

theorem sound_finalization_one :
    ∃ (history : History (ZMod (8 * l))) (m : MeshSrv (ZMod (8 * l))),
      (server cyclicPrimitives).Run history m ∧ m.candidates 1 ≠ [] ∧
      (∀ cci ∈ m.candidates 1, cci.Decodes cyclicPrimitives) ∧
      SoundFinalization cyclicPrimitives m 1 := by
  obtain ⟨history, m, run, hdecodes, hne⟩ := wellFormed_candidate cyclicPrimitives_lawful
  exact ⟨history, m, run, hne, hdecodes, (sound_finalization_iff run 1 (.inl hne)).2 hdecodes⟩

/-- A candidate whose 32-byte key encodes no point crashes the server when its
round is finalized. -/
private theorem undecodable_candidate {key : Bytes} (hlength : key.length = 32)
    (hkey : P.decode key = none) :
    ∃ (history : History G) (m : MeshSrv G), (server P).Run history m ∧
      history.map Entry.event = [.handler (.requestCommittee ⟨1, "a", key, key⟩),
        .handler (.timerFires 0)] ∧
      (server P).step m (.finalize 1) = .error (.panic .nilDereference) := by
  have run := (Machine.Run.nil (M := server P)).next
    (.handler (.requestCommittee ⟨1, "a", key, key⟩)) rfl
  have run := run.next (.handler (.timerFires 0)) rfl
  refine ⟨_, _, run, rfl, ?_⟩
  change Except.map _ (Go.run (MeshSrv.tryFinalize P _ 1)) = _
  rw [MeshSrv.tryFinalize_eq rfl,
    MeshSrv.finishFinalize_of_nil (newCosigners_eq_none hlength hkey [])]
  rfl

/-- The 32 bytes encode no point, here as on the curve. -/
theorem malformed_candidate_crashes :
    ∃ (history : History (ZMod (8 * l))) (m : MeshSrv (ZMod (8 * l))),
      (server cyclicPrimitives).Run history m ∧
      history.map Entry.event =
        [.handler (.requestCommittee ⟨1, "a", List.replicate 32 253, List.replicate 32 253⟩),
          .handler (.timerFires 0)] ∧
      (server cyclicPrimitives).step m (.finalize 1) = .error (.panic .nilDereference) :=
  undecodable_candidate List.length_replicate
    (cyclicPrimitives_decode_eq_none (by decide +kernel))

end MeshCosi.Network
