import MeshCosi.Network.Handlers

/-!
# What holds in every state of the server

The invariants that need no condition on the run, and the steps by which the
runs of other modules are extended.
-/

namespace MeshCosi.Network

open Foundation Ed25519 Cosi

variable {G : Type}

/-- The invariant of the server. -/
structure MeshSrv.WellFormed (m : MeshSrv G) : Prop where
  hub : m.hub.WellFormed
  schedule : m.schedule.WellFormed
  /-- The stored cosigners have as many keys as the last committee had nodes. -/
  keys : ∀ cos, m.cosigners = some cos → cos.keys.length = m.nodeNumber
  /-- Between two steps no round is marked. -/
  unmarked : ∀ r, m.isProcessed r = false
  /-- Before the maps are made there is nothing to finalize. -/
  unmade : m.processed = none →
    (∀ r, m.committeeCandidates.lookup r = none) ∧ m.clock = [] ∧ m.spawned = []

namespace MeshSrv

theorem wellFormed_newMeshSrv : (newMeshSrv : MeshSrv G).WellFormed where
  hub := Hub.wellFormed_empty
  schedule k t h := by simp [schedule, newMeshSrv] at h
  keys cos h := by simp [newMeshSrv] at h
  unmarked r := by simp [isProcessed, newMeshSrv]
  unmade _ := by simp [newMeshSrv]

theorem isProcessed_finalized {m : MeshSrv G} {round : UInt64} {processed : GoMap UInt64 Bool}
    (hprocessed : m.processed = some processed) (hunmarked : ∀ r, m.isProcessed r = false)
    (cos : Cosigners G) (hub : Hub FinalizedCommittee) (r : UInt64) :
    ((m.started round processed).finalized round cos hub).isProcessed r = false := by
  have hr := hunmarked r
  simp only [isProcessed, hprocessed, Option.getD_some] at hr
  simp only [isProcessed, finalized, started, Option.map_some, Option.getD_some,
    GoMap.lookup_erase_eq, GoMap.lookup_insert_eq]
  split_ifs
  · rfl
  · exact hr

theorem WellFormed.handle {m post : MeshSrv G} (hwf : m.WellFormed) {event : HandlerEvent}
    {reply : Reply} (h : HandlerEffect m event post reply) : post.WellFormed := by
  cases h with
  | stream hevent hstep hprocessed =>
      refine ⟨hwf.hub.step hstep, hwf.schedule, hwf.keys, fun r => ?_, fun hnone => ?_⟩
      · rcases hprocessed with rfl | ⟨-, rfl⟩
        · exact hwf.unmarked r
        · simp [isProcessed]
      · rcases hprocessed with rfl | ⟨-, rfl⟩
        · exact hwf.unmade hnone
        · cases hnone
  | @accepted cci post hprocessed haccepts =>
      refine ⟨haccepts.hub ▸ hwf.hub, ?_, ?_, fun r => ?_, ?_⟩
      · rw [haccepts.schedule]
        split_ifs
        · exact (hwf.schedule.arm _).spawn _
        · exact hwf.schedule.arm _
      · intro cos hcos
        rw [haccepts.cosigners] at hcos
        cases hcos
      · have hr := hwf.unmarked r
        simpa only [isProcessed, haccepts.processed, Option.getD_some] using hr
      · intro hnone
        rw [haccepts.processed] at hnone
        cases hnone
  | refused hprocessed =>
      -- a mark never outlives the step that sets it
      rw [hwf.unmarked] at hprocessed
      cases hprocessed
  | committed hsent =>
      refine ⟨?_, hwf.schedule, hwf.keys, hwf.unmarked, hwf.unmade⟩
      rcases hsent with ⟨-, rfl⟩ | ⟨msg, -, hhub⟩
      · exact hwf.hub
      · exact hwf.hub.step (Hub.step_broadcast hhub)
  | fired hclock =>
      refine ⟨hwf.hub, hwf.schedule.fire hclock, hwf.keys, hwf.unmarked, fun hnone => ?_⟩
      rw [(hwf.unmade hnone).2.1] at hclock
      cases hclock

/-- Where something waits to be finalized, the maps have been made. -/
theorem WellFormed.exists_processed {m : MeshSrv G} (hwf : m.WellFormed) {round : UInt64}
    (hwaiting : m.candidates round ≠ [] ∨ round ∈ m.spawned) :
    ∃ processed, m.processed = some processed := by
  obtain hnone | hsome := Option.eq_none_or_eq_some m.processed
  · obtain ⟨hcandidates, -, hspawned⟩ := hwf.unmade hnone
    rcases hwaiting with hne | hmem
    · exact absurd (by rw [candidates, hcandidates, Option.getD_none]) hne
    · rw [hspawned] at hmem
      cases hmem
  · exact hsome

variable [AddCommGroup G] {P : Primitives G}

theorem WellFormed.step {m post : MeshSrv G} (hwf : m.WellFormed) {event : Event} {reply : Reply}
    (h : m.step P event = .ok (post, reply)) : post.WellFormed := by
  cases event with
  | handler event => exact hwf.handle (handle_effect h)
  | finalize round =>
      obtain ⟨-, processed, cos, hub, hprocessed, hcos, hhub, -, rfl⟩ := step_finalize.1 h
      refine ⟨?_, hwf.schedule.run round, ?_, ?_, ?_⟩
      · exact hwf.hub.step (Hub.step_broadcast hhub)
      · intro cos' hcos'
        obtain rfl : cos = cos' := Option.some.inj hcos'
        rw [(eq_ofKeys_of_newCosigners hcos).2, List.length_map]
        rfl
      · exact isProcessed_finalized (m := { m with spawned := m.spawned.erase round }) hprocessed
          hwf.unmarked cos hub
      · intro hnone
        cases hnone

end MeshSrv

variable [AddCommGroup G] {P : Primitives G}

/-- Every reachable state is well formed. -/
theorem server_run_wellFormed {history : History G} {m : MeshSrv G}
    (run : (server P).Run history m) : m.WellFormed :=
  run.state_invariant MeshSrv.wellFormed_newMeshSrv fun _ _ _ _ hwf hstep => hwf.step hstep

/-- Extends a run by a `tryFinalize` call whose keys decode. -/
theorem server_run_finalize {history : History G} {m : MeshSrv G} (run : (server P).Run history m)
    (round : UInt64) {processed : GoMap UInt64 Bool} {cos : Cosigners G}
    {hub : Hub FinalizedCommittee} (hmem : round ∈ m.spawned)
    (hprocessed : m.processed = some processed)
    (hcos : newCosigners P ((m.candidates round).map (·.publicKey)) none = some cos)
    (hhub : m.hub.broadcast (MeshSrv.committee P round (m.candidates round) cos) = .ok hub) :
    (server P).Run (history ++ [⟨m, .finalize round,
        ⟨none, some (MeshSrv.committee P round (m.candidates round) cos)⟩,
        MeshSrv.finalized
          (MeshSrv.started { m with spawned := m.spawned.erase round } round processed)
          round cos hub⟩])
      (MeshSrv.finalized
        (MeshSrv.started { m with spawned := m.spawned.erase round } round processed)
        round cos hub) :=
  run.snoc (MeshSrv.step_finalize.2
    ⟨hmem, processed, cos, hub, hprocessed, hcos, hhub, rfl, rfl⟩)

/-- What a completed `RequestAggregatedCommit` has done: it stored the commit, or
it aggregated as many commits as the last committee had nodes. -/
theorem MeshSrv.WellFormed.requestAggregatedCommit_cases {m post : MeshSrv G} (hwf : m.WellFormed)
    {cd : CommitData} {sent : Option FinalizedCommittee}
    (h : m.requestAggregatedCommit P cd = .ok (post, sent)) :
    (m.collected cd).length < m.nodeNumber ∧ post = m.stored cd ∧ sent = none ∨
    ∃ cos hub, m.nodeNumber ≤ (m.collected cd).length ∧ m.cosigners = some cos ∧
      cos.keys.length = m.nodeNumber ∧
      post = { m with hub := hub, commitData := m.commitData.erase cd.round } ∧
      sent = some (aggregation P m cd cos) := by
  by_cases hcount : (m.collected cd).length < m.nodeNumber
  · rw [requestAggregatedCommit_of_lt hcount, Except.ok.injEq, Prod.mk.injEq] at h
    exact .inl ⟨hcount, h.1.symm, h.2.symm⟩
  · have hcount := Nat.le_of_not_lt hcount
    obtain hcos | ⟨cos, hcos⟩ := Option.eq_none_or_eq_some m.cosigners
    · rw [requestAggregatedCommit_of_nil hcount hcos] at h
      cases h
    · have hkeys := hwf.keys cos hcos
      rw [requestAggregatedCommit_of_some hcount hcos (hkeys.trans_le hcount), map_eq_ok] at h
      obtain ⟨hub, -, h⟩ := h
      rw [Prod.mk.injEq] at h
      exact .inr ⟨cos, hub, hcount, hcos, hkeys, h.1.symm, h.2.symm⟩

/-- With a committee, a `RequestAggregatedCommit` that finds enough commits completes. -/
theorem MeshSrv.WellFormed.requestAggregatedCommit_completes {m : MeshSrv G} (hwf : m.WellFormed)
    {cd : CommitData} {cos : Cosigners G} (hcount : m.nodeNumber ≤ (m.collected cd).length)
    (hcos : m.cosigners = some cos) :
    ∃ hub, m.requestAggregatedCommit P cd =
      .ok ({ m with hub := hub, commitData := m.commitData.erase cd.round },
        some (aggregation P m cd cos)) := by
  obtain ⟨hub, hhub, -⟩ := hwf.hub.broadcast (aggregation P m cd cos)
  rw [requestAggregatedCommit_of_some hcount hcos ((hwf.keys cos hcos).trans_le hcount), hhub]
  exact ⟨hub, rfl⟩

/-- Extends a run by a commit request that its round still waits for others after. -/
theorem server_run_store {history : History G} {m : MeshSrv G} (run : (server P).Run history m)
    (cd : CommitData) (hcount : (m.collected cd).length < m.nodeNumber) :
    (server P).Run (history ++ [⟨m, .handler (.requestAggregatedCommit cd), ⟨some true, none⟩,
      m.stored cd⟩]) (m.stored cd) :=
  run.snoc (MeshSrv.step_requestAggregatedCommit.2
    ⟨none, MeshSrv.requestAggregatedCommit_of_lt hcount, rfl⟩)

/-- Extends a run by a commit request that completes its round. -/
theorem server_run_commit {history : History G} {m : MeshSrv G} (run : (server P).Run history m)
    (cd : CommitData) {cos : Cosigners G} (hcount : m.nodeNumber ≤ (m.collected cd).length)
    (hcos : m.cosigners = some cos) :
    ∃ hub, (server P).Run (history ++ [⟨m, .handler (.requestAggregatedCommit cd),
        ⟨some true, some (MeshSrv.aggregation P m cd cos)⟩,
        { m with hub := hub, commitData := m.commitData.erase cd.round }⟩])
      { m with hub := hub, commitData := m.commitData.erase cd.round } := by
  obtain ⟨hub, hcompletes⟩ :=
    (server_run_wellFormed run).requestAggregatedCommit_completes (P := P) hcount hcos
  exact ⟨hub, run.snoc (MeshSrv.step_requestAggregatedCommit.2 ⟨_, hcompletes, rfl⟩)⟩

/-- A candidate whose key and commit are the encoded base point. -/
def baseCandidate (P : Primitives G) (round : UInt64) (nodeId : String) : CommitteeCandidateInfo :=
  ⟨round, nodeId, (P.toBytes P.base).toList, (P.toBytes P.base).toList⟩

theorem newCosigners_baseCandidates (hP : P.Lawful) (round : UInt64) (nodeIds : List String) :
    newCosigners P ((nodeIds.map (baseCandidate P round)).map (·.publicKey)) none =
      some (Cosigners.ofKeys (nodeIds.map fun _ => P.base)) := by
  rw [List.map_map]
  exact newCosigners_eq (P.decodeAll_map fun _ _ => hP.decode_toBytes P.base)

end MeshCosi.Network
