import MeshCosi.Cosi.Reachable
import MeshCosi.Network.Rounds

/-!
# Collecting commits

`RequestAggregatedCommit` counts the commits of its round against the global
`nodeNumber` and sums them with the stored cosigners.  Both belong to whichever
round was finalized last, and every candidate request, of any round, forgets the
cosigners.  Three questions follow from this.

* Are there cosigners at all?  Exactly while no candidate request has come since the
  last finalization: `committeeSelected` is a function of the history, and the
  cosigners follow it (`isSome_cosigners`).  Without them a commit that completes its
  round crashes the server.
* Are there enough commits for the keys?  Yes: `nodeNumber` and the key list are
  written by the same call, and what is left of the cosigners in between is all or
  nothing.
* Is it the round's own committee that the commits are counted against?  Only under
  `OwnCommittee`.  Then `Collecting` is an invariant: the commits that are stored are
  fewer than the committee has nodes.  A commit that completes the round therefore
  finds exactly as many as the committee has nodes.

| event            | stored commits of the round   | `nodeNumber`          |
|------------------|-------------------------------|-----------------------|
| finalize it      | unchanged                     | its candidates        |
| finalize another | unchanged                     | not its own any more  |
| commit, too few  | one more, still too few       | unchanged             |
| commit, enough   | none                          | unchanged             |
| others           | unchanged                     | unchanged             |
-/

namespace MeshCosi.Network

open Foundation Ed25519 Cosi

variable {G : Type}

/-! ## A committee to aggregate for -/

/-- A committee was finalized, and no candidate request has come since. -/
def committeeSelected (history : History G) : Bool :=
  history.foldl (fun selected entry =>
    match entry.event with
    | .finalize _ => true
    | .handler (.requestCommittee _) => false
    | .handler _ => selected) false

variable [AddCommGroup G] {P : Primitives G}

/-- The cosigners are there exactly while a committee is selected. -/
theorem isSome_cosigners {history : History G} {m : MeshSrv G} (run : (server P).Run history m) :
    m.cosigners.isSome = committeeSelected history := by
  induction run with
  | nil => rfl
  | @snoc history pre post event reply run hstep ih =>
      rw [committeeSelected, List.foldl_append, List.foldl_cons, List.foldl_nil,
        ← committeeSelected]
      cases event with
      | finalize round =>
          obtain ⟨-, processed, cos, hub, -, -, -, -, rfl⟩ := MeshSrv.step_finalize.1 hstep
          rfl
      | handler event =>
          have heffect : HandlerEffect pre event post reply := MeshSrv.handle_effect (P := P) hstep
          cases heffect with
          | stream hevent _ _ => cases event <;> first | exact ih | cases hevent
          | accepted _ haccepts => rw [haccepts.cosigners]; rfl
          | refused _ => rfl
          | committed _ => exact ih
          | fired _ => exact ih

/-- A commit request that finds enough commits has a committee, and completes, if
and only if no candidate request has come since the last finalization. -/
theorem aggregation_has_committee_iff {history : History G} {m : MeshSrv G}
    (run : (server P).Run history m) (cd : CommitData)
    (hcount : m.nodeNumber ≤ (m.collected cd).length) :
    (m.cosigners ≠ none ∧ ∃ post reply,
      (server P).step m (.handler (.requestAggregatedCommit cd)) = .ok (post, reply)) ↔
    committeeSelected history = true := by
  rw [← isSome_cosigners run, Option.isSome_iff_ne_none]
  refine ⟨And.left, fun hsome => ⟨hsome, ?_⟩⟩
  obtain ⟨cos, hcos⟩ := Option.ne_none_iff_exists'.1 hsome
  obtain ⟨hub, hcompletes⟩ :=
    (server_run_wellFormed run).requestAggregatedCommit_completes (P := P) hcount hcos
  exact ⟨_, _, map_eq_ok.2 ⟨_, Go.run_eq_ok.2 hcompletes, rfl⟩⟩

/-- A round of one node that has been finalized. -/
private theorem finalized_round (hP : P.Lawful) :
    ∃ (history : History G) (m : MeshSrv G), (server P).Run history m ∧
      committeeSelected history = true ∧ m.nodeNumber = 1 := by
  obtain ⟨history, m, hround⟩ := server_run_round hP .nil (by decide)
    (MeshSrv.fresh_newMeshSrv 1) ["a"] (by simp) (by decide)
  refine ⟨history, m, hround.run, ?_, hround.nodeNumber⟩
  have hsome := isSome_cosigners hround.run
  rw [hround.cosigners] at hsome
  exact hsome.symm

/-- The commit of the finalized round is the encoded base point. -/
theorem aggregation_has_committee_one :
    ∃ (history : History (ZMod (8 * l))) (m : MeshSrv (ZMod (8 * l))) (cd : CommitData),
      (server cyclicPrimitives).Run history m ∧ committeeSelected history = true ∧
      cyclicPrimitives.decode cd.commit = some cyclicPrimitives.base ∧
      m.nodeNumber ≤ (m.collected cd).length ∧ m.cosigners ≠ none ∧
      ∃ post reply, (server cyclicPrimitives).step m
        (.handler (.requestAggregatedCommit cd)) = .ok (post, reply) := by
  obtain ⟨history, m, run, hselected, hone⟩ := finalized_round cyclicPrimitives_lawful
  have hcount (cd : CommitData) : m.nodeNumber ≤ (m.collected cd).length := by
    rw [hone, m.length_collected]
    omega
  exact ⟨history, m, ⟨1, (cyclicPrimitives.toBytes cyclicPrimitives.base).toList⟩, run, hselected,
    cyclicPrimitives_lawful.decode_toBytes _, hcount _,
    (aggregation_has_committee_iff run _ (hcount _)).2 hselected⟩

/-- A candidate of the next round arrives before the commit of the finalized one. -/
private theorem forgotten_committee (hP : P.Lawful) :
    ∃ (history : History G) (m : MeshSrv G), (server P).Run history m ∧
      history.map Entry.event =
        [.handler (.requestCommittee (baseCandidate P 1 "a")), .handler (.timerFires 0),
          .finalize 1, .handler (.requestCommittee (baseCandidate P 2 "a"))] ∧
      m.nodeNumber ≤ (m.collected ⟨1, (P.toBytes P.base).toList⟩).length ∧ m.cosigners = none := by
  obtain ⟨history, m, hround⟩ := server_run_round hP .nil (by decide)
    (MeshSrv.fresh_newMeshSrv 1) ["a"] (by simp) (by decide)
  obtain ⟨post, haccepts, run⟩ := server_run_ask hround.run 2 "a"
  refine ⟨_, post, run, ?_, ?_, haccepts.cosigners⟩
  · rw [List.nil_append, List.map_append, hround.events]
    rfl
  · rw [haccepts.nodeNumber, hround.nodeNumber, post.length_collected]
    exact Nat.le_add_left 1 _

/-- The commit of the finalized round then crashes the server. -/
theorem aggregation_without_committee :
    ∃ (history : History (ZMod (8 * l))) (m : MeshSrv (ZMod (8 * l))) (cd : CommitData),
      (server cyclicPrimitives).Run history m ∧
      history.map Entry.event =
        [.handler (.requestCommittee (baseCandidate cyclicPrimitives 1 "a")),
          .handler (.timerFires 0), .finalize 1,
          .handler (.requestCommittee (baseCandidate cyclicPrimitives 2 "a"))] ∧
      m.nodeNumber ≤ (m.collected cd).length ∧ m.cosigners = none ∧
      (server cyclicPrimitives).step m (.handler (.requestAggregatedCommit cd)) =
        .error (.panic .nilDereference) := by
  obtain ⟨history, m, run, hevents, hcount, hnil⟩ := forgotten_committee cyclicPrimitives_lawful
  refine ⟨history, m, _, run, hevents, hcount, hnil, ?_⟩
  change Except.map _ (Go.run (m.requestAggregatedCommit cyclicPrimitives _)) = _
  rw [MeshSrv.requestAggregatedCommit_of_nil hcount hnil]
  rfl

/-! ## The committee and the expected number of commits -/

/-- The stored cosigners are as `NewCosigners` built them: nothing in the server
changes their mask. -/
theorem cosigners_eq_ofKeys {history : History G} {m : MeshSrv G}
    (run : (server P).Run history m) :
    ∀ cos, m.cosigners = some cos → cos = Cosigners.ofKeys cos.keys := by
  apply run.state_invariant (I := fun m => ∀ cos, m.cosigners = some cos →
    cos = Cosigners.ofKeys cos.keys)
  · intro cos hcos
    cases hcos
  · intro pre event post reply ih hstep
    cases event with
    | finalize round =>
        obtain ⟨-, processed, cos, hub, -, hnew, -, -, rfl⟩ := MeshSrv.step_finalize.1 hstep
        intro cos' hcos
        obtain rfl : cos = cos' := Option.some.inj hcos
        exact (eq_ofKeys_of_newCosigners hnew).1
    | handler event =>
        have heffect : HandlerEffect pre event post reply := MeshSrv.handle_effect (P := P) hstep
        cases heffect with
        | stream _ _ _ => exact ih
        | accepted _ haccepts =>
            intro cos hcos
            rw [haccepts.cosigners] at hcos
            cases hcos
        | refused _ =>
            intro cos hcos
            cases hcos
        | committed _ => exact ih
        | fired _ => exact ih

/-- **Key list and expected commit count agree.**  Cosigners that are there have
as many keys as `nodeNumber` says, all of them enabled, so a commit request that
aggregates has a commit for every key and completes. -/
theorem cosigners_match_nodeNumber {history : History G} {m : MeshSrv G}
    (run : (server P).Run history m) {cos : Cosigners G} (hcos : m.cosigners = some cos) :
    m.nodeNumber = cos.keys.length ∧
      (∀ i < cos.keys.length, cos.maskBit i = .ok enabled) ∧
      ∀ cd, m.nodeNumber ≤ (m.collected cd).length →
        (∃ aggCommit, cos.aggregateCommit P ((m.collected cd).map (·.commit)) = .ok aggCommit) ∧
        ∃ post reply,
          (server P).step m (.handler (.requestAggregatedCommit cd)) = .ok (post, reply) := by
  have hwf := server_run_wellFormed run
  have hkeys := hwf.keys cos hcos
  have hofKeys := cosigners_eq_ofKeys run cos hcos
  refine ⟨hkeys.symm, ?_, ?_⟩
  · intro i hi
    rw [hofKeys] at hi ⊢
    rw [(Cosigners.ofKeys_consistent _).maskBit_eq hi]
    exact congrArg Except.ok (isSet_replicate_zero _ i)
  · intro cd hcount
    have hlength : cos.keys.length ≤ ((m.collected cd).map (·.commit)).length := by
      rw [List.length_map, hkeys]
      exact hcount
    obtain ⟨hub, hcompletes⟩ := hwf.requestAggregatedCommit_completes (P := P) hcount hcos
    exact ⟨⟨_, cos.aggregateCommit_eq hlength⟩, _, _,
      map_eq_ok.2 ⟨_, Go.run_eq_ok.2 hcompletes, rfl⟩⟩

theorem cosigners_match_nodeNumber_one :
    ∃ (history : History (ZMod (8 * l))) (m : MeshSrv (ZMod (8 * l)))
      (cos : Cosigners (ZMod (8 * l))),
      (server cyclicPrimitives).Run history m ∧ m.cosigners = some cos ∧
      cos.keys.length = 1 ∧ cos.maskBit 0 = .ok enabled := by
  obtain ⟨history, m, run, hselected, hone⟩ := finalized_round cyclicPrimitives_lawful
  rw [← isSome_cosigners run, Option.isSome_iff_exists] at hselected
  obtain ⟨cos, hcos⟩ := hselected
  obtain ⟨hcount, henabled, -⟩ := cosigners_match_nodeNumber run hcos
  rw [hone] at hcount
  exact ⟨history, m, cos, run, hcos, hcount.symm, henabled 0 (by omega)⟩

/-! ## The commits of a round and its committee -/

/-- The round that was finalized last. -/
def lastFinalized (history : History G) : Option UInt64 :=
  history.foldl (fun last entry =>
    match entry.event with
    | .finalize round => some round
    | .handler _ => last) none

/-- The committee that was last broadcast for a round. -/
def lastCommittee (r : UInt64) (history : History G) : Option FinalizedCommittee :=
  (committees r history).getLast?

/-- Enough commits of the round are found only while the round is the one that was
finalized last, and they all decode.  The round is finalized with fewer commits
stored than it has candidates. -/
def OwnCommittee (P : Primitives G) (r : UInt64) (past : History G) (m : MeshSrv G)
    (event : Event) : Prop :=
  (∀ cd, event = .handler (.requestAggregatedCommit cd) → cd.round = r →
    m.nodeNumber ≤ (m.collected cd).length →
      lastFinalized past = some r ∧
      ∀ commit ∈ m.collected cd, (P.decode commit.commit).isSome) ∧
  (event = .finalize r → (m.commits r).length < (m.candidates r).length)

/-- While the round is the one that was finalized last, `nodeNumber` is the size of
its committee and fewer commits are stored. -/
def Collecting (r : UInt64) (history : History G) (m : MeshSrv G) : Prop :=
  lastFinalized history = some r →
    (m.commits r).length < m.nodeNumber ∧
    ∃ committee, lastCommittee r history = some committee ∧
      m.nodeNumber = committee.nodeId.length

omit [AddCommGroup G] in
theorem lastFinalized_handler (history : History G) (pre post : MeshSrv G) (event : HandlerEvent)
    (reply : Reply) :
    lastFinalized (history ++ [⟨pre, .handler event, reply, post⟩]) = lastFinalized history := by
  simp [lastFinalized]

/-- Storing or aggregating a commit leaves fewer commits of a round than `nodeNumber`. -/
theorem collecting_commit {r : UInt64} {pre post : MeshSrv G} {cd : CommitData}
    {sent : Option FinalizedCommittee} (hwf : pre.WellFormed)
    (hlt : (pre.commits r).length < pre.nodeNumber)
    (h : pre.requestAggregatedCommit P cd = .ok (post, sent)) :
    (post.commits r).length < post.nodeNumber ∧ post.nodeNumber = pre.nodeNumber := by
  rcases hwf.requestAggregatedCommit_cases h with ⟨hcount, rfl, -⟩ | ⟨cos, hub, -, -, -, rfl, -⟩
  · refine ⟨?_, rfl⟩
    by_cases heq : r = cd.round
    · rw [heq, MeshSrv.commits_stored]
      exact hcount
    · simpa [MeshSrv.commits, MeshSrv.stored, GoMap.lookup_insert_eq, heq] using hlt
  · refine ⟨?_, rfl⟩
    by_cases heq : r = cd.round
    · simp only [MeshSrv.commits, heq, GoMap.lookup_erase_eq, if_true, Option.getD_none,
        List.length_nil]
      omega
    · simpa [MeshSrv.commits, GoMap.lookup_erase_eq, heq] using hlt

theorem collecting_step {r : UInt64} {history : History G} {pre post : MeshSrv G} {event : Event}
    {reply : Reply} (hwf : pre.WellFormed) (hcollecting : Collecting r history pre)
    (hown : OwnCommittee P r history pre event) (h : pre.step P event = .ok (post, reply)) :
    Collecting r (history ++ [⟨pre, event, reply, post⟩]) post := by
  intro hlast
  cases event with
  | finalize round =>
      obtain rfl : round = r := by simpa [lastFinalized] using hlast
      obtain ⟨-, processed, cos, hub, -, -, -, rfl, rfl⟩ := MeshSrv.step_finalize.1 h
      refine ⟨hown.2 rfl, MeshSrv.committee P round (pre.candidates round) cos, ?_, ?_⟩
      · simp [lastCommittee, committees]
      · exact (List.length_map _).symm
  | handler event =>
      rw [lastFinalized_handler] at hlast
      have hne : Event.handler event ≠ .finalize r := by simp
      rw [lastCommittee, committees_of_ne hne, ← lastCommittee]
      obtain ⟨hlt, committee, hcommittee, hsize⟩ := hcollecting hlast
      have heffect : HandlerEffect pre event post reply := MeshSrv.handle_effect h
      cases heffect with
      | stream _ _ _ => exact ⟨hlt, committee, hcommittee, hsize⟩
      | accepted _ haccepts =>
          refine ⟨?_, committee, hcommittee, by rw [haccepts.nodeNumber, hsize]⟩
          rw [MeshSrv.commits, haccepts.commitData, haccepts.nodeNumber]
          exact hlt
      | refused _ => exact ⟨hlt, committee, hcommittee, hsize⟩
      | committed _ =>
          obtain ⟨sent, hresult, -⟩ := MeshSrv.step_requestAggregatedCommit.1 h
          obtain ⟨hlt', hnumber⟩ := collecting_commit hwf hlt hresult
          exact ⟨hlt', committee, hcommittee, hnumber.trans hsize⟩
      | fired _ => exact ⟨hlt, committee, hcommittee, hsize⟩

/-- Commits that all decode have a sum, and `encodedSum` is its encoding. -/
theorem encodedSum_of_decode {commits : List Bytes}
    (h : ∀ commit ∈ commits, (P.decode commit).isSome) :
    ∃ sum, P.decodeSum commits = some sum ∧
      MeshSrv.encodedSum P commits = (P.toBytes sum).toList := by
  obtain ⟨sum, hsum⟩ := Option.isSome_iff_exists.1 (P.decodeSum_isSome.2 h)
  refine ⟨sum, hsum, ?_⟩
  rw [MeshSrv.encodedSum, hsum]
  rfl

/-- In a run that aggregates commits of a round only while the round is the one
that was finalized last, and only commits that decode, an aggregation of the round
broadcasts the sum of as many commits as the committee last broadcast for the round
has nodes, and removes these commits. -/
theorem commits_match_committee {history : History G} {m : MeshSrv G}
    (run : (server P).Run history m) (r : UInt64)
    (along : Machine.Along (OwnCommittee P r) history) :
    ∀ past entry future cd msg, history = past ++ entry :: future →
      entry.event = .handler (.requestAggregatedCommit cd) → cd.round = r →
      entry.reply.sent = some msg →
      ∃ committee sum, lastCommittee r past = some committee ∧
        (entry.pre.collected cd).length = committee.nodeId.length ∧
        P.decodeSum ((entry.pre.collected cd).map CommitData.commit) = some sum ∧
        msg.aggregatedCommit = (P.toBytes sum).toList ∧
        entry.post.commitData.lookup r = none := by
  rintro past ⟨pre, event, reply, post⟩ future cd msg rfl rfl rfl hsent
  obtain ⟨hpast, hstep⟩ := run.split
  obtain ⟨sent, hresult, rfl⟩ := MeshSrv.step_requestAggregatedCommit.1 hstep
  dsimp only at hpast hresult hsent ⊢
  have hwf := server_run_wellFormed hpast
  have hcollecting : Collecting cd.round past pre := by
    refine hpast.invariant along.of_append (fun h => by cases h) ?_
    intro history pre event post reply hrun hcollecting hown hstep
    exact collecting_step (server_run_wellFormed hrun) hcollecting hown hstep
  rcases hwf.requestAggregatedCommit_cases hresult with ⟨-, -, rfl⟩ |
    ⟨cos, hub, hcount, hcos, -, rfl, rfl⟩
  · cases hsent
  · obtain ⟨hlast, hdecode⟩ := (along past _ future rfl).1 cd rfl rfl hcount
    obtain ⟨hlt, committee, hcommittee, hsize⟩ := hcollecting hlast
    have hlength := pre.length_collected cd
    -- one commit less was not enough, so they are exactly as many as the committee has nodes
    have hexact : (pre.collected cd).length = pre.nodeNumber := by omega
    obtain ⟨sum, hsum, hencoded⟩ := encodedSum_of_decode (P := P)
      (List.forall_mem_map.2 hdecode)
    refine ⟨committee, sum, hcommittee, hexact.trans hsize, hsum, ?_, ?_⟩
    · obtain rfl := Option.some.inj hsent
      rw [MeshSrv.aggregation_eq (hexact.trans (hwf.keys cos hcos).symm)]
      exact hencoded
    · rw [GoMap.lookup_erase_eq, if_pos rfl]

section Witness

variable {round r : UInt64} {start steps : History G} {first post : MeshSrv G}
  {nodeIds : List String}

/-- Steps of a round that begins with fewer commits stored than nodes ask. -/
theorem RoundStep.ownCommittee {past : History G} {m : MeshSrv G} {event : Event}
    (h : RoundStep P round start first nodeIds past m event)
    (hfew : round = r → (first.commits r).length < nodeIds.length) :
    OwnCommittee P r past m event := by
  cases h with
  | asks _ _ _ _ => exact ⟨fun cd h => (by cases h), fun h => (by cases h)⟩
  | fires timer => exact ⟨fun cd h => (by cases h), fun h => (by cases h)⟩
  | finalizes hcandidates hcommits =>
      refine ⟨fun cd h => (by cases h), fun h => ?_⟩
      obtain rfl : round = r := by cases h; rfl
      rw [hcandidates, List.length_map, MeshSrv.commits, hcommits]
      exact hfew rfl

/-- After a round it is the one that was finalized last. -/
theorem RoundRun.lastFinalized_eq (h : RoundRun P round start first nodeIds steps post) :
    lastFinalized (start ++ steps) = some round := by
  obtain ⟨asked, last, rfl, -, hlast⟩ := List.map_eq_append_iff.1 h.events
  obtain ⟨fired, rest, rfl, -, hrest⟩ := List.map_eq_cons_iff.1 hlast
  obtain ⟨final, rfl, hfinal⟩ := List.map_eq_singleton_iff.1 hrest
  simp [lastFinalized, hfinal]

/-- A round broadcasts its committee and no other's. -/
theorem RoundRun.lastCommittee_eq (h : RoundRun P round start first nodeIds steps post) :
    (∃ committee, lastCommittee round (start ++ steps) = some committee ∧
      committee.nodeId = nodeIds) ∧
    ∀ r, r ≠ round → lastCommittee r (start ++ steps) = lastCommittee r start := by
  refine ⟨?_, fun r hne => ?_⟩
  · obtain ⟨committee, hcommittees, hnodes⟩ := h.selects
    refine ⟨committee, ?_, hnodes⟩
    rw [lastCommittee, committees_append, hcommittees, List.getLast?_concat]
  · have hnone : committees r steps = [] := by
      refine committees_eq_nil ?_
      rw [h.events]
      simp [requestOf, hne]
    rw [lastCommittee, committees_append, hnone, List.append_nil, ← lastCommittee]

/-- A commit that its round still waits for others after, or of another round. -/
theorem ownCommittee_of_commit {past : History G} {m : MeshSrv G} {cd : CommitData}
    (h : cd.round = r → (m.collected cd).length < m.nodeNumber) :
    OwnCommittee P r past m (.handler (.requestAggregatedCommit cd)) := by
  refine ⟨?_, fun h => (by cases h)⟩
  rintro _ ⟨⟩ hround hcount
  exact absurd hcount (Nat.not_le.2 (h hround))

end Witness

/-- A round of one node with its commit, then a round of two nodes with theirs. -/
private theorem committed_rounds (hP : P.Lawful) :
    ∃ (past : History G) (m : MeshSrv G) (cd : CommitData) (msg : FinalizedCommittee)
      (post : MeshSrv G), cd.round = 1 ∧
      (server P).Run (past ++ [⟨m, .handler (.requestAggregatedCommit cd), ⟨some true, some msg⟩,
        post⟩]) post ∧
      Machine.Along (OwnCommittee P 1) (past ++ [⟨m, .handler (.requestAggregatedCommit cd),
        ⟨some true, some msg⟩, post⟩]) ∧
      lastCommittee 2 past ≠ none ∧
      ∃ committee, lastCommittee 1 past = some committee ∧ committee.nodeId = ["a", "b"] := by
  have hnew (r : UInt64) := MeshSrv.fresh_newMeshSrv (G := G) r
  -- round 2 and its commit
  obtain ⟨steps, m, hround⟩ :=
    server_run_round hP .nil (by decide) (hnew 2) ["c"] (by simp) (by decide)
  obtain ⟨hub, run⟩ := server_run_commit hround.run ⟨2, (P.toBytes P.base).toList⟩
    (by rw [hround.nodeNumber, m.length_collected]; exact Nat.le_add_left 1 _) hround.cosigners
  have hfresh := hround.fresh 1 (hnew 1)
  have hnone : ((m.commitData.erase 2).lookup 1).getD [] = [] := by
    rw [hround.commitData]
    rfl
  -- round 1 and its two commits
  obtain ⟨steps', m', hround'⟩ := server_run_round hP run (by decide)
    ⟨hfresh.candidates, hfresh.timer, hfresh.spawned⟩ ["a", "b"] (by simp) (by decide)
  have hcommits : m'.commits 1 = [] := by
    rw [MeshSrv.commits, hround'.commitData]
    exact hnone
  have hfew : (m'.collected ⟨1, (P.toBytes P.base).toList⟩).length < m'.nodeNumber := by
    rw [hround'.nodeNumber, m'.length_collected, hcommits]
    decide
  have hcollected : (m'.stored ⟨1, (P.toBytes P.base).toList⟩).collected
      ⟨1, (P.toBytes (2 • P.base)).toList⟩ =
        [⟨1, (P.toBytes P.base).toList⟩, ⟨1, (P.toBytes (2 • P.base)).toList⟩] := by
    rw [MeshSrv.collected, MeshSrv.commits_stored m' ⟨1, _⟩, MeshSrv.collected, hcommits]
    rfl
  obtain ⟨hub', run'⟩ := server_run_commit
    (server_run_store hround'.run ⟨1, (P.toBytes P.base).toList⟩ hfew)
    ⟨1, (P.toBytes (2 • P.base)).toList⟩
    (by rw [hcollected]; exact hround'.nodeNumber.le) hround'.cosigners
  refine ⟨_, _, _, _, _, rfl, run', ?_, ?_, ?_⟩
  · refine Machine.along_snoc.2 ⟨Machine.along_snoc.2 ⟨hround'.along _ (Machine.along_snoc.2
      ⟨hround.along _ Machine.along_nil ?_, ?_⟩) ?_, ?_⟩, ?_⟩
    · exact fun _ _ _ h => h.ownCommittee fun h => absurd h (by decide)
    · exact ownCommittee_of_commit fun h => absurd (show (2 : UInt64) = 1 from h) (by decide)
    · refine fun _ _ _ h => h.ownCommittee fun _ => ?_
      rw [MeshSrv.commits, hnone]
      decide
    · exact ownCommittee_of_commit fun _ => hfew
    · refine ⟨?_, fun h => (by cases h)⟩
      rintro _ ⟨⟩ - -
      refine ⟨(lastFinalized_handler ..).trans hround'.lastFinalized_eq, ?_⟩
      rw [hcollected]
      simp [hP.decode_toBytes]
  · rw [lastCommittee, committees_of_ne (by simp), ← lastCommittee,
      hround'.lastCommittee_eq.2 2 (by decide), lastCommittee, committees_of_ne (by simp),
      ← lastCommittee]
    obtain ⟨committee, hcommittee, -⟩ := hround.lastCommittee_eq.1
    rw [hcommittee]
    exact Option.some_ne_none _
  · rw [lastCommittee, committees_of_ne (by simp), ← lastCommittee]
    exact hround'.lastCommittee_eq.1

/-- Two rounds: the second aggregation is that of a committee of two nodes. -/
theorem commits_match_committee_two :
    ∃ (history past : History (ZMod (8 * l))) (m : MeshSrv (ZMod (8 * l)))
      (entry : Entry (MeshSrv (ZMod (8 * l))) Event Reply) (cd : CommitData)
      (committee msg : FinalizedCommittee) (sum : ZMod (8 * l)),
      (server cyclicPrimitives).Run history m ∧
      Machine.Along (OwnCommittee cyclicPrimitives 1) history ∧ history = past ++ [entry] ∧
      entry.event = .handler (.requestAggregatedCommit cd) ∧ cd.round = 1 ∧
      entry.reply.sent = some msg ∧ lastCommittee 2 past ≠ none ∧
      lastCommittee 1 past = some committee ∧ committee.nodeId = ["a", "b"] ∧
      (entry.pre.collected cd).length = 2 ∧
      cyclicPrimitives.decodeSum ((entry.pre.collected cd).map CommitData.commit) = some sum ∧
      msg.aggregatedCommit = (cyclicPrimitives.toBytes sum).toList ∧
      entry.post.commitData.lookup 1 = none := by
  obtain ⟨past, m, cd, msg, post, hround, run, along, hother, committee, hcommittee, hnodes⟩ :=
    committed_rounds cyclicPrimitives_lawful
  obtain ⟨committee', sum, hcommittee', hlength, hsum, haggregated, hremoved⟩ :=
    commits_match_committee run 1 along past _ [] cd msg rfl rfl hround rfl
  obtain rfl : committee = committee' := Option.some.inj (hcommittee.symm.trans hcommittee')
  rw [hnodes] at hlength
  exact ⟨_, past, post, _, cd, committee, msg, sum, run, along, rfl, rfl, hround, rfl, hother,
    hcommittee, hnodes, hlength, hsum, haggregated, hremoved⟩

/-- The commits of a round of two nodes are counted against a round of one node
that was finalized after it. -/
private theorem overtaken_round (hP : P.Lawful) :
    ∃ (history : History G) (m post : MeshSrv G) (cd : CommitData)
      (committee msg : FinalizedCommittee), (server P).Run history m ∧
      history.map Entry.event =
        [.handler (.requestCommittee (baseCandidate P 1 "a")),
          .handler (.requestCommittee (baseCandidate P 1 "b")), .handler (.timerFires 0),
          .finalize 1, .handler (.requestCommittee (baseCandidate P 2 "c")),
          .handler (.timerFires 1), .finalize 2] ∧
      cd.round = 1 ∧ lastCommittee 1 history = some committee ∧ committee.nodeId = ["a", "b"] ∧
      (server P).step m (.handler (.requestAggregatedCommit cd)) =
        .ok (post, ⟨some true, some msg⟩) ∧
      (m.collected cd).length = 1 ∧ post.commitData.lookup 1 = none := by
  have hnew (r : UInt64) := MeshSrv.fresh_newMeshSrv (G := G) r
  obtain ⟨steps, m, hround⟩ :=
    server_run_round hP .nil (by decide) (hnew 1) ["a", "b"] (by simp) (by decide)
  obtain ⟨steps', m', hround'⟩ := server_run_round hP hround.run (by decide)
    (hround.fresh 2 (hnew 2)) ["c"] (by simp) (by decide)
  obtain ⟨committee, hcommittee, hnodes⟩ := hround.lastCommittee_eq.1
  have hone : (m'.collected ⟨1, (P.toBytes P.base).toList⟩).length = 1 := by
    rw [m'.length_collected, MeshSrv.commits, hround'.commitData, hround.commitData]
    rfl
  obtain ⟨hub, run⟩ := server_run_commit hround'.run ⟨1, (P.toBytes P.base).toList⟩
    (by rw [hround'.nodeNumber, hone]; rfl) hround'.cosigners
  refine ⟨_, m', _, _, committee, _, hround'.run, ?_, rfl, ?_, hnodes, run.split.2, hone, ?_⟩
  · have hevents := hround'.events
    rw [hround.clock] at hevents
    rw [List.nil_append, List.map_append, hround.events, hevents]
    rfl
  · rw [hround'.lastCommittee_eq.2 1 (by decide), hcommittee]
  · exact (GoMap.lookup_erase_eq ..).trans (if_pos rfl)

theorem commits_aggregated_early :
    ∃ (history : History (ZMod (8 * l))) (m post : MeshSrv (ZMod (8 * l))) (cd : CommitData)
      (committee msg : FinalizedCommittee), (server cyclicPrimitives).Run history m ∧
      history.map Entry.event =
        [.handler (.requestCommittee (baseCandidate cyclicPrimitives 1 "a")),
          .handler (.requestCommittee (baseCandidate cyclicPrimitives 1 "b")),
          .handler (.timerFires 0), .finalize 1,
          .handler (.requestCommittee (baseCandidate cyclicPrimitives 2 "c")),
          .handler (.timerFires 1), .finalize 2] ∧
      cd.round = 1 ∧ lastCommittee 1 history = some committee ∧ committee.nodeId = ["a", "b"] ∧
      (server cyclicPrimitives).step m (.handler (.requestAggregatedCommit cd)) =
        .ok (post, ⟨some true, some msg⟩) ∧
      (m.collected cd).length = 1 ∧ post.commitData.lookup 1 = none :=
  overtaken_round cyclicPrimitives_lawful

end MeshCosi.Network
