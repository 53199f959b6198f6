import MeshCosi.Network.Rounds

/-!
# Who is on the list of a round

A candidate is on the list of its round from its request until the round is
finalized or collected.  `gcOldRounds` adds the window to a round in 64-bit
arithmetic, so a round near the largest number counts as an old one.  And
`appendCandidate` does not look for an earlier request of the same node, so the
length of the list, which is what the threshold is compared with, counts
requests.

The first part is about one call.  Whether `r + gcRoundWindow` wraps around decides
everything (`add_gcRoundWindow_lt_cases`): if not, the comparison is the one that is
meant; if it does, the round is not behind and may still be removed.

The second part is about runs, and needs two invariants.

* No node is on a list twice, if no node asks again while it waits
  (`server_run_distinctNodes`).
* From the request that completes the committee until the call it starts has run,
  the list stays full (`full_of_startedByThreshold`).  Only a finalization of the
  round or the garbage collection could shorten it, and the conditions of the round
  exclude both.
-/

namespace MeshCosi.Network

open Foundation Ed25519 Cosi

variable {G : Type}

/-! ## The window of the garbage collection -/

/-- `gcOldRounds` removes exactly the rounds that are behind by more than the
window and keeps the lists of the others. -/
def MeshSrv.RespectsWindow (m : MeshSrv G) (cur : UInt64) : Prop :=
  ∀ r, (m.gcOldRounds cur).committeeCandidates.lookup r =
    if r.toNat + gcRoundWindow.toNat < cur.toNat then none else m.committeeCandidates.lookup r

theorem MeshSrv.lookup_gcOldRounds (m : MeshSrv G) (cur r : UInt64) :
    (m.gcOldRounds cur).committeeCandidates.lookup r =
      if r + gcRoundWindow < cur then none else m.committeeCandidates.lookup r := by
  simp only [gcOldRounds, GoMap.lookup_deleteIf, decide_eq_true_eq]

/-- A sum that does not wrap around is compared as it is; one that does is too
large to be behind. -/
theorem add_gcRoundWindow_lt_cases (r cur : UInt64) :
    (r + gcRoundWindow < cur ↔ r.toNat + gcRoundWindow.toNat < cur.toNat) ∧
        r.toNat + gcRoundWindow.toNat < 2 ^ 64 ∨
      ¬ r.toNat + gcRoundWindow.toNat < cur.toNat ∧
        ¬ r.toNat + gcRoundWindow.toNat < 2 ^ 64 := by
  have hcur := cur.toNat_lt
  by_cases hwrap : r.toNat + gcRoundWindow.toNat < 2 ^ 64
  · left
    refine ⟨?_, hwrap⟩
    rw [MeshSrv.add_gcRoundWindow_lt_iff, Nat.mod_eq_of_lt hwrap]
  · right
    refine ⟨?_, hwrap⟩
    omega

/-- An accepted request is collected at once when the sum wraps around. -/
theorem add_gcRoundWindow_lt_self (r : UInt64) :
    r + gcRoundWindow < r ↔ ¬ r.toNat + gcRoundWindow.toNat < 2 ^ 64 := by
  have hr := r.toNat_lt
  rw [MeshSrv.add_gcRoundWindow_lt_iff]
  change (r.toNat + 4) % 2 ^ 64 < r.toNat ↔ ¬ r.toNat + 4 < 2 ^ 64
  omega

theorem MeshSrv.respectsWindow_iff (m : MeshSrv G) (cur : UInt64) :
    m.RespectsWindow cur ↔ ∀ r, (m.committeeCandidates.lookup r).isSome →
      r.toNat + gcRoundWindow.toNat < 2 ^ 64 ∨ cur ≤ r + gcRoundWindow := by
  constructor
  · intro hrespects r hsome
    by_contra hnot
    rw [not_or, UInt64.not_le] at hnot
    obtain ⟨-, hwrap⟩ | ⟨hbehind, -⟩ := add_gcRoundWindow_lt_cases r cur
    · exact hnot.1 hwrap
    · have hr := hrespects r
      rw [m.lookup_gcOldRounds, if_pos hnot.2, if_neg hbehind] at hr
      rw [← hr] at hsome
      cases hsome
  · intro h r
    rw [m.lookup_gcOldRounds]
    obtain ⟨hiff, -⟩ | ⟨hbehind, hwrap⟩ := add_gcRoundWindow_lt_cases r cur
    · simp only [hiff]
    · rw [if_neg hbehind]
      split_ifs with hlt
      · -- a stored round would have to be ahead of the window
        by_contra hne
        have hle := (h r (Option.isSome_iff_ne_none.2 (Ne.symm hne))).resolve_left hwrap
        exact absurd hlt (UInt64.not_lt.2 hle)
      · rfl

theorem MeshSrv.Accepts.mem_candidates_iff {m post : MeshSrv G} {cci : CommitteeCandidateInfo}
    (haccepts : m.Accepts cci post) :
    cci ∈ post.candidates cci.round ↔ cci.round.toNat + gcRoundWindow.toNat < 2 ^ 64 := by
  have hself := add_gcRoundWindow_lt_self cci.round
  by_cases hgc : cci.round + gcRoundWindow < cci.round
  · rw [MeshSrv.candidates, haccepts.committeeCandidates, if_pos hgc]
    exact iff_of_false List.not_mem_nil (hself.1 hgc)
  · rw [haccepts.candidates_self hgc]
    exact iff_of_true (List.mem_append_right _ (List.mem_singleton_self cci))
      (not_not.1 (hself.not.1 hgc))

/-- **What the garbage collection keeps.**  It respects the window exactly when
no stored round wraps around to one that is behind, and a candidate that was
just accepted is on its list exactly when the sum for its own round does not
wrap around. -/
theorem window_respected_iff (m : MeshSrv G) :
    (∀ cur, m.RespectsWindow cur ↔ ∀ r, (m.committeeCandidates.lookup r).isSome →
      r.toNat + gcRoundWindow.toNat < 2 ^ 64 ∨ cur ≤ r + gcRoundWindow) ∧
    ∀ cci post, m.requestCommittee cci = .ok (post, true) →
      (cci ∈ post.candidates cci.round ↔ cci.round.toNat + gcRoundWindow.toNat < 2 ^ 64) := by
  refine ⟨m.respectsWindow_iff, ?_⟩
  intro cci post h
  cases hprocessed : m.isProcessed cci.round with
  | true =>
      rw [MeshSrv.requestCommittee_refuses hprocessed] at h
      cases h
  | false =>
      obtain ⟨accepted, haccepted, haccepts⟩ := MeshSrv.requestCommittee_accepts hprocessed
      rw [haccepted, Except.ok.injEq, Prod.mk.injEq] at h
      rw [← h.1]
      exact haccepts.mem_candidates_iff

/-- Round 1 is behind round 6 by more than the window, round 2 is not; and a
request for round 6 is answered with true and keeps its candidate. -/
theorem window_respected_small :
    ∃ (m post : MeshSrv (ZMod (8 * l))) (cci : CommitteeCandidateInfo),
      (m.committeeCandidates.lookup 1).isSome ∧ (m.committeeCandidates.lookup 2).isSome ∧
      m.RespectsWindow 6 ∧ (m.gcOldRounds 6).candidates 1 = [] ∧
      (m.gcOldRounds 6).candidates 2 = m.candidates 2 ∧ cci.round = 6 ∧
      m.requestCommittee cci = .ok (post, true) ∧ cci ∈ post.candidates 6 := by
  let m : MeshSrv (ZMod (8 * l)) :=
    (MeshSrv.newMeshSrv.addCandidate ⟨1, "a", [], []⟩).addCandidate ⟨2, "b", [], []⟩
  have hstored : ∀ r, (m.committeeCandidates.lookup r).isSome → r = 1 ∨ r = 2 := by
    intro r
    simp only [m, MeshSrv.addCandidate, GoMap.lookup_insert_eq]
    split_ifs with htwo hone
    · exact fun _ => Or.inr htwo
    · exact fun _ => Or.inl hone
    · exact fun h => absurd h (by simp [MeshSrv.newMeshSrv])
  have hrespects : m.RespectsWindow 6 := by
    rw [(window_respected_iff m).1]
    intro r hr
    rcases hstored r hr with rfl | rfl
    · exact Or.inl (by decide)
    · exact Or.inl (by decide)
  obtain ⟨post, hpost, -⟩ := MeshSrv.requestCommittee_accepts
    (show m.isProcessed (CommitteeCandidateInfo.round ⟨6, "c", [], []⟩) = false from rfl)
  have hmem := ((window_respected_iff m).2 _ post hpost).2 (by decide)
  refine ⟨m, post, _, rfl, rfl, hrespects, ?_, ?_, rfl, hpost, hmem⟩
  · rw [MeshSrv.candidates, hrespects 1, if_pos (by decide), Option.getD_none]
  · rw [MeshSrv.candidates, hrespects 2, if_neg (by decide), MeshSrv.candidates]

/-- The first request for the largest round is answered with true, and its
candidate is collected in the same call. -/
theorem accepted_candidate_collected :
    ∃ (cci : CommitteeCandidateInfo) (m : MeshSrv (ZMod (8 * l))),
      cci.round.toNat = 2 ^ 64 - 1 ∧
      MeshSrv.newMeshSrv.requestCommittee cci = .ok (m, true) ∧
      cci ∉ m.candidates cci.round ∧
      ¬ (MeshSrv.newMeshSrv.addCandidate cci : MeshSrv (ZMod (8 * l))).RespectsWindow
        cci.round := by
  let cci : CommitteeCandidateInfo := ⟨18446744073709551615, "a", [], []⟩
  have hround : ¬ cci.round.toNat + gcRoundWindow.toNat < 2 ^ 64 := by decide
  obtain ⟨m, hm, haccepts⟩ := MeshSrv.requestCommittee_accepts
    (show (MeshSrv.newMeshSrv : MeshSrv (ZMod (8 * l))).isProcessed cci.round = false from rfl)
  refine ⟨cci, m, rfl, hm, fun hmem => hround (haccepts.mem_candidates_iff.1 hmem), ?_⟩
  intro hrespects
  rw [MeshSrv.respectsWindow_iff] at hrespects
  have hstored : ((MeshSrv.newMeshSrv.addCandidate cci :
      MeshSrv (ZMod (8 * l))).committeeCandidates.lookup cci.round).isSome := by
    rw [MeshSrv.addCandidate, GoMap.lookup_insert_eq, if_pos rfl]
    rfl
  exact absurd ((hrespects cci.round hstored).resolve_left hround) (by decide)

/-! ## One entry for each node -/

/-- No node asks again while its earlier request for the round waits. -/
def NoRepeat (m : MeshSrv G) (event : Event) : Prop :=
  ∀ cci, event = .handler (.requestCommittee cci) →
    cci.nodeId ∉ (m.candidates cci.round).map (·.nodeId)

/-- No node is on the list of a round twice. -/
def MeshSrv.DistinctNodes (m : MeshSrv G) : Prop :=
  ∀ r, ((m.candidates r).map (·.nodeId)).Nodup

/-- The `tryFinalize` call that runs next for the round may be one that the
threshold started: since a request completed the committee and started a call, a
call has been waiting all along. -/
def StartedByThreshold (r : UInt64) (past : History G) : Prop :=
  ∃ before entry after cci, past = before ++ entry :: after ∧
    entry.event = .handler (.requestCommittee cci) ∧ cci.round = r ∧
    entry.reply.ack = some true ∧ entry.pre.ReachesThreshold cci ∧
    ∀ later ∈ after, r ∈ later.post.spawned

/-- A request that completes the committee leaves a full list. -/
theorem MeshSrv.Accepts.full {m post : MeshSrv G} {cci : CommitteeCandidateInfo}
    (haccepts : m.Accepts cci post) (hfull : m.ReachesThreshold cci)
    (hgc : ¬ cci.round + gcRoundWindow < cci.round) :
    threshold ≤ (post.candidates cci.round).length := by
  rw [haccepts.candidates_self hgc, List.length_append, List.length_singleton]
  exact hfull

variable [AddCommGroup G] {P : Primitives G}

theorem MeshSrv.DistinctNodes.step {m post : MeshSrv G} (h : m.DistinctNodes) {event : Event}
    {reply : Reply} (hrepeat : NoRepeat m event) (hstep : m.step P event = .ok (post, reply)) :
    post.DistinctNodes := by
  intro r
  cases event with
  | finalize round =>
      obtain ⟨-, processed, cos, hub, -, -, -, -, rfl⟩ := MeshSrv.step_finalize.1 hstep
      change ((((m.committeeCandidates.erase round).lookup r).getD []).map (·.nodeId)).Nodup
      rw [GoMap.lookup_erase_eq]
      split_ifs
      · exact List.nodup_nil
      · exact h r
  | handler event =>
      rcases (MeshSrv.handle_effect hstep).candidates r with hsame | ⟨cci, rfl, -, -, hcandidates⟩
      · rw [hsame]
        exact h r
      · rw [hcandidates]
        split_ifs with hgc hround
        · exact List.nodup_nil
        · subst hround
          rw [List.map_append]
          refine (h cci.round).append (List.nodup_singleton _) ?_
          rw [List.map_singleton, List.disjoint_singleton]
          exact hrepeat cci rfl
        · exact h r

theorem server_run_distinctNodes {history : History G} {m : MeshSrv G}
    (run : (server P).Run history m) (along : Machine.Along (fun _ => NoRepeat) history) :
    m.DistinctNodes := by
  refine run.invariant (I := fun _ m => m.DistinctNodes) along (fun r => List.nodup_nil) ?_
  intro history pre event post reply _ hdistinct hrepeat hstep
  exact hdistinct.step hrepeat hstep

theorem server_run_single {history : History G} {m : MeshSrv G} (run : (server P).Run history m)
    {r : UInt64} (along : Machine.Along (fun _ => NoSecondCall r) history) :
    m.schedule.Single r := by
  refine run.invariant (I := fun _ m => m.schedule.Single r) along (single_newMeshSrv r) ?_
  intro history pre event post reply hrun hsingle hsecond hstep
  exact MeshSrv.single_step (server_run_wellFormed hrun) hsingle hsecond hstep

/-- While a call of the round waits, its list only grows. -/
theorem full_step {r : UInt64} {m post : MeshSrv G} {event : Event} {reply : Reply}
    (hsingle : m.schedule.Single r) (hkeeps : KeepsWaiting r m event)
    (hfull : threshold ≤ (m.candidates r).length) (hmem : r ∈ post.spawned)
    (h : m.step P event = .ok (post, reply)) : threshold ≤ (post.candidates r).length := by
  cases event with
  | finalize round =>
      obtain ⟨hspawned, processed, cos, hub, -, -, -, -, rfl⟩ := MeshSrv.step_finalize.1 h
      -- the only call of the round would have run
      have hne : r ≠ round := by
        rintro rfl
        exact (hsingle.idle_run hspawned).1 hmem
      change threshold ≤ (((m.committeeCandidates.erase round).lookup r).getD []).length
      rw [GoMap.lookup_erase_eq, if_neg hne]
      exact hfull
  | handler event =>
      rcases (MeshSrv.handle_effect h).candidates r with hsame | ⟨cci, rfl, -, -, hcandidates⟩
      · rw [hsame]
        exact hfull
      · have hgc : ¬ r + gcRoundWindow < cci.round := by
          intro hgc
          rw [(hkeeps cci rfl hgc).2] at hfull
          exact absurd hfull (by decide)
        rw [hcandidates, if_neg hgc]
        split_ifs
        · rw [List.length_append]
          exact hfull.trans (Nat.le_add_right _ _)
        · exact hfull

/-- A call that the threshold started finds a full list. -/
theorem full_of_startedByThreshold {past : History G} {m : MeshSrv G}
    (run : (server P).Run past m) {r : UInt64}
    (along : Machine.Along (fun _ m event => NoSecondCall r m event ∧ KeepsWaiting r m event) past)
    (hstarted : StartedByThreshold r past) : threshold ≤ (m.candidates r).length := by
  obtain ⟨before, ⟨pre, event, reply, post⟩, after, cci, rfl, rfl, rfl, hack, hreaches, hwaiting⟩ :=
    hstarted
  have hcond := (along before _ after rfl).2 cci rfl
  refine run.since (I := fun _ m => threshold ≤ (m.candidates cci.round).length) ?_ ?_
  · have heffect : HandlerEffect pre (.requestCommittee cci) post reply :=
      MeshSrv.handle_effect (P := P) run.split.2
    cases heffect with
    | stream hevent _ _ => cases hevent
    | accepted _ haccepts => exact haccepts.full hreaches fun hgc => (hcond hgc).1 rfl
    | refused _ => cases hack
  · rintro between later rest rfl hrun hfull hstep
    have hlater := along (before ++ ⟨pre, .handler (.requestCommittee cci), reply, post⟩ :: between)
      later rest (by simp)
    have hpast : Machine.Along (fun _ => NoSecondCall cci.round)
        (before ++ ⟨pre, .handler (.requestCommittee cci), reply, post⟩ :: between) := by
      rw [← List.cons_append, ← List.append_assoc] at along
      exact along.of_append.imp fun _ _ _ h => h.1
    exact full_step (server_run_single hrun hpast) hlater.2 hfull (hwaiting later (by simp)) hstep

/-- **When the threshold counts nodes.**  If no node asks again while its request
waits, no committee names a node twice.  If also the round starts no second call
and keeps its candidates, a finalization that the threshold started has at least
`threshold` distinct nodes. -/
theorem committee_counts_nodes {history : History G} {m : MeshSrv G}
    (run : (server P).Run history m) (hrepeat : Machine.Along (fun _ => NoRepeat) history) :
    (∀ entry ∈ history, ∀ r, entry.event = .finalize r →
      ∃ msg, entry.reply.sent = some msg ∧ msg.nodeId.Nodup) ∧
    ∀ r, Machine.Along (fun _ m event => NoSecondCall r m event ∧ KeepsWaiting r m event) history →
      ∀ past entry future, history = past ++ entry :: future → entry.event = .finalize r →
        StartedByThreshold r past →
        ∃ msg, entry.reply.sent = some msg ∧ threshold ≤ msg.nodeId.toFinset.card := by
  have hcommittee : ∀ past entry future r, history = past ++ entry :: future →
      entry.event = .finalize r → ∃ msg, entry.reply.sent = some msg ∧
        msg.nodeId = (entry.pre.candidates r).map (·.nodeId) ∧ msg.nodeId.Nodup := by
    rintro past ⟨pre, event, reply, post⟩ future r rfl rfl
    obtain ⟨hpast, hstep⟩ := run.split
    obtain ⟨-, processed, cos, hub, -, -, -, hreply, -⟩ := MeshSrv.step_finalize.1 hstep
    rw [hreply]
    exact ⟨_, rfl, rfl, server_run_distinctNodes hpast hrepeat.of_append r⟩
  constructor
  · intro entry hentry r hevent
    obtain ⟨past, future, hhistory⟩ := List.append_of_mem hentry
    obtain ⟨msg, hsent, -, hnodup⟩ := hcommittee past entry future r hhistory hevent
    exact ⟨msg, hsent, hnodup⟩
  · intro r along past entry future hhistory hevent hstarted
    obtain ⟨msg, hsent, hnodes, hnodup⟩ := hcommittee past entry future r hhistory hevent
    refine ⟨msg, hsent, ?_⟩
    subst hhistory
    rw [List.toFinset_card_of_nodup hnodup, hnodes, List.length_map]
    exact full_of_startedByThreshold run.split.1 along.of_append hstarted

/-- As many requests as the threshold asks for, and the finalization they start. -/
private theorem gathered_round (hP : P.Lawful) (nodeIds : List String)
    (h : nodeIds.length = threshold) :
    ∃ (past : History G) (entry : Entry (MeshSrv G) Event Reply) (m : MeshSrv G)
      (msg : FinalizedCommittee), (server P).Run (past ++ [entry]) m ∧
      past.map Entry.event = nodeIds.map (requestOf P 1) ∧ entry.event = .finalize 1 ∧
      entry.reply.sent = some msg ∧ msg.nodeId = nodeIds ∧ StartedByThreshold 1 past ∧
      Machine.Along (RoundStep P 1 [] .newMeshSrv nodeIds) (past ++ [entry]) := by
  obtain rfl | ⟨before, nodeId, rfl⟩ := List.eq_nil_or_concat nodeIds
  · exact absurd h (by decide)
  rw [List.concat_eq_append] at h ⊢
  have hlength : before.length + 1 = threshold := by simpa using h
  have hgc : ¬ (1 : UInt64) + gcRoundWindow < 1 := by decide
  obtain ⟨history, m, run, hevents, hasked, halong⟩ :=
    server_run_asks (P := P) .nil hgc (MeshSrv.fresh_newMeshSrv 1) before (by omega)
  obtain ⟨full, haccepts, hrun⟩ := server_run_ask run 1 nodeId
  have hfull : m.ReachesThreshold (baseCandidate P 1 nodeId) := by
    change threshold ≤ (m.candidates 1).length + 1
    rw [hasked.candidates, List.length_map]
    exact hlength.ge
  have hcandidates : full.candidates 1 = (before ++ [nodeId]).map (baseCandidate P 1) := by
    rw [show full.candidates 1 = _ from haccepts.candidates_self hgc, List.map_append]
    exact congrArg (· ++ _) hasked.candidates
  have hmem : 1 ∈ full.spawned := by
    change 1 ∈ full.schedule.spawned
    rw [haccepts.schedule, if_pos hfull, Schedule.spawn_spawned]
    exact List.mem_append_right _ (List.mem_singleton_self _)
  obtain ⟨processed, hub, committee, hfinal, hnodes⟩ :=
    server_run_finalize_asked hP hrun hmem hcandidates
  refine ⟨_, _, _, committee, hfinal, ?_, rfl, rfl, hnodes, ?_, ?_⟩
  · rw [List.map_append, List.map_append, List.map_append, hevents]
    rfl
  · exact ⟨_, _, [], baseCandidate P 1 nodeId, rfl, rfl, rfl, rfl, hfull, by simp⟩
  · refine Machine.along_snoc.2 ⟨Machine.along_snoc.2 ⟨?_, ?_⟩, ?_⟩
    · exact halong _ (List.prefix_append _ _) _ Machine.along_nil fun _ _ _ h => h
    · exact .asks (List.prefix_refl _) (by rw [List.map_append, hevents]) hasked.candidates
        hasked.spawned
    · exact .finalizes hcandidates (haccepts.commitData.trans hasked.commitData)

/-- Requests of distinct nodes are no repetitions. -/
private theorem RoundStep.noRepeat {nodeIds : List String} (hnodup : nodeIds.Nodup)
    {start past : History G} {first m : MeshSrv G} {event : Event}
    (h : RoundStep P 1 start first nodeIds past m event) : NoRepeat m event := by
  cases h with
  | @asks before nodeId hfront _ hcandidates _ =>
      rintro cci ⟨⟩
      have hfresh := hnodup.sublist hfront.sublist
      rw [List.nodup_append] at hfresh
      change nodeId ∉ (m.candidates 1).map (·.nodeId)
      rw [hcandidates, List.map_map]
      intro hmem
      rw [show (fun cci : CommitteeCandidateInfo => cci.nodeId) ∘ baseCandidate P 1 = id from rfl,
        List.map_id] at hmem
      exact hfresh.2.2 nodeId hmem nodeId (List.mem_singleton_self _) rfl
  | fires timer => rintro cci ⟨⟩
  | finalizes _ _ => rintro cci ⟨⟩

/-- Ten nodes ask once each. -/
theorem committee_counts_nodes_ten :
    ∃ (past : History (ZMod (8 * l))) (entry : Entry (MeshSrv (ZMod (8 * l))) Event Reply)
      (m : MeshSrv (ZMod (8 * l))) (msg : FinalizedCommittee),
      (server cyclicPrimitives).Run (past ++ [entry]) m ∧
      Machine.Along (fun _ => NoRepeat) (past ++ [entry]) ∧ StartedByThreshold 1 past ∧
      entry.event = .finalize 1 ∧ entry.reply.sent = some msg ∧ msg.nodeId.Nodup ∧
      threshold ≤ msg.nodeId.toFinset.card := by
  obtain ⟨past, entry, m, msg, run, -, hevent, hsent, -, hstarted, halong⟩ :=
    gathered_round cyclicPrimitives_lawful ["a", "b", "c", "d", "e", "f", "g", "h", "i", "j"] rfl
  have hrepeat : Machine.Along (fun _ => NoRepeat) (past ++ [entry]) :=
    halong.imp fun _ _ _ h => h.noRepeat (by decide)
  have hcond : Machine.Along (fun _ m event => NoSecondCall 1 m event ∧ KeepsWaiting 1 m event)
      (past ++ [entry]) := halong.imp fun _ _ _ h =>
    have hstep := h.conditions (by decide) List.not_mem_nil List.not_mem_nil
    ⟨hstep.1, hstep.2.2⟩
  obtain ⟨hnodup, hcount⟩ := committee_counts_nodes run hrepeat
  obtain ⟨msg', hsent', hnodup⟩ := hnodup entry (by simp) 1 hevent
  obtain ⟨msg'', hsent'', hcount⟩ := hcount 1 hcond past entry [] rfl
    hevent hstarted
  rw [hsent, Option.some.injEq] at hsent' hsent''
  subst hsent' hsent''
  exact ⟨past, entry, m, msg, run, hrepeat, hstarted, hevent, hsent, hnodup, hcount⟩

/-- One node asks ten times: the threshold is reached, and the committee names it
ten times. -/
theorem committee_of_one_node :
    ∃ (past : History (ZMod (8 * l))) (entry : Entry (MeshSrv (ZMod (8 * l))) Event Reply)
      (m : MeshSrv (ZMod (8 * l))) (msg : FinalizedCommittee),
      (server cyclicPrimitives).Run (past ++ [entry]) m ∧
      past.map Entry.event = List.replicate 10
        (.handler (.requestCommittee (baseCandidate cyclicPrimitives 1 "a"))) ∧
      StartedByThreshold 1 past ∧ entry.event = .finalize 1 ∧ entry.reply.sent = some msg ∧
      msg.nodeId = List.replicate 10 "a" ∧ ¬ msg.nodeId.Nodup ∧
      msg.nodeId.toFinset.card < threshold := by
  obtain ⟨past, entry, m, msg, run, hevents, hevent, hsent, hnodes, hstarted, -⟩ :=
    gathered_round cyclicPrimitives_lawful (List.replicate 10 "a") rfl
  refine ⟨past, entry, m, msg, run, hevents, hstarted, hevent, hsent, hnodes, ?_, ?_⟩
  · rw [hnodes]
    decide
  · rw [hnodes]
    decide

end MeshCosi.Network
