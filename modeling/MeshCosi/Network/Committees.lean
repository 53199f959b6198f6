import MeshCosi.Network.Invariants

/-!
# The committees of a history

`committees` are the broadcasts that the `tryFinalize` calls of a round make.
The second half builds them: from any state in which a round has not begun,
nodes that ask one after the other and fewer than the threshold wait for the
timer, and when it has fired the call broadcasts exactly these nodes.

* `server_run_ask`, `server_run_asks`: one request, and the requests of a list;
* `server_run_finalize_asked`: the `tryFinalize` call of the round;
* `server_run_round`: the requests, the timer and the call in one `RoundRun`.

`RoundStep` is what is known in each of these steps.  A condition on runs that
follows from it holds along the whole round.
-/

namespace MeshCosi.Network

open Foundation Ed25519 Cosi

variable {G : Type}

/-- The committees of a round that were broadcast. -/
def committees (r : UInt64) (history : History G) : List FinalizedCommittee :=
  history.filterMap fun entry =>
    match entry.event with
    | .finalize round => if round = r then entry.reply.sent else none
    | .handler _ => none

theorem committees_append (r : UInt64) (history steps : History G) :
    committees r (history ++ steps) = committees r history ++ committees r steps :=
  List.filterMap_append

/-- Only a call of the round broadcasts its committee. -/
theorem committees_eq_nil {r : UInt64} {history : History G}
    (h : .finalize r ∉ history.map Entry.event) : committees r history = [] := by
  refine List.filterMap_eq_nil_iff.2 fun entry hentry => ?_
  have hne : entry.event ≠ .finalize r := fun heq => h (heq ▸ List.mem_map_of_mem hentry)
  cases hevent : entry.event with
  | handler event => rfl
  | finalize round =>
      have hround : round ≠ r := fun heq => hne (by rw [hevent, heq])
      exact if_neg hround

theorem committees_of_ne {r : UInt64} {event : Event} (hne : event ≠ .finalize r)
    (history : History G) (pre post : MeshSrv G) (reply : Reply) :
    committees r (history ++ [⟨pre, event, reply, post⟩]) = committees r history := by
  have hlast : committees r [⟨pre, event, reply, post⟩] = [] :=
    committees_eq_nil (by simpa using hne.symm)
  rw [committees_append, hlast, List.append_nil]

/-! ## A round from its first request on -/

/-- Nobody waits for the round, and nothing is on the way for it. -/
structure MeshSrv.Fresh (m : MeshSrv G) (round : UInt64) : Prop where
  candidates : m.candidates round = []
  timer : m.timers.lookup round = none
  spawned : round ∉ m.spawned

theorem MeshSrv.fresh_newMeshSrv (round : UInt64) : (newMeshSrv : MeshSrv G).Fresh round :=
  ⟨rfl, rfl, List.not_mem_nil⟩

variable [AddCommGroup G]

/-- The request of a node for a round. -/
def requestOf (P : Primitives G) (round : UInt64) (nodeId : String) : Event :=
  .handler (.requestCommittee (baseCandidate P round nodeId))

/-- A step of a round that begins after the history `start`, in the state `first`,
and in which the nodes ask one after the other. -/
inductive RoundStep (P : Primitives G) (round : UInt64) (start : History G) (first : MeshSrv G)
    (nodeIds : List String) (past : History G) (m : MeshSrv G) : Event → Prop
  | asks {before : List String} {nodeId : String} (hfront : before ++ [nodeId] <+: nodeIds)
      (hpast : past.map Entry.event = start.map Entry.event ++ before.map (requestOf P round))
      (hcandidates : m.candidates round = before.map (baseCandidate P round))
      (hspawned : m.spawned = first.spawned) :
      RoundStep P round start first nodeIds past m (requestOf P round nodeId)
  | fires (timer : ℕ) :
      RoundStep P round start first nodeIds past m (.handler (.timerFires timer))
  | finalizes (hcandidates : m.candidates round = nodeIds.map (baseCandidate P round))
      (hcommits : m.commitData = first.commitData) :
      RoundStep P round start first nodeIds past m (.finalize round)

variable {P : Primitives G} {history : History G} {m : MeshSrv G} {round : UInt64}

/-- The nodes, and nobody else, have asked since the round began in the state `first`.
The first of them made the timer. -/
structure MeshSrv.Asked (P : Primitives G) (first : MeshSrv G) (round : UInt64)
    (nodeIds : List String) (m : MeshSrv G) : Prop where
  candidates : m.candidates round = nodeIds.map (baseCandidate P round)
  commitData : m.commitData = first.commitData
  schedule : m.schedule =
    if nodeIds = [] then first.schedule else first.schedule.arm round
  fresh : ∀ r, r ≠ round → first.Fresh r → m.Fresh r

theorem MeshSrv.Fresh.asked (hfresh : m.Fresh round) : MeshSrv.Asked P m round [] m :=
  ⟨hfresh.candidates, rfl, (if_pos rfl).symm, fun _ _ h => h⟩

theorem MeshSrv.Asked.spawned {first : MeshSrv G} {nodeIds : List String}
    (h : MeshSrv.Asked P first round nodeIds m) : m.spawned = first.spawned := by
  change m.schedule.spawned = first.schedule.spawned
  rw [h.schedule]
  split_ifs
  · rfl
  · exact Schedule.arm_spawned _ _

theorem MeshSrv.Asked.accepts {first post : MeshSrv G} {nodeIds : List String} {nodeId : String}
    (h : MeshSrv.Asked P first round nodeIds m) (hgc : ¬ round + gcRoundWindow < round)
    (hfew : nodeIds.length + 1 < threshold)
    (haccepts : m.Accepts (baseCandidate P round nodeId) post) :
    MeshSrv.Asked P first round (nodeIds ++ [nodeId]) post := by
  have hbelow : ¬ m.ReachesThreshold (baseCandidate P round nodeId) := by
    change ¬ threshold ≤ (m.candidates round).length + 1
    rw [h.candidates, List.length_map]
    omega
  have hschedule : post.schedule = m.schedule.arm round := by
    rw [haccepts.schedule, if_neg hbelow]
    rfl
  have hcandidates : post.candidates round = m.candidates round ++ [baseCandidate P round nodeId] :=
    haccepts.candidates_self hgc
  refine ⟨?_, haccepts.commitData.trans h.commitData, ?_, fun r hne hfirst => ?_⟩
  · rw [hcandidates, h.candidates, List.map_append]
    rfl
  · rw [if_neg (by simp), hschedule, h.schedule]
    split_ifs
    · rfl
    · obtain ⟨t, ht⟩ := first.schedule.exists_lookup_arm round
      exact Schedule.arm_of_lookup ht
  · have hm := h.fresh r hne hfirst
    refine ⟨?_, ?_, ?_⟩
    · rw [haccepts.candidates_of_ne hne fun _ => hm.candidates]
      exact hm.candidates
    · change post.schedule.timers.lookup r = none
      rw [hschedule, Schedule.lookup_arm_of_ne hne]
      exact hm.timer
    · change r ∉ post.schedule.spawned
      rw [hschedule, Schedule.arm_spawned]
      exact hm.spawned

/-- One request. -/
theorem server_run_ask (run : (server P).Run history m) (round : UInt64) (nodeId : String) :
    ∃ post, m.Accepts (baseCandidate P round nodeId) post ∧ (server P).Run
      (history ++ [⟨m, requestOf P round nodeId, ⟨some true, none⟩, post⟩]) post := by
  have hunmarked : m.isProcessed (baseCandidate P round nodeId).round = false :=
    (server_run_wellFormed run).unmarked round
  obtain ⟨post, hstep, haccepts⟩ := MeshSrv.step_requestCommittee (P := P) hunmarked
  exact ⟨post, haccepts, run.next _ hstep⟩

/-- The requests of fewer nodes than the threshold asks for. -/
theorem server_run_asks (run : (server P).Run history m) (hgc : ¬ round + gcRoundWindow < round)
    (hfresh : m.Fresh round) (nodeIds : List String) (hfew : nodeIds.length < threshold) :
    ∃ steps post, (server P).Run (history ++ steps) post ∧
      steps.map Entry.event = nodeIds.map (requestOf P round) ∧
      MeshSrv.Asked P m round nodeIds post ∧
      ∀ longer, nodeIds <+: longer → ∀ condition, Machine.Along condition history →
        (∀ past m' event, RoundStep P round history m longer past m' event →
          condition past m' event) → Machine.Along condition (history ++ steps) := by
  induction nodeIds using List.reverseRecOn with
  | nil =>
      refine ⟨[], m, by simpa using run, rfl, hfresh.asked, ?_⟩
      intro longer _ condition hhistory _
      simpa using hhistory
  | append_singleton nodeIds nodeId ih =>
      rw [List.length_append, List.length_singleton] at hfew
      obtain ⟨steps, pre, hrun, hevents, hasked, halong⟩ := ih (by omega)
      obtain ⟨post, haccepts, hrun⟩ := server_run_ask hrun round nodeId
      rw [List.append_assoc] at hrun
      refine ⟨_, post, hrun, ?_, hasked.accepts hgc hfew haccepts, ?_⟩
      · rw [List.map_append, hevents, List.map_append]
        rfl
      · intro longer hlonger condition hhistory hcondition
        rw [← List.append_assoc]
        refine Machine.along_snoc.2 ⟨halong longer ((List.prefix_append _ _).trans hlonger)
          condition hhistory hcondition, hcondition _ _ _ ?_⟩
        exact .asks hlonger (by rw [List.map_append, hevents]) hasked.candidates hasked.spawned

/-- The `tryFinalize` call of a round whose candidates are the nodes. -/
theorem server_run_finalize_asked (hP : P.Lawful) (run : (server P).Run history m)
    {nodeIds : List String} (hmem : round ∈ m.spawned)
    (hcandidates : m.candidates round = nodeIds.map (baseCandidate P round)) :
    ∃ processed hub committee,
      (server P).Run (history ++ [⟨m, .finalize round, ⟨none, some committee⟩,
          MeshSrv.finalized
            (MeshSrv.started { m with spawned := m.spawned.erase round } round processed) round
            (Cosigners.ofKeys (nodeIds.map fun _ => P.base)) hub⟩])
        (MeshSrv.finalized
          (MeshSrv.started { m with spawned := m.spawned.erase round } round processed) round
          (Cosigners.ofKeys (nodeIds.map fun _ => P.base)) hub) ∧
      committee.nodeId = nodeIds := by
  have hwf := server_run_wellFormed run
  obtain ⟨processed, hprocessed⟩ := hwf.exists_processed (.inr hmem)
  have hcos := newCosigners_baseCandidates hP round nodeIds
  rw [← hcandidates] at hcos
  obtain ⟨hub, hhub, -⟩ := hwf.hub.broadcast (MeshSrv.committee P round (m.candidates round) _)
  refine ⟨processed, hub, _, server_run_finalize run round hmem hprocessed hcos hhub, ?_⟩
  change (m.candidates round).map (·.nodeId) = _
  rw [hcandidates, List.map_map]
  exact List.map_id' _

/-- Nodes ask for a round one after the other, its timer fires and the call selects
them: the steps from the state `first` to the state `post`. -/
structure RoundRun (P : Primitives G) (round : UInt64) (start : History G) (first : MeshSrv G)
    (nodeIds : List String) (steps : History G) (post : MeshSrv G) : Prop where
  run : (server P).Run (start ++ steps) post
  events : steps.map Entry.event = nodeIds.map (requestOf P round) ++
    [.handler (.timerFires first.clock.length), .finalize round]
  selects : ∃ committee, committees round steps = [committee] ∧ committee.nodeId = nodeIds
  cosigners : post.cosigners = some (Cosigners.ofKeys (nodeIds.map fun _ => P.base))
  nodeNumber : post.nodeNumber = nodeIds.length
  commitData : post.commitData = first.commitData
  clock : post.clock.length = first.clock.length + 1
  fresh : ∀ r, first.Fresh r → post.Fresh r
  along : ∀ condition, Machine.Along condition start →
    (∀ past m event, RoundStep P round start first nodeIds past m event →
      condition past m event) → Machine.Along condition (start ++ steps)

/-- **A whole round.**  Fewer nodes than the threshold ask one after the other, the
timer fires, and the call selects them. -/
theorem server_run_round (hP : P.Lawful) (run : (server P).Run history m)
    (hgc : ¬ round + gcRoundWindow < round) (hfresh : m.Fresh round) (nodeIds : List String)
    (hne : nodeIds ≠ []) (hfew : nodeIds.length < threshold) :
    ∃ steps post, RoundRun P round history m nodeIds steps post := by
  obtain ⟨steps, asked, hrun, hevents, hasked, halong⟩ :=
    server_run_asks run hgc hfresh nodeIds hfew
  have hcandidates := hasked.candidates
  have harm : asked.schedule = ⟨m.timers.insert round m.clock.length,
      m.clock ++ [⟨round, .armed⟩], m.spawned⟩ := by
    rw [hasked.schedule, if_neg hne, Schedule.arm_of_lookup_none (s := m.schedule) hfresh.timer]
    rfl
  have hclock : asked.clock = m.clock ++ [⟨round, .armed⟩] := congrArg Schedule.clock harm
  have hspawned : asked.spawned = m.spawned := congrArg Schedule.spawned harm
  have harmed : asked.clock[m.clock.length]? = some ⟨round, .armed⟩ := by
    rw [hclock]
    simp
  have hrun := hrun.next (.handler (.timerFires m.clock.length))
    (MeshSrv.step_timerFires (P := P) harmed)
  have hmem : round ∈ asked.spawned ++ [round] :=
    List.mem_append_right _ (List.mem_singleton_self round)
  obtain ⟨processed, hub, committee, hfinal, hnodes⟩ :=
    server_run_finalize_asked hP hrun hmem hcandidates
  rw [List.append_assoc, List.append_assoc] at hfinal
  refine ⟨_, _, hfinal, ?_, ⟨committee, ?_, hnodes⟩, rfl, ?_, hasked.commitData, ?_, ?_, ?_⟩
  · rw [List.map_append, hevents]
    rfl
  · rw [committees_append, committees_eq_nil, List.nil_append]
    · simp [committees]
    · rw [hevents]
      simp [requestOf]
  · change (asked.candidates round).length = _
    rw [hcandidates, List.length_map]
  · change (asked.clock.set _ _).length = _
    rw [List.length_set, hclock, List.length_append, List.length_singleton]
  · intro r h
    refine ⟨?_, ?_, ?_⟩
    · change ((asked.committeeCandidates.erase round).lookup r).getD [] = []
      rw [GoMap.lookup_erase_eq]
      split_ifs with heq
      · rfl
      · exact (hasked.fresh r heq h).candidates
    · change (asked.timers.erase round).lookup r = none
      rw [GoMap.lookup_erase_eq]
      split_ifs with heq
      · rfl
      · exact (hasked.fresh r heq h).timer
    · -- the call that the timer started is the one that has run
      change r ∉ (asked.spawned ++ [round]).erase round
      rw [hspawned, List.erase_append_right _ hfresh.spawned, List.erase_cons_head,
        List.append_nil]
      exact h.spawned
  · intro condition hhistory hcondition
    rw [← List.append_assoc, ← List.append_assoc]
    refine Machine.along_snoc.2 ⟨Machine.along_snoc.2 ⟨?_, ?_⟩, ?_⟩
    · exact halong nodeIds (List.prefix_refl _) condition hhistory hcondition
    · exact hcondition _ _ _ (.fires m.clock.length)
    · exact hcondition _ _ _ (.finalizes hcandidates hasked.commitData)

end MeshCosi.Network
