import MeshCosi.Network.Committees

/-!
# The committees of a round

A round is finalized by its timer or by the candidate that completes it, and
every further candidate before the finalization starts another `tryFinalize`
call.  The finalization forgets the round, so a later candidate opens it again.
The results say which requests keep a round to one committee, and which keep
every committee from being empty.
-/

namespace MeshCosi.Network

open Foundation Ed25519 Cosi

variable {G : Type}

/-! ## At most one call on the way -/

/-- A candidate does not complete the round while a `tryFinalize` call waits for it. -/
def NoSecondCall (r : UInt64) (m : MeshSrv G) (event : Event) : Prop :=
  ∀ cci, event = .handler (.requestCommittee cci) → cci.round = r → m.ReachesThreshold cci →
    r ∉ m.spawned

/-- A request of another round does not garbage-collect candidates of the round,
and a request of the round itself is not collected at once. -/
def KeepsWaiting (r : UInt64) (m : MeshSrv G) (event : Event) : Prop :=
  ∀ cci, event = .handler (.requestCommittee cci) → r + gcRoundWindow < cci.round →
    cci.round ≠ r ∧ m.candidates r = []

namespace MeshSrv

theorem Accepts.agree {m post : MeshSrv G} {cci : CommitteeCandidateInfo} {r : UInt64}
    (haccepts : m.Accepts cci post) (hwf : m.schedule.WellFormed) (hne : r ≠ cci.round) :
    Schedule.Agree r m.schedule post.schedule := by
  rw [haccepts.schedule]
  split_ifs
  · exact (Schedule.agree_arm hne).trans (Schedule.agree_spawn (hwf.arm _) hne)
  · exact Schedule.agree_arm hne

theorem Accepts.single {m post : MeshSrv G} {cci : CommitteeCandidateInfo}
    (haccepts : m.Accepts cci post) (hwf : m.schedule.WellFormed)
    (hsingle : m.schedule.Single cci.round)
    (hsecond : m.ReachesThreshold cci → cci.round ∉ m.spawned) :
    post.schedule.Single cci.round := by
  rw [haccepts.schedule]
  split_ifs with hfull
  · obtain ⟨t, ht⟩ := m.schedule.exists_lookup_arm cci.round
    refine hsingle.arm.spawn (hwf.arm _) ht ?_
    rw [Schedule.arm_spawned]
    exact hsecond hfull
  · exact hsingle.arm

variable [AddCommGroup G] {P : Primitives G}

/-- What a step does to the timers and calls of a round: nothing, or it is a
request, a timer or a `tryFinalize` call of the round. -/
theorem schedule_cases {m post : MeshSrv G} {event : Event} {reply : Reply} (hwf : m.WellFormed)
    (h : m.step P event = .ok (post, reply)) (r : UInt64) :
    Schedule.Agree r m.schedule post.schedule ∨
    (∃ cci, event = .handler (.requestCommittee cci) ∧ cci.round = r ∧ m.Accepts cci post) ∨
    (∃ t, m.schedule.clock[t]? = some ⟨r, .armed⟩ ∧ post.schedule = m.schedule.fire t r) ∨
    r ∈ m.schedule.spawned ∧ post.schedule = m.schedule.run r := by
  cases event with
  | finalize round =>
      obtain ⟨hmem, processed, cos, hub, -, -, -, -, rfl⟩ := step_finalize.1 h
      by_cases heq : r = round
      · subst heq
        exact Or.inr (Or.inr (Or.inr ⟨hmem, rfl⟩))
      · exact Or.inl (Schedule.agree_run heq)
  | handler event =>
      cases handle_effect h with
      | stream _ _ _ => exact Or.inl (Schedule.Agree.refl r _)
      | @accepted cci _ _ haccepts =>
          by_cases heq : r = cci.round
          · exact Or.inr (Or.inl ⟨cci, rfl, heq.symm, haccepts⟩)
          · exact Or.inl (haccepts.agree hwf.schedule heq)
      | refused _ => exact Or.inl (Schedule.Agree.refl r _)
      | committed _ => exact Or.inl (Schedule.Agree.refl r _)
      | @fired t round hclock =>
          by_cases heq : r = round
          · subst heq
            exact Or.inr (Or.inr (Or.inl ⟨t, hclock, rfl⟩))
          · exact Or.inl (Schedule.agree_fire (s := m.schedule) hclock heq)

/-- Every step keeps a round to one call, if it does not start a second one. -/
theorem single_step {m post : MeshSrv G} {event : Event} {reply : Reply} {r : UInt64}
    (hwf : m.WellFormed) (hsingle : m.schedule.Single r) (hsecond : NoSecondCall r m event)
    (h : m.step P event = .ok (post, reply)) : post.schedule.Single r := by
  rcases schedule_cases hwf h r with
    hagree | ⟨cci, hevent, rfl, haccepts⟩ | ⟨t, hclock, hfire⟩ | ⟨hmem, hrun⟩
  · exact hagree.single hsingle
  · exact haccepts.single hwf.schedule hsingle (hsecond cci hevent rfl)
  · rw [hfire]
    exact hsingle.fire hclock
  · rw [hrun]
    exact hsingle.run hmem

/-- An idle round stays idle until its next request. -/
theorem idle_step {m post : MeshSrv G} {event : Event} {reply : Reply} {r : UInt64}
    (hwf : m.WellFormed) (hidle : m.schedule.Idle r)
    (hnone : ∀ cci, event = .handler (.requestCommittee cci) → cci.round ≠ r)
    (h : m.step P event = .ok (post, reply)) : post.schedule.Idle r := by
  rcases schedule_cases hwf h r with
    hagree | ⟨cci, hevent, hround, -⟩ | ⟨t, hclock, -⟩ | ⟨hmem, -⟩
  · exact hagree.idle_iff.2 hidle
  · exact absurd hround (hnone cci hevent)
  · exact absurd hclock (hidle.2 t)
  · exact absurd hmem hidle.1

end MeshSrv

theorem single_newMeshSrv (r : UInt64) : (MeshSrv.newMeshSrv : MeshSrv G).schedule.Single r where
  armed t h := by simp [MeshSrv.schedule, MeshSrv.newMeshSrv] at h
  count_le := by simp [MeshSrv.schedule, MeshSrv.newMeshSrv]
  waiting h := by simp [MeshSrv.schedule, MeshSrv.newMeshSrv] at h

/-! ## One committee -/

/-- Every request for the round after its committee was broadcast is answered
with false and adds no candidate. -/
def LateRequestsRefused (r : UInt64) (history : History G) : Prop :=
  ∀ past entry future cci, history = past ++ entry :: future →
    entry.event = .handler (.requestCommittee cci) → cci.round = r → committees r past ≠ [] →
    entry.reply.ack = some false ∧ entry.post.candidates r = entry.pre.candidates r

/-- No request for the round comes after its committee was broadcast. -/
def NoLateRequest (r : UInt64) (past : History G) (_ : MeshSrv G) (event : Event) : Prop :=
  ∀ cci, event = .handler (.requestCommittee cci) → cci.round = r → committees r past = []

/-- At most one committee, and none while a call is on the way. -/
structure OneCommittee (r : UInt64) (history : History G) (m : MeshSrv G) : Prop where
  single : m.schedule.Single r
  length_le : (committees r history).length ≤ 1
  idle : committees r history ≠ [] → m.schedule.Idle r

variable [AddCommGroup G] {P : Primitives G}

theorem oneCommittee_step {r : UInt64} {history : History G} {pre post : MeshSrv G} {event : Event}
    {reply : Reply} (hwf : pre.WellFormed) (hone : OneCommittee r history pre)
    (hsecond : NoSecondCall r pre event) (hlate : NoLateRequest r history pre event)
    (h : pre.step P event = .ok (post, reply)) :
    OneCommittee r (history ++ [⟨pre, event, reply, post⟩]) post := by
  have hsingle := MeshSrv.single_step hwf hone.single hsecond h
  by_cases hevent : event = .finalize r
  · -- the call was on the way, so nothing was broadcast before
    subst hevent
    obtain ⟨hmem, processed, cos, hub, -, -, -, rfl, rfl⟩ := MeshSrv.step_finalize.1 h
    have hnone : committees r history = [] := by
      by_contra hne
      exact (hone.idle hne).1 hmem
    refine ⟨hsingle, ?_, fun _ => hone.single.idle_run hmem⟩
    rw [committees_append, hnone]
    simp [committees]
  · constructor
    · exact hsingle
    · rw [committees_of_ne hevent]
      exact hone.length_le
    · rw [committees_of_ne hevent]
      intro hne
      exact MeshSrv.idle_step hwf (hone.idle hne)
        (fun cci hrequest hround => hne (hlate cci hrequest hround)) h

/-- No round is marked between two steps, so every request is accepted. -/
theorem ack_of_request {past future : History G} {entry : Entry (MeshSrv G) Event Reply}
    {m : MeshSrv G} (run : (server P).Run (past ++ entry :: future) m)
    {cci : CommitteeCandidateInfo} (hevent : entry.event = .handler (.requestCommittee cci)) :
    entry.reply.ack = some true := by
  obtain ⟨pre, event, reply, post⟩ := entry
  obtain rfl : event = .handler (.requestCommittee cci) := hevent
  obtain ⟨hpast, hstep⟩ := run.split
  have heffect : HandlerEffect pre (.requestCommittee cci) post reply :=
    MeshSrv.handle_effect (P := P) hstep
  cases heffect with
  | stream hstream _ _ => cases hstream
  | accepted _ _ => rfl
  | refused hprocessed =>
      rw [(server_run_wellFormed hpast).unmarked] at hprocessed
      cases hprocessed

/-- As long as no candidate completes the round while a call waits for it, the
round has one committee and refuses later requests, if and only if there are no
later requests: the server refuses none. -/
theorem one_committee_iff {history : History G} {m : MeshSrv G} (run : (server P).Run history m)
    (r : UInt64) (hsecond : Machine.Along (fun _ => NoSecondCall r) history) :
    (committees r history).length ≤ 1 ∧ LateRequestsRefused r history ↔
      Machine.Along (NoLateRequest r) history := by
  constructor
  · rintro ⟨-, hrefused⟩ past entry future rfl cci hevent hround
    by_contra hne
    have hack := (hrefused past entry future cci rfl hevent hround hne).1
    rw [ack_of_request run hevent] at hack
    cases hack
  · intro hlate
    have hcond : Machine.Along (fun past m event =>
        NoSecondCall r m event ∧ NoLateRequest r past m event) history :=
      fun past entry future h => ⟨hsecond past entry future h, hlate past entry future h⟩
    have hone : OneCommittee r history m := by
      refine run.invariant hcond
        ⟨single_newMeshSrv r, by simp [committees], fun h => absurd rfl h⟩ ?_
      intro history pre event post reply hrun hone hcond hstep
      exact oneCommittee_step (server_run_wellFormed hrun) hone hcond.1 hcond.2 hstep
    refine ⟨hone.length_le, fun past entry future cci hhistory hevent hround hne => ?_⟩
    exact absurd (hlate past entry future hhistory cci hevent hround) hne

/-- The steps of a round that begins afresh and was not finalized before. -/
theorem RoundStep.conditions {round : UInt64} (hgc : ¬ round + gcRoundWindow < round)
    {start past : History G} {first m : MeshSrv G} {nodeIds : List String} {event : Event}
    (hstart : .finalize round ∉ start.map Entry.event) (hfirst : round ∉ first.spawned)
    (h : RoundStep P round start first nodeIds past m event) :
    NoSecondCall round m event ∧ NoLateRequest round past m event ∧ KeepsWaiting round m event := by
  cases h with
  | asks _ hpast _ hspawned =>
      refine ⟨?_, ?_, ?_⟩ <;> rintro cci ⟨⟩
      · intro _ _
        rwa [hspawned]
      · intro _
        refine committees_eq_nil ?_
        rw [hpast, List.mem_append, not_or]
        exact ⟨hstart, by simp [requestOf]⟩
      · exact fun hcollected => absurd hcollected hgc
  | fires timer => refine ⟨?_, ?_, ?_⟩ <;> rintro cci ⟨⟩
  | finalizes _ _ => refine ⟨?_, ?_, ?_⟩ <;> rintro cci ⟨⟩

/-- A round that is finalized by its timer, undisturbed by other rounds. -/
private theorem timed_round (hP : P.Lawful) :
    ∃ (history : History G) (m : MeshSrv G), (server P).Run history m ∧
      Machine.Along (fun past m event =>
        NoSecondCall 1 m event ∧ NoLateRequest 1 past m event ∧ KeepsWaiting 1 m event) history ∧
      (∃ entry ∈ history, entry.event = .finalize 1) ∧ (committees 1 history).length = 1 := by
  have hgc : ¬ (1 : UInt64) + gcRoundWindow < 1 := by decide
  obtain ⟨history, m, hround⟩ :=
    server_run_round hP .nil hgc (MeshSrv.fresh_newMeshSrv 1) ["a"] (by simp) (by decide)
  obtain ⟨committee, hcommittees, -⟩ := hround.selects
  refine ⟨history, m, hround.run, ?_, ?_, by rw [hcommittees, List.length_singleton]⟩
  · exact hround.along _ Machine.along_nil fun past m event h =>
      h.conditions hgc List.not_mem_nil List.not_mem_nil
  · have hmem : .finalize 1 ∈ history.map Entry.event := by simp [hround.events]
    exact List.mem_map.1 hmem

theorem one_committee_timed :
    ∃ (history : History (ZMod (8 * l))) (m : MeshSrv (ZMod (8 * l))),
      (server cyclicPrimitives).Run history m ∧
      Machine.Along (fun _ => NoSecondCall 1) history ∧
      Machine.Along (NoLateRequest 1) history ∧ (committees 1 history).length = 1 ∧
      LateRequestsRefused 1 history := by
  obtain ⟨history, m, run, along, -, hlength⟩ := timed_round cyclicPrimitives_lawful
  have hsecond : Machine.Along (fun _ => NoSecondCall 1) history := along.imp fun _ _ _ h => h.1
  have hlate : Machine.Along (NoLateRequest 1) history := along.imp fun _ _ _ h => h.2.1
  exact ⟨history, m, run, hsecond, hlate, hlength, ((one_committee_iff run 1 hsecond).2 hlate).2⟩

/-- A request after the committee opens the round again. -/
private theorem reopened_round (hP : P.Lawful) :
    ∃ (history : History G) (m : MeshSrv G), (server P).Run history m ∧
      history.map Entry.event =
        [.handler (.requestCommittee (baseCandidate P 1 "a")), .handler (.timerFires 0),
          .finalize 1, .handler (.requestCommittee (baseCandidate P 1 "b")),
          .handler (.timerFires 1), .finalize 1] ∧
      (committees 1 history).length = 2 ∧ ¬ LateRequestsRefused 1 history := by
  have hgc : ¬ (1 : UInt64) + gcRoundWindow < 1 := by decide
  have hnew := MeshSrv.fresh_newMeshSrv (G := G) 1
  obtain ⟨first, m, hfirst⟩ := server_run_round hP .nil hgc hnew ["a"] (by simp) (by decide)
  obtain ⟨second, m', hsecond⟩ :=
    server_run_round hP hfirst.run hgc (hfirst.fresh 1 hnew) ["b"] (by simp) (by decide)
  obtain ⟨committee, hcommittees, -⟩ := hfirst.selects
  obtain ⟨committee', hcommittees', -⟩ := hsecond.selects
  have hevents := hsecond.events
  rw [hfirst.clock] at hevents
  refine ⟨first ++ second, m', hsecond.run, ?_, ?_, fun hrefused => ?_⟩
  · rw [List.map_append, hfirst.events, hevents]
    rfl
  · rw [committees_append, hcommittees, hcommittees']
    rfl
  · -- the second round begins with a request that is accepted
    obtain ⟨entry, rest, rfl, hentry, -⟩ := List.map_eq_cons_iff.1 hevents
    have hack := (hrefused first entry rest (baseCandidate P 1 "b") rfl hentry rfl
      (by rw [hcommittees]; simp)).1
    rw [ack_of_request (P := P) hsecond.run hentry] at hack
    cases hack

theorem two_committees_of_a_round :
    ∃ (history : History (ZMod (8 * l))) (m : MeshSrv (ZMod (8 * l))),
      (server cyclicPrimitives).Run history m ∧
      history.map Entry.event =
        [.handler (.requestCommittee (baseCandidate cyclicPrimitives 1 "a")),
          .handler (.timerFires 0), .finalize 1,
          .handler (.requestCommittee (baseCandidate cyclicPrimitives 1 "b")),
          .handler (.timerFires 1), .finalize 1] ∧
      (committees 1 history).length = 2 ∧ ¬ LateRequestsRefused 1 history :=
  reopened_round cyclicPrimitives_lawful

/-! ## No empty committee -/

/-- The candidates of a round wait for as long as a call is on the way. -/
structure Waiting (r : UInt64) (m : MeshSrv G) : Prop where
  single : m.schedule.Single r
  nonempty : ¬ m.schedule.Idle r → m.candidates r ≠ []

theorem waiting_step {r : UInt64} {pre post : MeshSrv G} {event : Event} {reply : Reply}
    (hwf : pre.WellFormed) (hwaiting : Waiting r pre) (hsecond : NoSecondCall r pre event)
    (hkeeps : KeepsWaiting r pre event) (h : pre.step P event = .ok (post, reply)) :
    Waiting r post := by
  refine ⟨MeshSrv.single_step hwf hwaiting.single hsecond h, fun hidle => ?_⟩
  have hbefore : (∀ cci, event = .handler (.requestCommittee cci) → cci.round ≠ r) →
      pre.candidates r ≠ [] := fun hnone =>
    hwaiting.nonempty fun hpre => hidle (MeshSrv.idle_step hwf hpre hnone h)
  cases event with
  | finalize round =>
      obtain ⟨hmem, processed, cos, hub, -, -, -, -, rfl⟩ := MeshSrv.step_finalize.1 h
      -- the round that is finalized is idle afterwards
      have hne : r ≠ round := by
        rintro rfl
        exact hidle (hwaiting.single.idle_run hmem)
      simpa [MeshSrv.candidates, MeshSrv.finalized, MeshSrv.started, GoMap.lookup_erase_eq, hne]
        using hbefore (by simp)
  | handler event =>
      cases MeshSrv.handle_effect h with
      | stream _ _ _ => exact hwaiting.nonempty hidle
      | @accepted cci _ _ haccepts =>
          by_cases heq : r = cci.round
          · subst heq
            rw [haccepts.candidates_self fun hgc => (hkeeps cci rfl hgc).1 rfl]
            simp
          · rw [haccepts.candidates_of_ne heq fun hgc => (hkeeps cci rfl hgc).2]
            apply hbefore
            rintro other ⟨⟩
            exact Ne.symm heq
      | refused _ => exact hwaiting.nonempty hidle
      | committed _ => exact hwaiting.nonempty hidle
      | fired _ => exact hbefore (by simp)

/-- A round that keeps its candidates and starts no second call is never
finalized with an empty list. -/
theorem committee_nonempty {history : History G} {m : MeshSrv G} (run : (server P).Run history m)
    (r : UInt64)
    (along : Machine.Along (fun _ m event => NoSecondCall r m event ∧ KeepsWaiting r m event)
      history) :
    ∀ entry ∈ history, entry.event = .finalize r →
      entry.pre.candidates r ≠ [] ∧ entry.post.nodeNumber ≠ 0 ∧
      ∃ msg, entry.reply.sent = some msg ∧ msg.nodeId ≠ [] := by
  rintro ⟨pre, event, reply, post⟩ hentry rfl
  obtain ⟨past, future, rfl⟩ := List.append_of_mem hentry
  obtain ⟨hpast, hstep⟩ := run.split
  have hwaiting : Waiting r pre := by
    refine hpast.invariant (I := fun _ m => Waiting r m) along.of_append
      ⟨single_newMeshSrv r, fun hidle => absurd ?_ hidle⟩ ?_
    · exact ⟨List.not_mem_nil, fun t => by simp [MeshSrv.schedule, MeshSrv.newMeshSrv, server]⟩
    · intro history pre event post reply hrun hwaiting hcond hstep
      exact waiting_step (server_run_wellFormed hrun) hwaiting hcond.1 hcond.2 hstep
  obtain ⟨hmem, processed, cos, hub, -, -, -, hreply, hpost⟩ := MeshSrv.step_finalize.1 hstep
  have hne := hwaiting.nonempty fun hidle => hidle.1 hmem
  refine ⟨hne, ?_, _, by rw [hreply], ?_⟩
  · rw [hpost]
    exact fun h => hne (List.length_eq_zero_iff.1 h)
  · exact fun h => hne (List.map_eq_nil_iff.1 h)

theorem committee_nonempty_timed :
    ∃ (history : History (ZMod (8 * l))) (m : MeshSrv (ZMod (8 * l))),
      (server cyclicPrimitives).Run history m ∧
      Machine.Along (fun _ m event => NoSecondCall 1 m event ∧ KeepsWaiting 1 m event) history ∧
      ∃ entry ∈ history, entry.event = .finalize 1 ∧ entry.pre.candidates 1 ≠ [] ∧
        entry.post.nodeNumber ≠ 0 ∧ ∃ msg, entry.reply.sent = some msg ∧ msg.nodeId ≠ [] := by
  obtain ⟨history, m, run, along, ⟨entry, hentry, hevent⟩, -⟩ :=
    timed_round cyclicPrimitives_lawful
  have along : Machine.Along (fun _ m event => NoSecondCall 1 m event ∧ KeepsWaiting 1 m event)
    history := along.imp fun _ _ _ h => ⟨h.1, h.2.2⟩
  exact ⟨history, m, run, along, entry, hentry, hevent,
    committee_nonempty run 1 along entry hentry hevent⟩

/-- A newer round collects the candidates of a waiting one, whose timer then
finalizes nobody. -/
private theorem collected_round :
    ∃ (history : History G) (m : MeshSrv G), (server P).Run history m ∧
      history.map Entry.event =
        [.handler (.requestCommittee (baseCandidate P 1 "a")),
          .handler (.requestCommittee (baseCandidate P 6 "b")), .handler (.timerFires 0),
          .finalize 1] ∧
      (committees 1 history).map FinalizedCommittee.nodeId = [[]] ∧ m.nodeNumber = 0 := by
  have run := (Machine.Run.nil (M := server P)).next
    (.handler (.requestCommittee (baseCandidate P 1 "a"))) rfl
  have run := run.next (.handler (.requestCommittee (baseCandidate P 6 "b"))) rfl
  have run := run.next (.handler (.timerFires 0)) rfl
  have run := server_run_finalize run 1 (List.mem_singleton_self _) rfl
    (newCosigners_eq (P := P) rfl) rfl
  exact ⟨_, _, run, rfl, rfl, rfl⟩

theorem empty_committee :
    ∃ (history : History (ZMod (8 * l))) (m : MeshSrv (ZMod (8 * l))),
      (server cyclicPrimitives).Run history m ∧
      history.map Entry.event =
        [.handler (.requestCommittee (baseCandidate cyclicPrimitives 1 "a")),
          .handler (.requestCommittee (baseCandidate cyclicPrimitives 6 "b")),
          .handler (.timerFires 0), .finalize 1] ∧
      (committees 1 history).map FinalizedCommittee.nodeId = [[]] ∧ m.nodeNumber = 0 :=
  collected_round

end MeshCosi.Network
