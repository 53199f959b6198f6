import MeshCosi.Cosi.Aggregate
import MeshCosi.Network.Registry
import MeshCosi.Network.Server

/-!
# What each handler does

One statement for each handler and for the two parts of `tryFinalize`, and one
for every event of the server.  The results about runs are proved from these,
not from the definitions.

* `RequestCommittee` refuses a round that is marked (`requestCommittee_refuses`) and
  accepts any other.  `Accepts` has one field for each part of the state; the
  timers and the waiting calls are taken together as a `Schedule`.
* `tryFinalize` is `startFinalize` and `finishFinalize`.  It completes exactly if the
  processed map is there, the keys decode and the broadcast completes
  (`tryFinalize_eq_ok`), and then there is one state and one message.
* `RequestAggregatedCommit` has three outcomes: the commit is stored, there is no
  committee, or the commits are summed and removed.  What it never touches is
  `requestAggregatedCommit_frame`.

`HandlerEffect` collects them: a proof about all handlers is one `cases` over its
five constructors, of which `stream` stands for the five events of the streams.
-/

namespace MeshCosi.Network

open Foundation Ed25519 Cosi

variable {G : Type}

namespace MeshSrv

/-- The timers and the waiting `tryFinalize` calls. -/
def schedule (m : MeshSrv G) : Schedule UInt64 := ⟨m.timers, m.clock, m.spawned⟩

/-- The candidate of a request completes the committee of its round. -/
def ReachesThreshold (m : MeshSrv G) (cci : CommitteeCandidateInfo) : Prop :=
  threshold ≤ (m.candidates cci.round).length + 1

instance (m : MeshSrv G) (cci : CommitteeCandidateInfo) : Decidable (m.ReachesThreshold cci) :=
  inferInstanceAs (Decidable (_ ≤ _))

/-! ## `RequestCommittee` -/

/-- The comparison of `gcOldRounds`, in numbers. -/
theorem add_gcRoundWindow_lt_iff {r cur : UInt64} :
    r + gcRoundWindow < cur ↔ (r.toNat + gcRoundWindow.toNat) % 2 ^ 64 < cur.toNat := by
  rw [UInt64.lt_iff_toNat_lt, UInt64.toNat_add]

/-- A request that is answered with true. -/
structure Accepts (m : MeshSrv G) (cci : CommitteeCandidateInfo) (post : MeshSrv G) : Prop where
  hub : post.hub = m.hub
  processed : post.processed = some (m.processed.getD ∅)
  cosigners : post.cosigners = none
  nodeNumber : post.nodeNumber = m.nodeNumber
  commitData : post.commitData = m.commitData
  committeeCandidates : ∀ r, post.committeeCandidates.lookup r =
    if r + gcRoundWindow < cci.round then none
    else if r = cci.round then some (m.candidates r ++ [cci])
    else m.committeeCandidates.lookup r
  schedule : post.schedule =
    if m.ReachesThreshold cci then (m.schedule.arm cci.round).spawn cci.round
    else m.schedule.arm cci.round

theorem Accepts.candidates_self {m post : MeshSrv G} {cci : CommitteeCandidateInfo}
    (haccepts : m.Accepts cci post) (hgc : ¬ cci.round + gcRoundWindow < cci.round) :
    post.candidates cci.round = m.candidates cci.round ++ [cci] := by
  rw [candidates, haccepts.committeeCandidates, if_neg hgc, if_pos rfl, Option.getD_some]

theorem Accepts.candidates_of_ne {m post : MeshSrv G} {cci : CommitteeCandidateInfo}
    {r : UInt64} (haccepts : m.Accepts cci post) (hne : r ≠ cci.round)
    (hgc : r + gcRoundWindow < cci.round → m.candidates r = []) :
    post.candidates r = m.candidates r := by
  rw [candidates, haccepts.committeeCandidates]
  split_ifs with hold
  · exact (hgc hold).symm
  · rfl

theorem armTimer_eq (m : MeshSrv G) (r : UInt64) :
    m.armTimer r = { m with
      timers := (m.schedule.arm r).timers
      clock := (m.schedule.arm r).clock } := by
  cases h : m.timers.lookup r <;> simp [armTimer, Schedule.arm, schedule, h]

/-- `appendCandidate` on a round that is not marked. -/
theorem appendCandidate_eq {m : MeshSrv G} {cci : CommitteeCandidateInfo}
    (h : m.isProcessed cci.round = false) :
    ∃ post, m.appendCandidate cci = .ok (post, true) ∧
      post.schedule = (if m.ReachesThreshold cci
        then (m.schedule.arm cci.round).spawn cci.round else m.schedule.arm cci.round) ∧
      post = { m.initMaps.addCandidate cci with
        timers := post.timers
        clock := post.clock
        spawned := post.spawned } := by
  obtain ⟨t, ht⟩ := m.schedule.exists_lookup_arm cci.round
  have hprocessed : m.initMaps.isProcessed cci.round = false := h
  have harm : (m.initMaps.addCandidate cci).schedule.arm cci.round = m.schedule.arm cci.round := rfl
  have hspawned : (m.schedule.arm cci.round).spawned = m.spawned := Schedule.arm_spawned _ _
  have hcands : ((m.initMaps.addCandidate cci).armTimer cci.round).candidates cci.round =
      m.candidates cci.round ++ [cci] := by
    simp [armTimer_eq, candidates, addCandidate, initMaps]
  simp only [appendCandidate, hprocessed, Bool.false_eq_true, if_false, hcands, List.length_append,
    List.length_singleton]
  rw [armTimer_eq, harm]
  -- the timer that `Stop` is called on is there: it has just been armed
  by_cases hfull : m.ReachesThreshold cci
  · rw [if_pos hfull, if_pos (show threshold ≤ _ from hfull), ht, deref_some, ok_bind]
    refine ⟨_, rfl, ?_, rfl⟩
    simp only [schedule, Schedule.spawn]
    simp only [schedule] at ht hspawned
    rw [ht, hspawned]
    rfl
  · rw [if_neg hfull, if_neg (show ¬ threshold ≤ _ from hfull)]
    refine ⟨_, rfl, ?_, rfl⟩
    exact congrArg (Schedule.mk _ _) hspawned.symm

theorem requestCommittee_refuses {m : MeshSrv G} {cci : CommitteeCandidateInfo}
    (h : m.isProcessed cci.round = true) :
    m.requestCommittee cci = .ok ({ m with
      cosigners := none
      processed := some (m.processed.getD ∅) }, false) := by
  have hprocessed :
      (initMaps (G := G) { m with cosigners := none }).isProcessed cci.round = true := h
  simp only [requestCommittee, appendCandidate, hprocessed, if_true, ok_bind]
  rfl

theorem requestCommittee_accepts {m : MeshSrv G} {cci : CommitteeCandidateInfo}
    (h : m.isProcessed cci.round = false) :
    ∃ post, m.requestCommittee cci = .ok (post, true) ∧ m.Accepts cci post := by
  have hprocessed : isProcessed (G := G) { m with cosigners := none } cci.round = false := h
  obtain ⟨post, hpost, hschedule, hfields⟩ := appendCandidate_eq hprocessed
  refine ⟨post.gcOldRounds cci.round, ?_, ?_⟩
  · simp only [requestCommittee, hpost, ok_bind]
    rfl
  · rw [hfields]
    refine ⟨rfl, rfl, rfl, rfl, rfl, fun r => ?_, hschedule⟩
    simp only [gcOldRounds, GoMap.lookup_deleteIf, decide_eq_true_eq, addCandidate, initMaps,
      GoMap.lookup_insert_eq]
    split_ifs with hold hr
    · rfl
    · rw [hr]
      rfl
    · rfl

/-! ## `tryFinalize` -/

variable [AddCommGroup G] {P : Primitives G}

/-- What the committee message holds as its aggregated commit: the encoded sum of
the commits, and nothing when one of them does not decode. -/
def encodedSum (P : Primitives G) (commits : List Bytes) : Bytes :=
  ((P.decodeSum commits).map fun A => (P.toBytes A).toList).getD []

/-- The committee of a candidate list, given the cosigners made from its keys. -/
def committee (P : Primitives G) (round : UInt64) (cands : List CommitteeCandidateInfo)
    (cos : Cosigners G) : FinalizedCommittee where
  round := round
  nodeId := cands.map (·.nodeId)
  aggregatedCommit := encodedSum P (cands.map (·.commit))
  aggregatedPubKey := cos.aggregatePublicKey P
  publicKeys := cands.map (·.publicKey)

/-- The state after a finalization. -/
def finalized (m : MeshSrv G) (round : UInt64) (cos : Cosigners G)
    (hub : Hub FinalizedCommittee) : MeshSrv G :=
  { m with
    hub := hub
    cosigners := some cos
    committeeCandidates := m.committeeCandidates.erase round
    processed := m.processed.map (·.erase round) }

theorem finishFinalize_of_nil {m : MeshSrv G} {round : UInt64} {cands : List CommitteeCandidateInfo}
    (h : newCosigners P (cands.map (·.publicKey)) none = none) :
    m.finishFinalize P round cands = .error .nilDereference := by
  simp only [finishFinalize, h, deref_none]
  rfl

theorem finishFinalize_of_some {m : MeshSrv G} {round : UInt64}
    {cands : List CommitteeCandidateInfo} {cos : Cosigners G}
    (h : newCosigners P (cands.map (·.publicKey)) none = some cos) :
    m.finishFinalize P round cands =
      (m.hub.broadcast (committee P round cands cos)).map fun hub =>
        (m.finalized round cos hub, committee P round cands cos) := by
  -- there is a commit for every key, so the loop of `AggregateCommit` stays in bounds
  have hlength : cos.keys.length = (cands.map (·.commit)).length := by
    rw [(eq_ofKeys_of_newCosigners h).2, List.length_map, List.length_map]
  simp only [finishFinalize, h, deref_some, ok_bind, cos.aggregateCommit_eq hlength.le, hlength,
    List.take_length]
  change (m.hub.broadcast (committee P round cands cos) >>= _) = _
  cases m.hub.broadcast (committee P round cands cos) <;> rfl

/-- A finalization that completes has built cosigners and broadcast their committee. -/
theorem finishFinalize_eq_ok {m post : MeshSrv G} {round : UInt64}
    {cands : List CommitteeCandidateInfo} {msg : FinalizedCommittee} :
    m.finishFinalize P round cands = .ok (post, msg) ↔
      ∃ cos hub, newCosigners P (cands.map (·.publicKey)) none = some cos ∧
        msg = committee P round cands cos ∧ m.hub.broadcast msg = .ok hub ∧
        post = m.finalized round cos hub := by
  cases hcos : newCosigners P (cands.map (·.publicKey)) none with
  | none => simp [finishFinalize_of_nil hcos]
  | some cos =>
      rw [finishFinalize_of_some hcos]
      cases hhub : m.hub.broadcast (committee P round cands cos) with
      | error cause =>
          simp only [Except.map, reduceCtorEq, false_iff]
          rintro ⟨cos', hub, hcos', rfl, hhub', -⟩
          rw [Option.some.injEq] at hcos'
          rw [← hcos', hhub] at hhub'
          cases hhub'
      | ok hub =>
          simp only [Except.map, Except.ok.injEq, Prod.mk.injEq]
          constructor
          · rintro ⟨rfl, rfl⟩
            exact ⟨cos, hub, rfl, rfl, hhub, rfl⟩
          · rintro ⟨cos', hub', hcos', rfl, hhub', rfl⟩
            rw [Option.some.injEq] at hcos'
            subst hcos'
            rw [hhub, Except.ok.injEq] at hhub'
            exact ⟨by rw [hhub'], rfl⟩

/-- The state in which a finalization builds its committee. -/
def started (m : MeshSrv G) (round : UInt64) (processed : GoMap UInt64 Bool) : MeshSrv G :=
  { m with
    processed := some (processed.insert round true)
    timers := m.timers.erase round
    nodeNumber := (m.candidates round).length }

theorem tryFinalize_eq {m : MeshSrv G} {round : UInt64} {processed : GoMap UInt64 Bool}
    (h : m.processed = some processed) :
    m.tryFinalize P round =
      (m.started round processed).finishFinalize P round (m.candidates round) := by
  simp only [tryFinalize, startFinalize, h, ok_bind]
  rfl

theorem tryFinalize_eq_ok {m post : MeshSrv G} {round : UInt64} {msg : FinalizedCommittee} :
    m.tryFinalize P round = .ok (post, msg) ↔
      ∃ processed cos hub, m.processed = some processed ∧
        newCosigners P ((m.candidates round).map (·.publicKey)) none = some cos ∧
        msg = committee P round (m.candidates round) cos ∧ m.hub.broadcast msg = .ok hub ∧
        post = (m.started round processed).finalized round cos hub := by
  cases hprocessed : m.processed with
  | none => simp [tryFinalize, startFinalize, hprocessed, bind, Except.bind]
  | some processed =>
      rw [tryFinalize_eq hprocessed, finishFinalize_eq_ok]
      simp only [Option.some.injEq, exists_and_left, exists_eq_left']
      rfl

/-! ## `RequestAggregatedCommit` -/

/-- The commits of the request's round, with the request's own. -/
def collected (m : MeshSrv G) (cd : CommitData) : List CommitData := m.commits cd.round ++ [cd]

/-- The state after a request has been stored. -/
def stored (m : MeshSrv G) (cd : CommitData) : MeshSrv G :=
  { m with commitData := m.commitData.insert cd.round (m.collected cd) }

/-- What is broadcast when the commits of a round are complete. -/
def aggregation (P : Primitives G) (m : MeshSrv G) (cd : CommitData) (cos : Cosigners G) :
    FinalizedCommittee where
  round := cd.round
  nodeId := []
  aggregatedCommit := encodedSum P (((m.collected cd).map (·.commit)).take cos.keys.length)
  aggregatedPubKey := []
  publicKeys := []

/-- With exactly as many commits as there are keys, all of them are summed. -/
theorem aggregation_eq {m : MeshSrv G} {cd : CommitData} {cos : Cosigners G}
    (hcount : (m.collected cd).length = cos.keys.length) :
    aggregation P m cd cos =
      ⟨cd.round, [], encodedSum P ((m.collected cd).map (·.commit)), [], []⟩ := by
  have htake : ((m.collected cd).map (·.commit)).take cos.keys.length =
      (m.collected cd).map (·.commit) := by
    apply List.take_of_length_le
    rw [List.length_map, hcount]
  rw [aggregation, htake]

omit [AddCommGroup G] in
theorem commits_stored (m : MeshSrv G) (cd : CommitData) :
    (m.stored cd).commits cd.round = m.collected cd := by
  simp [stored, commits]

omit [AddCommGroup G] in
theorem length_collected (m : MeshSrv G) (cd : CommitData) :
    (m.collected cd).length = (m.commits cd.round).length + 1 := by
  rw [collected, List.length_append, List.length_singleton]

omit [AddCommGroup G] in
/-- Removing the commits of a round forgets the one that was stored. -/
theorem stored_erase (m : MeshSrv G) (cd : CommitData) :
    (m.stored cd).commitData.erase cd.round = m.commitData.erase cd.round :=
  GoMap.erase_insert _ _ _

theorem requestAggregatedCommit_of_lt {m : MeshSrv G} {cd : CommitData}
    (h : (m.collected cd).length < m.nodeNumber) :
    m.requestAggregatedCommit P cd = .ok (m.stored cd, none) := by
  change (if ((m.stored cd).commits cd.round).length < m.nodeNumber then _ else _) = _
  rw [commits_stored, if_pos h]
  rfl

/-- The commits of the round are complete and there is no committee. -/
theorem requestAggregatedCommit_of_nil {m : MeshSrv G} {cd : CommitData}
    (h : m.nodeNumber ≤ (m.collected cd).length) (hnil : m.cosigners = none) :
    m.requestAggregatedCommit P cd = .error .nilDereference := by
  change (if ((m.stored cd).commits cd.round).length < m.nodeNumber then _ else _) = _
  rw [commits_stored, if_neg (Nat.not_lt.2 h), hnil]
  rfl

/-- The commits of the round are complete and there is one for every key. -/
theorem requestAggregatedCommit_of_some {m : MeshSrv G} {cd : CommitData} {cos : Cosigners G}
    (h : m.nodeNumber ≤ (m.collected cd).length) (hcos : m.cosigners = some cos)
    (hkeys : cos.keys.length ≤ (m.collected cd).length) :
    m.requestAggregatedCommit P cd =
      (m.hub.broadcast (aggregation P m cd cos)).map fun hub =>
        ({ m with hub := hub, commitData := m.commitData.erase cd.round },
          some (aggregation P m cd cos)) := by
  have hlength : cos.keys.length ≤ ((m.collected cd).map (·.commit)).length := by
    rw [List.length_map]
    exact hkeys
  have haggregate := cos.aggregateCommit_eq (P := P) hlength
  have hderef : deref m.cosigners = .ok cos := by rw [hcos, deref_some]
  have hcommits := commits_stored m cd
  -- the list is set to nil and then deleted
  have herase : ((m.stored cd).commitData.insert cd.round []).erase cd.round =
      m.commitData.erase cd.round := by
    rw [GoMap.erase_insert, stored_erase]
  simp only [stored, collected] at hcommits herase
  simp only [requestAggregatedCommit, hcommits, herase, hderef, ok_bind]
  rw [if_neg (show ¬ (m.commits cd.round ++ [cd]).length < _ from Nat.not_lt.2 h)]
  change (cos.aggregateCommit P ((m.collected cd).map (·.commit)) >>= _) = _
  rw [haggregate, ok_bind]
  change (m.hub.broadcast (aggregation P m cd cos) >>= _) = _
  cases m.hub.broadcast (aggregation P m cd cos) <;> rfl

/-- Whatever `RequestAggregatedCommit` does, it only changes the stored commits
and, when it broadcasts, the channels. -/
theorem requestAggregatedCommit_frame {m post : MeshSrv G} {cd : CommitData}
    {sent : Option FinalizedCommittee} (h : m.requestAggregatedCommit P cd = .ok (post, sent)) :
    ∃ hub commitData, post = { m with hub := hub, commitData := commitData } ∧
      (sent = none ∧ hub = m.hub ∨ ∃ msg, sent = some msg ∧ m.hub.broadcast msg = .ok hub) := by
  by_cases hlt : (m.collected cd).length < m.nodeNumber
  · rw [requestAggregatedCommit_of_lt hlt, Except.ok.injEq, Prod.mk.injEq] at h
    exact ⟨m.hub, _, h.1.symm, .inl ⟨h.2.symm, rfl⟩⟩
  · change (if ((m.stored cd).commits cd.round).length < m.nodeNumber then _ else _) = _ at h
    rw [commits_stored, if_neg hlt, bind_eq_ok] at h
    obtain ⟨cos, -, h⟩ := h
    obtain ⟨aggCommit, -, h⟩ := bind_eq_ok.1 h
    obtain ⟨hub, hhub, h⟩ := bind_eq_ok.1 h
    cases h
    exact ⟨hub, _, rfl, .inr ⟨_, rfl, hhub⟩⟩

end MeshSrv

/-! ## Every event -/

/-- The event of the subscriptions that a stream event of the server is. -/
def HandlerEvent.hubEvent : HandlerEvent → Option (HubEvent FinalizedCommittee)
  | .joinNetwork nodeId => some (.join nodeId)
  | .leaveNetwork nodeId => some (.leave nodeId)
  | .receive i => some (.receive i)
  | .remove i => some (.remove i)
  | .close i => some (.close i)
  | _ => none

variable [AddCommGroup G] {P : Primitives G}

/-- What a handler event does to the server. -/
inductive HandlerEffect (m : MeshSrv G) : HandlerEvent → MeshSrv G → Reply → Prop
  /-- A stream event; the end of a cleanup also replaces the processed map. -/
  | stream {event : HandlerEvent} {hubEvent : HubEvent FinalizedCommittee}
      {hub : Hub FinalizedCommittee} {processed : Option (GoMap UInt64 Bool)} {ack : Option Bool}
      (hevent : event.hubEvent = some hubEvent) (hstep : m.hub.step hubEvent = .ok hub)
      (hprocessed : processed = m.processed ∨ (∃ i, event = .close i) ∧ processed = some ∅) :
      HandlerEffect m event { m with hub := hub, processed := processed } ⟨ack, none⟩
  | accepted {cci : CommitteeCandidateInfo} {post : MeshSrv G}
      (hprocessed : m.isProcessed cci.round = false) (haccepts : m.Accepts cci post) :
      HandlerEffect m (.requestCommittee cci) post ⟨some true, none⟩
  | refused {cci : CommitteeCandidateInfo} (hprocessed : m.isProcessed cci.round = true) :
      HandlerEffect m (.requestCommittee cci)
        { m with cosigners := none, processed := some (m.processed.getD ∅) } ⟨some false, none⟩
  | committed {cd : CommitData} {hub : Hub FinalizedCommittee}
      {commitData : GoMap UInt64 (List CommitData)} {sent : Option FinalizedCommittee}
      (hsent : sent = none ∧ hub = m.hub ∨ ∃ msg, sent = some msg ∧ m.hub.broadcast msg = .ok hub) :
      HandlerEffect m (.requestAggregatedCommit cd)
        { m with hub := hub, commitData := commitData } ⟨some true, sent⟩
  | fired {t : ℕ} {round : UInt64} (hclock : m.clock[t]? = some ⟨round, .armed⟩) :
      HandlerEffect m (.timerFires t)
        { m with clock := m.clock.set t ⟨round, .fired⟩, spawned := m.spawned ++ [round] }
        ⟨none, none⟩

omit [AddCommGroup G] in
/-- A request keeps the candidates of a round that it does not collect. -/
theorem HandlerEffect.candidates {m post : MeshSrv G} {event : HandlerEvent} {reply : Reply}
    (h : HandlerEffect m event post reply) (round : UInt64) :
    post.candidates round = m.candidates round ∨
    ∃ cci, event = .requestCommittee cci ∧ reply.ack = some true ∧
      m.isProcessed cci.round = false ∧ post.candidates round =
        if round + gcRoundWindow < cci.round then []
        else if round = cci.round then m.candidates round ++ [cci] else m.candidates round := by
  cases h with
  | stream _ _ _ => exact .inl rfl
  | @accepted cci _ hprocessed haccepts =>
      refine .inr ⟨cci, rfl, rfl, hprocessed, ?_⟩
      rw [MeshSrv.candidates, haccepts.committeeCandidates]
      split_ifs <;> rfl
  | refused _ => exact .inl rfl
  | committed _ => exact .inl rfl
  | fired _ => exact .inl rfl

theorem MeshSrv.handle_effect {m post : MeshSrv G} {event : HandlerEvent} {reply : Reply}
    (h : m.handle P event = .ok (post, reply)) : HandlerEffect m event post reply := by
  cases event with
  | joinNetwork nodeId =>
      cases h
      exact .stream rfl rfl (.inl rfl)
  | leaveNetwork nodeId =>
      obtain ⟨hub, hhub, h⟩ := map_eq_ok.1 h
      cases h
      exact .stream rfl hhub (.inl rfl)
  | receive i =>
      obtain ⟨hub, hhub, h⟩ := map_eq_ok.1 h
      cases h
      exact .stream rfl hhub (.inl rfl)
  | remove i =>
      obtain ⟨hub, hhub, h⟩ := map_eq_ok.1 h
      cases h
      exact .stream rfl hhub (.inl rfl)
  | close i =>
      obtain ⟨hub, hhub, h⟩ := map_eq_ok.1 h
      cases h
      exact .stream rfl hhub (.inr ⟨⟨i, rfl⟩, rfl⟩)
  | requestCommittee cci =>
      obtain ⟨result, hresult, h⟩ := map_eq_ok.1 h
      rw [Go.run_eq_ok] at hresult
      cases hprocessed : m.isProcessed cci.round with
      | false =>
          obtain ⟨accepted, haccepted, haccepts⟩ := MeshSrv.requestCommittee_accepts hprocessed
          rw [haccepted, Except.ok.injEq] at hresult
          subst hresult
          cases h
          exact .accepted hprocessed haccepts
      | true =>
          rw [MeshSrv.requestCommittee_refuses hprocessed, Except.ok.injEq] at hresult
          subst hresult
          cases h
          exact .refused hprocessed
  | requestAggregatedCommit cd =>
      obtain ⟨⟨after, sent⟩, hresult, h⟩ := map_eq_ok.1 h
      rw [Go.run_eq_ok] at hresult
      obtain ⟨hub, commitData, rfl, hsent⟩ := MeshSrv.requestAggregatedCommit_frame hresult
      cases h
      exact .committed hsent
  | timerFires t =>
      rw [MeshSrv.handle] at h
      split at h
      · next round hclock =>
          cases h
          exact .fired hclock
      · cases h

/-- A request for a round that is not marked is accepted. -/
theorem MeshSrv.step_requestCommittee {m : MeshSrv G} {cci : CommitteeCandidateInfo}
    (h : m.isProcessed cci.round = false) :
    ∃ post, m.step P (.handler (.requestCommittee cci)) = .ok (post, ⟨some true, none⟩) ∧
      m.Accepts cci post := by
  obtain ⟨post, hpost, haccepts⟩ := MeshSrv.requestCommittee_accepts h
  refine ⟨post, ?_, haccepts⟩
  rw [MeshSrv.step, MeshSrv.handle, hpost]
  rfl

/-- An armed timer can fire. -/
theorem MeshSrv.step_timerFires {m : MeshSrv G} {t : ℕ} {round : UInt64}
    (h : m.clock[t]? = some ⟨round, .armed⟩) :
    m.step P (.handler (.timerFires t)) = .ok ({ m with
      clock := m.clock.set t ⟨round, .fired⟩
      spawned := m.spawned ++ [round] }, ⟨none, none⟩) := by
  rw [MeshSrv.step, MeshSrv.handle, h]

theorem MeshSrv.step_requestAggregatedCommit {m post : MeshSrv G} {cd : CommitData}
    {reply : Reply} :
    m.step P (.handler (.requestAggregatedCommit cd)) = .ok (post, reply) ↔
      ∃ sent, m.requestAggregatedCommit P cd = .ok (post, sent) ∧ reply = ⟨some true, sent⟩ := by
  rw [MeshSrv.step, MeshSrv.handle, map_eq_ok]
  constructor
  · rintro ⟨⟨after, sent⟩, hresult, h⟩
    cases h
    exact ⟨sent, Go.run_eq_ok.1 hresult, rfl⟩
  · rintro ⟨sent, hresult, rfl⟩
    exact ⟨_, Go.run_eq_ok.2 hresult, rfl⟩

/-- A completed `tryFinalize` step. -/
theorem MeshSrv.step_finalize {m post : MeshSrv G} {round : UInt64} {reply : Reply} :
    m.step P (.finalize round) = .ok (post, reply) ↔
      round ∈ m.spawned ∧ ∃ processed cos hub, m.processed = some processed ∧
        newCosigners P ((m.candidates round).map (·.publicKey)) none = some cos ∧
        m.hub.broadcast (MeshSrv.committee P round (m.candidates round) cos) = .ok hub ∧
        reply = ⟨none, some (MeshSrv.committee P round (m.candidates round) cos)⟩ ∧
        post = MeshSrv.finalized
          (MeshSrv.started { m with spawned := m.spawned.erase round } round processed)
          round cos hub := by
  rw [MeshSrv.step]
  split_ifs with hmem
  · rw [map_eq_ok]
    constructor
    · rintro ⟨⟨after, msg⟩, hresult, h⟩
      rw [Go.run_eq_ok] at hresult
      obtain ⟨processed, cos, hub, hprocessed, hcos, rfl, hhub, rfl⟩ :=
        MeshSrv.tryFinalize_eq_ok.1 hresult
      cases h
      exact ⟨hmem, processed, cos, hub, hprocessed, hcos, hhub, rfl, rfl⟩
    · rintro ⟨-, processed, cos, hub, hprocessed, hcos, hhub, rfl, rfl⟩
      refine ⟨_, Go.run_eq_ok.2 (MeshSrv.tryFinalize_eq_ok.2
        ⟨processed, cos, hub, hprocessed, hcos, rfl, hhub, rfl⟩), rfl⟩
  · simp [hmem]

end MeshCosi.Network
