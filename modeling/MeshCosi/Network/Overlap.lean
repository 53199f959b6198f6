import MeshCosi.Network.Invariants

/-!
# Overlapping finalizations

`tryFinalize` is not protected by the lock.  Here each call takes two steps:
the start marks the round and copies its candidate list, the finish aggregates
and broadcasts the copy and deletes the list and the mark.  Candidates that
arrive in between are protected by the mark alone, and the mark is removed by
the first finish and by every stream that ends.

An accepted candidate can be in four places, and `Accounted` is their disjunction:

```text
waiting  --start-->  waiting and in a copy  --finish-->  broadcast
waiting  --request of a much later round-->  collected
```

The finish deletes the waiting list whether or not its copy is complete.  A
candidate is lost when it is accepted between the start and the finish, which the
mark is meant to prevent.  `RefusedWhileRunning` says that it does; then a copy has
every waiting candidate of its round (`CopiesComplete`), and each place leads to
another (`accounted_step_of_waiting`, `accounted_step_of_copy`).  Without it there is
a run that loses a candidate.
-/

namespace MeshCosi.Network

open Foundation Ed25519 Cosi

variable {G : Type}

/-- The server with the `tryFinalize` calls that have started and not finished. -/
structure SplitSrv (G : Type) where
  srv : MeshSrv G
  /-- The round of each call and its copy of the candidate list. -/
  running : List (UInt64 × List CommitteeCandidateInfo)

/-- What can happen to the server when a `tryFinalize` call takes two steps. -/
inductive SplitEvent where
  | handler (event : HandlerEvent)
  | start (round : UInt64)
  | finish (call : ℕ)

variable [AddCommGroup G] (P : Primitives G)

/-- One event. -/
def SplitSrv.step (s : SplitSrv G) : SplitEvent → Except (Halt Panic) (SplitSrv G × Reply)
  | .handler event =>
      (s.srv.handle P event).map fun result => ({ s with srv := result.1 }, result.2)
  | .start round =>
      if round ∈ s.srv.spawned then
        (MeshSrv.startFinalize { s.srv with spawned := s.srv.spawned.erase round } round).run.map
          fun result => (⟨result.1, s.running ++ [(round, result.2)]⟩, ⟨none, none⟩)
      else .error .blocked
  | .finish call =>
      match s.running[call]? with
      | none => .error .blocked
      | some (round, cands) =>
          (s.srv.finishFinalize P round cands).run.map
            fun result => (⟨result.1, s.running.eraseIdx call⟩, ⟨none, some result.2⟩)

/-- The server with overlapping `tryFinalize` calls. -/
def splitServer : Machine (SplitSrv G) SplitEvent Reply Panic where
  init := ⟨.newMeshSrv, []⟩
  step := SplitSrv.step P

/-- A history of the server with overlapping calls. -/
abbrev SplitHistory (G : Type) := List (Entry (SplitSrv G) SplitEvent Reply)

variable {P}

/-! ## What the two steps do -/

theorem SplitSrv.step_handler {s post : SplitSrv G} {event : HandlerEvent} {reply : Reply}
    (h : s.step P (.handler event) = .ok (post, reply)) :
    post.running = s.running ∧ HandlerEffect s.srv event post.srv reply := by
  obtain ⟨⟨srv, reply'⟩, hresult, h⟩ := map_eq_ok.1 h
  cases h
  exact ⟨rfl, MeshSrv.handle_effect hresult⟩

theorem SplitSrv.step_start {s post : SplitSrv G} {round : UInt64} {reply : Reply}
    (h : s.step P (.start round) = .ok (post, reply)) :
    post.running = s.running ++ [(round, s.srv.candidates round)] ∧
      post.srv.committeeCandidates = s.srv.committeeCandidates := by
  rw [SplitSrv.step] at h
  split_ifs at h
  obtain ⟨⟨srv, cands⟩, hresult, h⟩ := map_eq_ok.1 h
  rw [Go.run_eq_ok, MeshSrv.startFinalize] at hresult
  split at hresult <;> cases hresult
  cases h
  exact ⟨rfl, rfl⟩

theorem SplitSrv.step_finish {s post : SplitSrv G} {call : ℕ} {reply : Reply}
    (h : s.step P (.finish call) = .ok (post, reply)) :
    ∃ round cands cos, s.running[call]? = some (round, cands) ∧
      post.running = s.running.eraseIdx call ∧
      post.srv.committeeCandidates = s.srv.committeeCandidates.erase round ∧
      reply = ⟨none, some (MeshSrv.committee P round cands cos)⟩ := by
  rw [SplitSrv.step] at h
  split at h
  · cases h
  next round cands hrunning =>
    obtain ⟨⟨srv, msg⟩, hresult, h⟩ := map_eq_ok.1 h
    rw [Go.run_eq_ok] at hresult
    obtain ⟨cos, hub, -, rfl, -, rfl⟩ := MeshSrv.finishFinalize_eq_ok.1 hresult
    cases h
    exact ⟨round, cands, cos, hrunning, rfl, rfl, rfl⟩

/-- A run of the server is a run in which every call finishes right after its start. -/
theorem split_run_of_run {history : History G} {m : MeshSrv G} (run : (server P).Run history m) :
    ∃ split : SplitHistory G, (splitServer P).Run split ⟨m, []⟩ := by
  induction run with
  | nil => exact ⟨[], .nil⟩
  | @snoc history pre post event reply run hstep ih =>
      obtain ⟨split, hsplit⟩ := ih
      cases event with
      | handler event =>
          exact ⟨_, hsplit.next (.handler event) (map_eq_ok.2 ⟨_, hstep, rfl⟩)⟩
      | finalize round =>
          obtain ⟨hmem, processed, cos, hub, hprocessed, hcos, hhub, rfl, rfl⟩ :=
            MeshSrv.step_finalize.1 hstep
          have hstart : (splitServer P).step ⟨pre, []⟩ (.start round) =
              .ok (⟨MeshSrv.started { pre with spawned := pre.spawned.erase round } round processed,
                [(round, pre.candidates round)]⟩, ⟨none, none⟩) := by
            simp only [splitServer, SplitSrv.step, hmem, if_true, MeshSrv.startFinalize, hprocessed]
            rfl
          refine ⟨_, (hsplit.snoc hstart).next (.finish 0) (map_eq_ok.2 ⟨_, Go.run_eq_ok.2
            (MeshSrv.finishFinalize_eq_ok.2 ⟨cos, hub, hcos, rfl, hhub, rfl⟩), rfl⟩)⟩

/-! ## Accepted candidates -/

/-- A step that broadcasts a committee with the candidate. -/
def BroadcastIn (cci : CommitteeCandidateInfo) (entry : Entry (SplitSrv G) SplitEvent Reply) :
    Prop :=
  ∃ call msg, entry.event = .finish call ∧ entry.reply.sent = some msg ∧ msg.round = cci.round ∧
    (cci.nodeId, cci.publicKey) ∈ msg.nodeId.zip msg.publicKeys

/-- A step in which `gcOldRounds` removes the candidate. -/
def CollectedIn (cci : CommitteeCandidateInfo) (entry : Entry (SplitSrv G) SplitEvent Reply) :
    Prop :=
  ∃ newer, entry.event = .handler (.requestCommittee newer) ∧ entry.reply.ack = some true ∧
    cci.round + gcRoundWindow < newer.round ∧
    (cci ∈ entry.pre.srv.candidates cci.round ∨ newer = cci)

/-- Where an accepted candidate can be: still waiting, in the copy of a running
call, in a committee that was broadcast, or collected. -/
def Accounted (cci : CommitteeCandidateInfo) (since : SplitHistory G) (s : SplitSrv G) : Prop :=
  cci ∈ s.srv.candidates cci.round ∨
  (∃ copy ∈ s.running, copy.1 = cci.round ∧ cci ∈ copy.2) ∨
  (∃ entry ∈ since, BroadcastIn cci entry) ∨ ∃ entry ∈ since, CollectedIn cci entry

/-- A request for a round is refused while a call for the round is running. -/
def RefusedWhileRunning (_ : SplitHistory G) (s : SplitSrv G) (event : SplitEvent) : Prop :=
  ∀ cci, event = .handler (.requestCommittee cci) → (∃ copy ∈ s.running, copy.1 = cci.round) →
    s.srv.isProcessed cci.round = true

/-- The copy of a running call has every waiting candidate of its round. -/
def CopiesComplete (s : SplitSrv G) : Prop :=
  ∀ copy ∈ s.running, ∀ cci ∈ s.srv.candidates copy.1, cci ∈ copy.2

theorem copiesComplete_step {s post : SplitSrv G} {event : SplitEvent} {reply : Reply}
    {past : SplitHistory G} (hcopies : CopiesComplete s)
    (hrefused : RefusedWhileRunning past s event) (h : s.step P event = .ok (post, reply)) :
    CopiesComplete post := by
  intro copy hcopy cci hcci
  cases event with
  | handler event =>
      obtain ⟨hrunning, heffect⟩ := SplitSrv.step_handler h
      rw [hrunning] at hcopy
      refine hcopies copy hcopy cci ?_
      rcases heffect.candidates copy.1 with hsame | ⟨newer, rfl, -, hprocessed, hcandidates⟩
      · rwa [hsame] at hcci
      · -- the new candidate is of another round, which is not running
        have hne : copy.1 ≠ newer.round := fun heq => by
          rw [hrefused newer rfl ⟨copy, hcopy, heq⟩] at hprocessed
          cases hprocessed
        rw [hcandidates, if_neg hne] at hcci
        split_ifs at hcci
        · cases hcci
        · exact hcci
  | start round =>
      obtain ⟨hrunning, hcandidates⟩ := SplitSrv.step_start h
      rw [MeshSrv.candidates, hcandidates] at hcci
      rw [hrunning, List.mem_append, List.mem_singleton] at hcopy
      rcases hcopy with hcopy | rfl
      · exact hcopies copy hcopy cci hcci
      · exact hcci
  | finish call =>
      obtain ⟨round, cands, cos, -, hrunning, hcandidates, -⟩ := SplitSrv.step_finish h
      rw [hrunning] at hcopy
      rw [MeshSrv.candidates, hcandidates, GoMap.lookup_erase_eq] at hcci
      split_ifs at hcci
      · cases hcci
      · exact hcopies copy (List.mem_of_mem_eraseIdx hcopy) cci hcci

/-- The committee of a candidate list names every candidate of the list. -/
theorem broadcastIn_finish {s post : SplitSrv G} {call : ℕ} {round : UInt64}
    {cands : List CommitteeCandidateInfo} {cos : Cosigners G} {cci : CommitteeCandidateInfo}
    (hround : round = cci.round) (hcci : cci ∈ cands) :
    BroadcastIn cci
      ⟨s, .finish call, ⟨none, some (MeshSrv.committee P round cands cos)⟩, post⟩ := by
  refine ⟨call, _, rfl, rfl, hround, ?_⟩
  rw [MeshSrv.committee, List.zip_map']
  exact List.mem_map_of_mem hcci

/-- A waiting candidate goes on waiting, is collected, or is broadcast by the
call that drops the list. -/
theorem accounted_step_of_waiting {s post : SplitSrv G} {event : SplitEvent} {reply : Reply}
    {since : SplitHistory G} {cci : CommitteeCandidateInfo} (hcopies : CopiesComplete s)
    (hwaiting : cci ∈ s.srv.candidates cci.round) (h : s.step P event = .ok (post, reply)) :
    Accounted cci (since ++ [⟨s, event, reply, post⟩]) post := by
  have hlast : ∀ entry : Entry (SplitSrv G) SplitEvent Reply, entry ∈ since ++ [entry] :=
    fun _ => List.mem_append_right _ (List.mem_singleton_self _)
  cases event with
  | handler event =>
      obtain ⟨-, heffect⟩ := SplitSrv.step_handler h
      rcases heffect.candidates cci.round with hsame | ⟨newer, rfl, hack, -, hcandidates⟩
      · exact .inl (by rwa [hsame])
      · by_cases hgc : cci.round + gcRoundWindow < newer.round
        · exact .inr (.inr (.inr ⟨_, hlast _, newer, rfl, hack, hgc, .inl hwaiting⟩))
        · refine .inl ?_
          rw [hcandidates, if_neg hgc]
          split_ifs
          · exact List.mem_append_left _ hwaiting
          · exact hwaiting
  | start round =>
      obtain ⟨-, hcandidates⟩ := SplitSrv.step_start h
      exact .inl (by rwa [MeshSrv.candidates, hcandidates])
  | finish call =>
      obtain ⟨round, cands, cos, hcall, -, hcandidates, rfl⟩ := SplitSrv.step_finish h
      by_cases hround : round = cci.round
      · have hcci := hcopies _ (List.mem_of_getElem? hcall) cci (by rwa [hround])
        exact .inr (.inr (.inl ⟨_, hlast _, broadcastIn_finish hround hcci⟩))
      · refine .inl ?_
        rwa [MeshSrv.candidates, hcandidates, GoMap.lookup_erase_eq, if_neg (Ne.symm hround)]

/-- A candidate in the copy of a running call stays there until the call
broadcasts it. -/
theorem accounted_step_of_copy {s post : SplitSrv G} {event : SplitEvent} {reply : Reply}
    {since : SplitHistory G} {cci : CommitteeCandidateInfo}
    {copy : UInt64 × List CommitteeCandidateInfo} (hcopy : copy ∈ s.running)
    (hround : copy.1 = cci.round) (hcci : cci ∈ copy.2) (h : s.step P event = .ok (post, reply)) :
    Accounted cci (since ++ [⟨s, event, reply, post⟩]) post := by
  cases event with
  | handler event =>
      obtain ⟨hrunning, -⟩ := SplitSrv.step_handler h
      exact .inr (.inl ⟨copy, by rwa [hrunning], hround, hcci⟩)
  | start round =>
      obtain ⟨hrunning, -⟩ := SplitSrv.step_start h
      refine .inr (.inl ⟨copy, ?_, hround, hcci⟩)
      rw [hrunning]
      exact List.mem_append_left _ hcopy
  | finish call =>
      obtain ⟨round, cands, cos, hcall, hrunning, -, rfl⟩ := SplitSrv.step_finish h
      obtain ⟨i, hi⟩ := List.mem_iff_getElem?.1 hcopy
      by_cases heq : i = call
      · subst heq
        obtain rfl : copy = (round, cands) := Option.some.inj (hi.symm.trans hcall)
        exact .inr (.inr (.inl
          ⟨_, List.mem_append_right _ (List.mem_singleton_self _), broadcastIn_finish hround hcci⟩))
      · refine .inr (.inl ⟨copy, ?_, hround, hcci⟩)
        rw [hrunning]
        exact List.mem_eraseIdx_iff_getElem?.2 ⟨i, heq, hi⟩

theorem accounted_step {s post : SplitSrv G} {event : SplitEvent} {reply : Reply}
    {since : SplitHistory G} {cci : CommitteeCandidateInfo} (hcopies : CopiesComplete s)
    (haccounted : Accounted cci since s) (h : s.step P event = .ok (post, reply)) :
    Accounted cci (since ++ [⟨s, event, reply, post⟩]) post := by
  rcases haccounted with hwaiting | ⟨copy, hcopy, hround, hcci⟩ | ⟨entry, hentry, hbroadcast⟩ |
    ⟨entry, hentry, hcollected⟩
  · exact accounted_step_of_waiting hcopies hwaiting h
  · exact accounted_step_of_copy hcopy hround hcci h
  · exact .inr (.inr (.inl ⟨entry, List.mem_append_left _ hentry, hbroadcast⟩))
  · exact .inr (.inr (.inr ⟨entry, List.mem_append_left _ hentry, hcollected⟩))

/-- If every request that comes while a call for its round is running is refused,
then every accepted candidate is accounted for ever after. -/
theorem accepted_candidate_accounted {history : SplitHistory G} {s : SplitSrv G}
    (run : (splitServer P).Run history s) (along : Machine.Along RefusedWhileRunning history) :
    ∀ past entry future cci, history = past ++ entry :: future →
      entry.event = .handler (.requestCommittee cci) → entry.reply.ack = some true →
      Accounted cci (entry :: future) s := by
  have hcopies : ∀ {history : SplitHistory G} {s : SplitSrv G}, (splitServer P).Run history s →
      Machine.Along RefusedWhileRunning history → CopiesComplete s := by
    intro history s run along
    refine run.invariant (I := fun _ s => CopiesComplete s) along (fun copy hcopy => ?_) ?_
    · cases hcopy
    · intro history pre event post reply _ hcopies hrefused hstep
      exact copiesComplete_step hcopies hrefused hstep
  rintro past ⟨pre, event, reply, srv, running⟩ future cci rfl rfl hack
  refine run.since (I := Accounted cci) ?_ ?_
  · obtain ⟨-, heffect⟩ := SplitSrv.step_handler run.split.2
    dsimp only at hack heffect ⊢
    cases heffect with
    | stream hevent _ _ => cases hevent
    | refused _ => cases hack
    | accepted _ haccepts =>
        by_cases hgc : cci.round + gcRoundWindow < cci.round
        · exact .inr (.inr (.inr ⟨_, List.mem_singleton_self _, cci, rfl, hack, hgc, .inr rfl⟩))
        · refine .inl ?_
          rw [MeshSrv.candidates, haccepts.committeeCandidates, if_neg hgc, if_pos rfl]
          exact List.mem_append_right _ (List.mem_singleton_self _)
  · rintro between later rest rfl hrun haccounted hstep
    rw [← List.cons_append, ← List.append_assoc] at along
    exact accounted_step (hcopies hrun along.of_append) haccounted hstep

/-- Extends a run by the finish of a call whose keys decode. -/
theorem split_run_finish {history : SplitHistory G} {s : SplitSrv G}
    (run : (splitServer P).Run history s) (call : ℕ) {round : UInt64}
    {cands : List CommitteeCandidateInfo} {cos : Cosigners G} {hub : Hub FinalizedCommittee}
    (hcall : s.running[call]? = some (round, cands))
    (hcos : newCosigners P (cands.map (·.publicKey)) none = some cos)
    (hhub : s.srv.hub.broadcast (MeshSrv.committee P round cands cos) = .ok hub) :
    (splitServer P).Run (history ++ [⟨s, .finish call,
        ⟨none, some (MeshSrv.committee P round cands cos)⟩,
        ⟨s.srv.finalized round cos hub, s.running.eraseIdx call⟩⟩])
      ⟨s.srv.finalized round cos hub, s.running.eraseIdx call⟩ := by
  refine run.snoc ?_
  simp only [splitServer, SplitSrv.step, hcall]
  exact map_eq_ok.2 ⟨_, Go.run_eq_ok.2
    (MeshSrv.finishFinalize_eq_ok.2 ⟨cos, hub, hcos, rfl, hhub, rfl⟩), rfl⟩

/-- A candidate is accepted before the call of its round starts, another asks while
the call is running and is refused. -/
private theorem copied_candidate (hP : P.Lawful) :
    ∃ (history : SplitHistory G) (s : SplitSrv G), (splitServer P).Run history s ∧
      Machine.Along RefusedWhileRunning history ∧
      history.map Entry.event =
        [.handler (.requestCommittee (baseCandidate P 1 "a")), .handler (.timerFires 0), .start 1,
          .handler (.requestCommittee (baseCandidate P 1 "b")), .finish 0] ∧
      history.map (·.reply.ack) = [some true, none, none, some false, none] := by
  have run := (Machine.Run.nil (M := splitServer P)).next
    (.handler (.requestCommittee (baseCandidate P 1 "a"))) rfl
  have run := run.next (.handler (.timerFires 0)) rfl
  have run := run.next (.start 1) rfl
  have run := run.next (.handler (.requestCommittee (baseCandidate P 1 "b"))) rfl
  have run := split_run_finish run 0 rfl (newCosigners_baseCandidates hP 1 ["a"]) rfl
  refine ⟨_, _, run, ?_, rfl, rfl⟩
  refine Machine.along_snoc.2 ⟨Machine.along_snoc.2 ⟨Machine.along_snoc.2 ⟨Machine.along_snoc.2
    ⟨Machine.along_snoc.2 ⟨Machine.along_nil, ?_⟩, ?_⟩, ?_⟩, ?_⟩, ?_⟩ <;> rintro cci ⟨⟩
  · rintro ⟨copy, hcopy, -⟩
    cases hcopy
  · exact fun _ => rfl

theorem accepted_candidate_accounted_one :
    ∃ (history : SplitHistory (ZMod (8 * l))) (s : SplitSrv (ZMod (8 * l))),
      (splitServer cyclicPrimitives).Run history s ∧
      Machine.Along RefusedWhileRunning history ∧
      history.map Entry.event =
        [.handler (.requestCommittee (baseCandidate cyclicPrimitives 1 "a")),
          .handler (.timerFires 0), .start 1,
          .handler (.requestCommittee (baseCandidate cyclicPrimitives 1 "b")), .finish 0] ∧
      history.map (·.reply.ack) = [some true, none, none, some false, none] ∧
      Accounted (baseCandidate cyclicPrimitives 1 "a") history s := by
  obtain ⟨history, s, run, along, hevents, hacks⟩ := copied_candidate cyclicPrimitives_lawful
  refine ⟨history, s, run, along, hevents, hacks, ?_⟩
  obtain ⟨entry, future, rfl, hevent, -⟩ := List.map_eq_cons_iff.1 hevents
  exact accepted_candidate_accounted run along [] entry future _ rfl hevent
    (List.cons.inj hacks).1

/-- A stream ends while a call is running and takes the mark of the round with it;
a candidate is accepted, and the finish of the call deletes it. -/
private theorem unmarked_candidate (hP : P.Lawful) :
    ∃ (history : SplitHistory G) (s : SplitSrv G), (splitServer P).Run history s ∧
      history.map Entry.event =
        [.handler (.joinNetwork "n"), .handler (.requestCommittee (baseCandidate P 1 "a")),
          .handler (.timerFires 0), .start 1, .handler (.remove 0), .handler (.close 0),
          .handler (.requestCommittee (baseCandidate P 1 "b")), .finish 0] ∧
      ∃ past entry future, history = past ++ entry :: future ∧
        entry.event = .handler (.requestCommittee (baseCandidate P 1 "b")) ∧
        entry.reply.ack = some true ∧ ¬ Accounted (baseCandidate P 1 "b") (entry :: future) s := by
  have run := (Machine.Run.nil (M := splitServer P)).next (.handler (.joinNetwork "n")) rfl
  have run := run.next (.handler (.requestCommittee (baseCandidate P 1 "a"))) rfl
  have run := run.next (.handler (.timerFires 0)) rfl
  have run := run.next (.start 1) rfl
  have run := run.next (.handler (.remove 0)) rfl
  have run := run.next (.handler (.close 0)) rfl
  have run := run.next (.handler (.requestCommittee (baseCandidate P 1 "b"))) rfl
  have run := split_run_finish run 0 rfl (newCosigners_baseCandidates hP 1 ["a"]) rfl
  refine ⟨_, _, run, rfl, [_, _, _, _, _, _], _, [_], rfl, rfl, rfl, ?_⟩
  rintro (hwaiting | ⟨copy, hcopy, -⟩ | ⟨entry, hentry, hbroadcast⟩ | ⟨entry, hentry, hcollected⟩)
  · cases hwaiting
  · cases hcopy
  · obtain ⟨call, msg, hevent, hsent, -, hmem⟩ := hbroadcast
    rcases List.mem_cons.1 hentry with rfl | hentry
    · cases hevent
    · obtain rfl := List.mem_singleton.1 hentry
      cases hsent
      have hname : "b" ∈ ["a"] := (List.of_mem_zip hmem).1
      exact absurd hname (by decide)
  · obtain ⟨newer, hevent, -, hgc, -⟩ := hcollected
    rcases List.mem_cons.1 hentry with rfl | hentry
    · cases hevent
      exact absurd (show (1 : UInt64) + gcRoundWindow < 1 from hgc) (by decide)
    · obtain rfl := List.mem_singleton.1 hentry
      cases hevent

theorem accepted_candidate_lost :
    ∃ (history : SplitHistory (ZMod (8 * l))) (s : SplitSrv (ZMod (8 * l))),
      (splitServer cyclicPrimitives).Run history s ∧
      history.map Entry.event =
        [.handler (.joinNetwork "n"),
          .handler (.requestCommittee (baseCandidate cyclicPrimitives 1 "a")),
          .handler (.timerFires 0), .start 1, .handler (.remove 0), .handler (.close 0),
          .handler (.requestCommittee (baseCandidate cyclicPrimitives 1 "b")), .finish 0] ∧
      ∃ past entry future, history = past ++ entry :: future ∧
        entry.event = .handler (.requestCommittee (baseCandidate cyclicPrimitives 1 "b")) ∧
        entry.reply.ack = some true ∧
        ¬ Accounted (baseCandidate cyclicPrimitives 1 "b") (entry :: future) s :=
  unmarked_candidate cyclicPrimitives_lawful

end MeshCosi.Network
