import MeshCosi.Foundation.Restrict
import MeshCosi.Network.Rounds

/-!
# Rounds do not interfere

A run of the server seen from one round: the candidate requests, timers and
`tryFinalize` calls of that round are kept, everything else is left out.  What
is left is again a run, with the same answers and the same committees, unless a
request of a far later round garbage-collects candidates of this one.  The two
runs are compared by `ShowsRound`: the smaller state has the candidates of the
round and shows its part of the schedule.
-/

namespace MeshCosi.Network

open Foundation Ed25519 Cosi

variable {G : Type}

/-- A step as a step of a round alone, if it concerns the round.  A timer is
counted among the timers of the round. -/
def ofRound (r : UInt64) (entry : Entry (MeshSrv G) Event Reply) : Option Event :=
  match entry.event with
  | .finalize round => if round = r then some (.finalize r) else none
  | .handler (.requestCommittee cci) =>
      if cci.round = r then some (.handler (.requestCommittee cci)) else none
  | .handler (.timerFires t) =>
      if entry.pre.clock[t]?.any fun timer => timer.key = r then
        some (.handler (.timerFires (Schedule.rank r entry.pre.clock t)))
      else none
  | .handler _ => none

/-- The answers to the candidate requests of a round. -/
def answers (r : UInt64) (history : History G) : List Bool :=
  history.filterMap fun entry =>
    match entry.event with
    | .handler (.requestCommittee cci) => if cci.round = r then entry.reply.ack else none
    | _ => none

/-- An event of another round does not garbage-collect candidates of the round. -/
def SparesRound (r : UInt64) (event : Event) : Prop :=
  ∀ cci, event = .handler (.requestCommittee cci) → cci.round ≠ r →
    ¬ r + gcRoundWindow < cci.round

/-- The second state shows the round of the first one. -/
structure ShowsRound (r : UInt64) (m m' : MeshSrv G) : Prop where
  schedule : Schedule.Restricts r m.schedule m'.schedule
  candidates : m'.committeeCandidates.lookup r = m.committeeCandidates.lookup r

namespace ShowsRound

variable {r : UInt64} {m m' post post' : MeshSrv G}

theorem candidates_eq (h : ShowsRound r m m') : m'.candidates r = m.candidates r := by
  rw [MeshSrv.candidates, MeshSrv.candidates, h.candidates]

/-! ## Steps of the round -/

/-- The same request is accepted on both sides. -/
theorem accepts (h : ShowsRound r m m') (hwf : m.schedule.WellFormed)
    {cci : CommitteeCandidateInfo} (hround : cci.round = r) (haccepts : m.Accepts cci post)
    (haccepts' : m'.Accepts cci post') : ShowsRound r post post' := by
  subst hround
  have hreaches : m'.ReachesThreshold cci ↔ m.ReachesThreshold cci := by
    rw [MeshSrv.ReachesThreshold, MeshSrv.ReachesThreshold, h.candidates_eq]
  constructor
  · rw [haccepts.schedule, haccepts'.schedule]
    by_cases hfull : m.ReachesThreshold cci
    · rw [if_pos hfull, if_pos (hreaches.2 hfull)]
      exact h.schedule.arm.spawn (hwf.arm _)
    · rw [if_neg hfull, if_neg (mt hreaches.1 hfull)]
      exact h.schedule.arm
  · rw [haccepts.committeeCandidates, haccepts'.committeeCandidates, h.candidates_eq,
      h.candidates]

variable [AddCommGroup G] {P : Primitives G} {reply : Reply}

theorem step_finalize (h : ShowsRound r m m') (hwf' : m'.WellFormed)
    (hstep : m.step P (.finalize r) = .ok (post, reply)) :
    ∃ post', m'.step P (.finalize r) = .ok (post', reply) ∧ ShowsRound r post post' := by
  obtain ⟨hmem, processed, cos, hub, -, hcos, -, rfl, rfl⟩ := MeshSrv.step_finalize.1 hstep
  have hmem' : r ∈ m'.spawned := h.schedule.mem.2 hmem
  obtain ⟨processed', hprocessed'⟩ := hwf'.exists_processed (Or.inr hmem')
  obtain ⟨hub', hhub', -⟩ := hwf'.hub.broadcast (MeshSrv.committee P r (m.candidates r) cos)
  refine ⟨_, MeshSrv.step_finalize.2 ⟨hmem', processed', cos, hub', hprocessed', ?_, ?_, ?_, rfl⟩,
    ?_, ?_⟩
  · rw [h.candidates_eq, hcos]
  · rw [h.candidates_eq, hhub']
  · rw [h.candidates_eq]
  · exact h.schedule.run
  · change (m'.committeeCandidates.erase r).lookup r = (m.committeeCandidates.erase r).lookup r
    rw [Finmap.lookup_erase, Finmap.lookup_erase]

/-- A step that concerns the round is a step of the round alone, with the same reply. -/
theorem step_kept (h : ShowsRound r m m') (hwf : m.WellFormed) (hwf' : m'.WellFormed)
    {event event' : Event} (hstep : m.step P event = .ok (post, reply))
    (hkept : ofRound r ⟨m, event, reply, post⟩ = some event') :
    ∃ post', m'.step P event' = .ok (post', reply) ∧ ShowsRound r post post' := by
  cases event with
  | finalize round =>
      simp only [ofRound, Option.ite_none_right_eq_some, Option.some.injEq] at hkept
      obtain ⟨rfl, rfl⟩ := hkept
      exact h.step_finalize hwf' hstep
  | handler event =>
      have heffect : HandlerEffect m event post reply := MeshSrv.handle_effect (P := P) hstep
      cases heffect with
      | stream hevent _ _ => cases event <;> first | cases hkept | cases hevent
      | @accepted cci _ hprocessed haccepts =>
          simp only [ofRound, Option.ite_none_right_eq_some, Option.some.injEq] at hkept
          obtain ⟨hround, rfl⟩ := hkept
          obtain ⟨post', hpost', haccepts'⟩ :=
            MeshSrv.step_requestCommittee (P := P) (hwf'.unmarked cci.round)
          exact ⟨post', hpost', h.accepts hwf.schedule hround haccepts haccepts'⟩
      | refused hprocessed =>
          rw [hwf.unmarked] at hprocessed
          cases hprocessed
      | committed _ => cases hkept
      | @fired t round hclock =>
          simp only [ofRound, hclock, Option.any_some, decide_eq_true_eq,
            Option.ite_none_right_eq_some, Option.some.injEq] at hkept
          obtain ⟨rfl, rfl⟩ := hkept
          have hclock' : m'.clock[Schedule.rank round m.clock t]? = some ⟨round, .armed⟩ :=
            h.schedule.getElem?_rank hclock
          refine ⟨_, MeshSrv.step_timerFires hclock', ?_, h.candidates⟩
          exact h.schedule.fire hclock

/-! ## Other steps -/

/-- A step that does not concern the round leaves what the round sees. -/
theorem step_dropped (h : ShowsRound r m m') (hwf : m.WellFormed) {event : Event}
    (hstep : m.step P event = .ok (post, reply)) (hspares : SparesRound r event)
    (hdropped : ofRound r ⟨m, event, reply, post⟩ = none) : ShowsRound r post m' := by
  cases event with
  | finalize round =>
      obtain ⟨-, processed, cos, hub, -, -, -, -, rfl⟩ := MeshSrv.step_finalize.1 hstep
      have hne : round ≠ r := by
        intro heq
        simp [ofRound, heq] at hdropped
      refine ⟨h.schedule.run_of_ne hne, ?_⟩
      change _ = (m.committeeCandidates.erase round).lookup r
      rw [Finmap.lookup_erase_ne hne.symm, h.candidates]
  | handler event =>
      have heffect : HandlerEffect m event post reply := MeshSrv.handle_effect (P := P) hstep
      cases heffect with
      | stream _ _ _ => exact ⟨h.schedule, h.candidates⟩
      | @accepted cci _ _ haccepts =>
          have hne : cci.round ≠ r := by
            intro heq
            simp [ofRound, heq] at hdropped
          constructor
          · rw [haccepts.schedule]
            split_ifs
            · exact (h.schedule.arm_of_ne hwf.schedule hne).spawn_of_ne (hwf.schedule.arm _) hne
            · exact h.schedule.arm_of_ne hwf.schedule hne
          · rw [haccepts.committeeCandidates, if_neg (hspares cci rfl hne), if_neg hne.symm,
              h.candidates]
      | refused _ => exact ⟨h.schedule, h.candidates⟩
      | committed _ => exact ⟨h.schedule, h.candidates⟩
      | @fired t round hclock =>
          have hne : round ≠ r := by
            intro heq
            simp [ofRound, hclock, heq] at hdropped
          exact ⟨h.schedule.fire_of_ne hclock hne, h.candidates⟩

end ShowsRound

/-! ## Runs -/

theorem showsRound_newMeshSrv (r : UInt64) :
    ShowsRound r (MeshSrv.newMeshSrv : MeshSrv G) MeshSrv.newMeshSrv where
  schedule := ⟨rfl, rfl, rfl⟩
  candidates := rfl

theorem answers_snoc (r : UInt64) (history : History G) (entry : Entry (MeshSrv G) Event Reply) :
    answers r (history ++ [entry]) = answers r history ++ answers r [entry] := by
  rw [answers, List.filterMap_append]
  rfl

/-- A step of the round alone is answered and broadcasts as the step itself. -/
theorem observed_kept {r : UInt64} {m post : MeshSrv G} {event event' : Event} {reply : Reply}
    (h : ofRound r ⟨m, event, reply, post⟩ = some event') (m' post' : MeshSrv G) :
    answers r [⟨m', event', reply, post'⟩] = answers r [⟨m, event, reply, post⟩] ∧
      committees r [⟨m', event', reply, post'⟩] = committees r [⟨m, event, reply, post⟩] := by
  unfold ofRound at h
  split at h
  next round hevent =>
    subst hevent
    simp only [Option.ite_none_right_eq_some, Option.some.injEq] at h
    obtain ⟨rfl, rfl⟩ := h
    exact ⟨rfl, rfl⟩
  next cci hevent =>
    subst hevent
    simp only [Option.ite_none_right_eq_some, Option.some.injEq] at h
    obtain ⟨-, rfl⟩ := h
    exact ⟨rfl, rfl⟩
  next t hevent =>
    subst hevent
    simp only [Option.ite_none_right_eq_some, Option.some.injEq] at h
    obtain ⟨-, rfl⟩ := h
    exact ⟨rfl, rfl⟩
  · cases h

/-- A step that does not concern the round answers none of its requests and
broadcasts none of its committees. -/
theorem observed_dropped {r : UInt64} {entry : Entry (MeshSrv G) Event Reply}
    (h : ofRound r entry = none) : answers r [entry] = [] ∧ committees r [entry] = [] := by
  obtain ⟨m, event, reply, post⟩ := entry
  cases event with
  | finalize round =>
      have hne : round ≠ r := by
        intro heq
        simp [ofRound, heq] at h
      simp [answers, committees, hne]
  | handler event =>
      refine ⟨?_, rfl⟩
      cases event with
      | requestCommittee cci =>
          have hne : cci.round ≠ r := by
            intro heq
            simp [ofRound, heq] at h
          simp [answers, hne]
      | _ => rfl

variable [AddCommGroup G] {P : Primitives G}

/-- The run of a round alone. -/
theorem exists_run_ofRound {history : History G} {m : MeshSrv G}
    (run : (server P).Run history m) (r : UInt64)
    (hspares : ∀ entry ∈ history, SparesRound r entry.event) :
    ∃ history' m', (server P).Run history' m' ∧ ShowsRound r m m' ∧
      history'.map Entry.event = history.filterMap (ofRound r) ∧
      answers r history' = answers r history ∧ committees r history' = committees r history := by
  induction run with
  | nil => exact ⟨[], _, .nil, showsRound_newMeshSrv r, rfl, rfl, rfl⟩
  | @snoc history pre post event reply run hstep ih =>
      obtain ⟨history', m', run', hshows, hevents, hanswers, hcommittees⟩ :=
        ih fun entry hentry => hspares entry (List.mem_append_left _ hentry)
      have hwf := server_run_wellFormed run
      rw [answers_snoc, committees_append, List.filterMap_append]
      cases hround : ofRound r ⟨pre, event, reply, post⟩ with
      | some event' =>
          -- the run of the round alone takes the step too, with the timer renumbered
          obtain ⟨post', hstep', hshows'⟩ :=
            hshows.step_kept hwf (server_run_wellFormed run') hstep hround
          obtain ⟨hanswer, hcommittee⟩ := observed_kept hround m' post'
          refine ⟨_, post', run'.snoc hstep', hshows', ?_, ?_, ?_⟩
          · rw [List.map_append, hevents, List.filterMap_cons_some hround]
            rfl
          · rw [answers_snoc, hanswers, hanswer]
          · rw [committees_append, hcommittees, hcommittee]
      | none =>
          -- it waits, and the step leaves what the round sees
          have hspare := hspares _ (List.mem_append_right _ (List.mem_singleton_self _))
          obtain ⟨hanswer, hcommittee⟩ := observed_dropped hround
          refine ⟨history', m', run', hshows.step_dropped hwf hstep hspare hround, ?_, ?_, ?_⟩
          · rw [List.filterMap_cons_none hround, List.filterMap_nil, List.append_nil, hevents]
          · rw [hanswers, hanswer, List.append_nil]
          · rw [hcommittees, hcommittee, List.append_nil]

/-- **Rounds do not interfere.**  If no request of another round lies beyond the
garbage collection window of a round, then leaving out of a run everything that
does not concern the round gives a run with the same answers to its requests
and the same committees. -/
theorem rounds_do_not_interfere {history : History G} {m : MeshSrv G}
    (run : (server P).Run history m) (r : UInt64)
    (hspares : ∀ entry ∈ history, SparesRound r entry.event) :
    ∃ history' m', (server P).Run history' m' ∧
      history'.map Entry.event = history.filterMap (ofRound r) ∧
      answers r history' = answers r history ∧ committees r history' = committees r history := by
  obtain ⟨history', m', run', -, hevents, hanswers, hcommittees⟩ :=
    exists_run_ofRound run r hspares
  exact ⟨history', m', run', hevents, hanswers, hcommittees⟩

/-- A candidate of round 1 arrives first, and round 2 is finalized. -/
private theorem interleaved_rounds (hP : P.Lawful) :
    ∃ (history : History G) (m : MeshSrv G), (server P).Run history m ∧
      (∀ entry ∈ history, SparesRound 2 entry.event) ∧
      history.filterMap (ofRound 2) = [.handler (.requestCommittee (baseCandidate P 2 "b")),
        .handler (.timerFires 0), .finalize 2] ∧
      answers 2 history = [true] ∧ (committees 2 history).length = 1 := by
  have run := (Machine.Run.nil (M := server P)).next
    (.handler (.requestCommittee (baseCandidate P 1 "a"))) rfl
  have run := run.next (.handler (.requestCommittee (baseCandidate P 2 "b"))) rfl
  have run := run.next (.handler (.timerFires 1)) rfl
  have run := server_run_finalize run 2 (List.mem_singleton_self _) rfl
    (newCosigners_baseCandidates hP 2 ["b"]) rfl
  refine ⟨_, _, run, ?_, rfl, rfl, rfl⟩
  refine List.forall_mem_cons.2 ⟨?_, List.forall_mem_cons.2 ⟨?_, List.forall_mem_cons.2 ⟨?_,
    List.forall_mem_singleton.2 ?_⟩⟩⟩
  · rintro cci ⟨⟩ -
    exact (by decide : ¬ (2 : UInt64) + gcRoundWindow < 1)
  · rintro cci ⟨⟩ hne
    exact absurd rfl hne
  · rintro cci ⟨⟩
  · rintro cci ⟨⟩

/-- Round 2 alone: its timer is the first one. -/
theorem rounds_do_not_interfere_two :
    ∃ (history : History (ZMod (8 * l))) (m : MeshSrv (ZMod (8 * l))),
      (server cyclicPrimitives).Run history m ∧
      history.map Entry.event =
        [.handler (.requestCommittee (baseCandidate cyclicPrimitives 2 "b")),
          .handler (.timerFires 0), .finalize 2] ∧
      answers 2 history = [true] ∧ (committees 2 history).length = 1 := by
  obtain ⟨history, m, run, hspares, hevents, hanswers, hcommittees⟩ :=
    interleaved_rounds cyclicPrimitives_lawful
  obtain ⟨history', m', run', hevents', hanswers', hcommittees'⟩ :=
    rounds_do_not_interfere run 2 hspares
  exact ⟨history', m', run', hevents'.trans hevents, hanswers'.trans hanswers,
    by rw [hcommittees', hcommittees]⟩

end MeshCosi.Network
