import MeshCosi.Network.Rounds

/-!
# Waiting candidates

The candidates of a round wait for a `tryFinalize` call.  The map of timers may
lead to a timer that was stopped or has fired, a finalization forgets the timer
without stopping it, and garbage collection leaves it behind.  Still a round
with candidates has a timer in the map, and a timer in the map is armed or has
left a call to be run.
-/

namespace MeshCosi.Network

open Foundation

variable {G : Type}

/-- A round with candidates has a timer in the map, and every timer in the map
has a call on the way. -/
structure MeshSrv.Attended (m : MeshSrv G) : Prop where
  timer : ∀ r, m.candidates r ≠ [] → ∃ t, m.timers.lookup r = some t
  covered : ∀ r, m.schedule.Covered r

namespace MeshSrv

theorem attended_newMeshSrv : (newMeshSrv : MeshSrv G).Attended where
  timer r h := by simp [candidates, newMeshSrv] at h
  covered r t h := by simp [schedule, newMeshSrv] at h

/-- An accepted request leaves its round with a timer, and the other rounds with
theirs. -/
theorem Attended.timer_accepts {m post : MeshSrv G} (h : m.Attended)
    {cci : CommitteeCandidateInfo} (haccepts : m.Accepts cci post) {r : UInt64}
    (hcandidates : post.candidates r ≠ []) : ∃ t, post.timers.lookup r = some t := by
  have htimers : post.timers = (m.schedule.arm cci.round).timers := by
    change post.schedule.timers = _
    rw [haccepts.schedule]
    split_ifs
    · rw [Schedule.spawn_timers]
    · rfl
  rw [htimers]
  by_cases heq : r = cci.round
  · subst heq
    exact m.schedule.exists_lookup_arm cci.round
  · rw [Schedule.lookup_arm_of_ne heq]
    apply h.timer
    intro hempty
    -- collected or not, a round without candidates does not get any
    apply hcandidates
    rw [candidates, haccepts.committeeCandidates, if_neg heq]
    split_ifs
    · rfl
    · exact hempty

variable [AddCommGroup G] {P : Primitives G}

theorem Attended.timer_step {m post : MeshSrv G} (h : m.Attended) {event : Event} {reply : Reply}
    (hstep : m.step P event = .ok (post, reply)) {r : UInt64}
    (hcandidates : post.candidates r ≠ []) : ∃ t, post.timers.lookup r = some t := by
  cases event with
  | finalize round =>
      obtain ⟨-, processed, cos, hub, -, -, -, -, rfl⟩ := step_finalize.1 hstep
      change ((m.committeeCandidates.erase round).lookup r).getD [] ≠ [] at hcandidates
      change ∃ t, (m.timers.erase round).lookup r = some t
      rw [GoMap.lookup_erase_eq] at hcandidates ⊢
      split_ifs at hcandidates ⊢ with heq
      · exact absurd rfl hcandidates
      · exact h.timer r hcandidates
  | handler event =>
      cases handle_effect hstep with
      | stream _ _ _ => exact h.timer r hcandidates
      | accepted _ haccepts => exact h.timer_accepts haccepts hcandidates
      | refused _ => exact h.timer r hcandidates
      | committed _ => exact h.timer r hcandidates
      | fired _ => exact h.timer r hcandidates

theorem Attended.step {m post : MeshSrv G} (h : m.Attended) (hwf : m.WellFormed) {event : Event}
    {reply : Reply} (hstep : m.step P event = .ok (post, reply)) : post.Attended := by
  refine ⟨fun r => h.timer_step hstep, ?_⟩
  intro r
  rcases schedule_cases hwf hstep r with
    hagree | ⟨cci, -, rfl, haccepts⟩ | ⟨t, -, hfire⟩ | ⟨-, hrun⟩
  · exact hagree.covered (h.covered r)
  · rw [haccepts.schedule]
    split_ifs
    · exact Schedule.covered_spawn _ _
    · exact (h.covered cci.round).arm
  · rw [hfire]
    exact Schedule.covered_fire _ _ _
  · rw [hrun]
    exact Schedule.covered_run _ _

end MeshSrv

variable [AddCommGroup G] {P : Primitives G}

theorem server_run_attended {history : History G} {m : MeshSrv G}
    (run : (server P).Run history m) : m.Attended := by
  induction run with
  | nil => exact MeshSrv.attended_newMeshSrv
  | snoc run hstep ih => exact ih.step (server_run_wellFormed run) hstep

/-- **No waiting round is stranded.**  In every reachable state a round with
candidates has an armed timer or a `tryFinalize` call that waits to be run. -/
theorem waiting_round_has_call {history : History G} {m : MeshSrv G}
    (run : (server P).Run history m) {r : UInt64} (h : m.candidates r ≠ []) :
    (∃ t : ℕ, m.clock[t]? = some ⟨r, .armed⟩) ∨ r ∈ m.spawned := by
  have hattended := server_run_attended run
  obtain ⟨t, ht⟩ := hattended.timer r h
  rcases hattended.covered r t ht with harmed | hspawned
  · exact Or.inl ⟨t, harmed⟩
  · exact Or.inr hspawned

/-- A candidate arrives after the timer of its round has fired. -/
private theorem exists_run_candidate_after_timer (P : Primitives G) :
    ∃ (history : History G) (m : MeshSrv G), (server P).Run history m ∧
      m.candidates 1 = [baseCandidate P 1 "a", baseCandidate P 1 "b"] := by
  have run := (Machine.Run.nil (M := server P)).next
    (.handler (.requestCommittee (baseCandidate P 1 "a"))) rfl
  have run := run.next (.handler (.timerFires 0)) rfl
  have run := run.next (.handler (.requestCommittee (baseCandidate P 1 "b"))) rfl
  exact ⟨_, _, run, rfl⟩

theorem waiting_round_has_call_two :
    ∃ (history : History (ZMod (8 * l))) (m : MeshSrv (ZMod (8 * l))),
      (server cyclicPrimitives).Run history m ∧ m.candidates 1 ≠ [] ∧
      ((∃ t : ℕ, m.clock[t]? = some ⟨1, .armed⟩) ∨ 1 ∈ m.spawned) := by
  obtain ⟨history, m, run, hcandidates⟩ := exists_run_candidate_after_timer cyclicPrimitives
  have hne : m.candidates 1 ≠ [] := by
    rw [hcandidates]
    exact List.cons_ne_nil _ _
  exact ⟨history, m, run, hne, waiting_round_has_call run hne⟩

end MeshCosi.Network
