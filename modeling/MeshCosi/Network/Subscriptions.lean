import MeshCosi.Network.Registry

/-!
# Subscriptions over whole runs

Two questions about overlapping streams.  A channel has two owners:
`LeaveNetwork` closes what it finds in `m.subs`, and the cleanup of the stream
closes the channel again.  And the cleanup deletes the entry of its node id,
also when a newer stream of the same node has taken its place.

Both are settled by an exact condition on the history.  For the channels the
condition is that no `LeaveNetwork` found a subscription:

* if none did, only ended streams have a closed channel (`ClosedByCleanup`, kept
  by every step), and then no step closes a channel twice (`step_ne_panic`);
* if one did, the channel it closed belongs to a stream that has not ended.  No
  step repairs this (`closed_early_step`), so the first such request leaves a
  trace in every later state (`closed_early_of_run`), and the cleanup of that
  stream panics (`close_panics`).

For the registrations it is that no stream ends while a newer one of its node is
open.  `RegisteredFor` is the registration of one stream, and the lemmas below it
say what becomes of it:

```text
join      of the same node   the new stream is registered
          of another node    kept
leave     of another node    kept: a channel has one node id
remove    of this stream     no longer open, nothing to keep
          of an older one    lost, unless this stream is not open
close     of any stream      kept: `m.subs` is not touched
```

The one line that loses it is the one the condition excludes.  Conversely, a run
that breaks the condition has lost the registration right after that step.
-/

namespace MeshCosi.Network

open Foundation

variable {μ : Type}

/-- A history of the subscriptions. -/
abbrev HubHistory (μ : Type) := List (Entry (Hub μ) (HubEvent μ) Unit)

/-! ## Closing a channel -/

/-- The two steps of the deferred cleanup. -/
def HubEvent.IsCleanup : HubEvent μ → Prop
  | .remove _ => True
  | .close _ => True
  | _ => False

/-- No `LeaveNetwork` of the history found a subscription to close. -/
def LeavesFindNothing (history : HubHistory μ) : Prop :=
  ∀ entry ∈ history, ∀ nodeId, entry.event = .leave nodeId →
    entry.pre.subs.lookup nodeId = none

/-- Only streams that have ended have a closed channel. -/
def Hub.ClosedByCleanup (hub : Hub μ) : Prop :=
  ∀ (i : ℕ) (nodeId : String) (phase : Phase),
    hub.registrations[i]? = some ⟨nodeId, phase, true⟩ → phase = .ended

theorem Hub.ClosedByCleanup.step {hub post : Hub μ} (hclosed : hub.ClosedByCleanup)
    (hwf : hub.WellFormed) {event : HubEvent μ} (h : hub.step event = .ok post)
    (hleave : ∀ nodeId, event = .leave nodeId → hub.subs.lookup nodeId = none) :
    post.ClosedByCleanup := by
  have heffect := hwf.effect h
  intro i nodeId phase hreg
  cases event with
  | join joined =>
      rw [heffect.2, List.getElem?_append] at hreg
      split_ifs at hreg with hi
      · exact hclosed i nodeId phase hreg
      · -- the new stream's channel is open
        have hmem := List.mem_of_getElem? hreg
        simp at hmem
  | leave left =>
      rcases heffect with ⟨-, rfl⟩ | ⟨ch, hch, -, -⟩
      · exact hclosed i nodeId phase hreg
      · -- the only step that closes the channel of an open stream, which is excluded
        rw [hleave left rfl] at hch
        cases hch
  | broadcast msg => exact hclosed i nodeId phase (heffect.2 ▸ hreg)
  | receive k => exact hclosed i nodeId phase (heffect.2 ▸ hreg)
  | remove k =>
      obtain ⟨removed, closed, hk, -, hregs⟩ := heffect
      rw [hregs, List.getElem?_set] at hreg
      split_ifs at hreg with hki hlen
      · simp only [Option.some.injEq, Registration.mk.injEq] at hreg
        obtain ⟨rfl, rfl, rfl⟩ := hreg
        -- the stream was serving with a closed channel
        exact absurd (hclosed k removed .serving hk) (by decide)
      · exact hclosed i nodeId phase hreg
  | close k =>
      obtain ⟨ended, hk, -, hregs⟩ := heffect
      rw [hregs, List.getElem?_set] at hreg
      split_ifs at hreg with hki hlen
      · simp only [Option.some.injEq, Registration.mk.injEq] at hreg
        exact hreg.2.1.symm
      · exact hclosed i nodeId phase hreg

theorem Hub.closedByCleanup_of_run {history : HubHistory μ} {hub : Hub μ}
    (run : (hubMachine μ).Run history hub) (hleaves : LeavesFindNothing history) :
    hub.ClosedByCleanup := by
  have along : Machine.Along
      (fun _ pre event => ∀ nodeId, event = .leave nodeId → pre.subs.lookup nodeId = none)
      history := fun past entry future h => hleaves entry (by simp [h])
  refine run.invariant (I := fun _ hub => hub.ClosedByCleanup) along ?_ ?_
  · intro i nodeId phase h
    simp [hubMachine, Hub.empty, Hub.registrations] at h
  · intro history pre event post reply hrun hclosed hleave hstep
    exact hclosed.step (hub_run_wellFormed hrun) (hubMachine_step.1 hstep) hleave

/-- While only ended streams have a closed channel, no event closes a channel twice. -/
theorem Hub.ClosedByCleanup.step_ne_panic {hub : Hub μ} (hclosed : hub.ClosedByCleanup)
    (hwf : hub.WellFormed) (event : HubEvent μ) :
    hub.step event ≠ .error (.panic .closeOfClosedChannel) := by
  intro h
  cases event with
  | join nodeId => cases h
  | leave nodeId =>
      rw [Hub.step, Go.run_eq_panic, Hub.leaveNetwork] at h
      cases hsub : hub.subs.lookup nodeId with
      | none => simp [hsub] at h
      | some ch =>
          -- what is registered is open
          obtain ⟨stream, hstream, -, -, hopen⟩ := hwf.stream hsub
          simp [hsub, Hub.closeChan, hstream, hopen] at h
  | broadcast msg =>
      obtain ⟨post, hpost, -⟩ := hwf.broadcast msg
      rw [Hub.step, hpost] at h
      cases h
  | receive i =>
      rw [Hub.step, Hub.receive] at h
      split at h <;> try cases h
      split at h <;> try cases h
      split at h <;> try cases h
      split at h <;> cases h
  | remove i =>
      rw [Hub.step, Hub.remove] at h
      split at h <;> try cases h
      split at h <;> cases h
  | close i =>
      rw [Hub.step, Hub.close] at h
      split at h
      · cases h
      next stream hstream =>
        split_ifs at h with hphase hchan
        · -- the cleanup closes while the stream is not yet marked as ended
          have hended := hclosed i stream.nodeId stream.phase (by
            rw [Hub.getElem?_registrations, hstream, Option.map_some, Stream.registration, hchan])
          rw [hphase] at hended
          cases hended
        · cases h

/-- A channel that is closed before its stream has ended stays so. -/
theorem Hub.WellFormed.closed_early_step {hub post : Hub μ} (hwf : hub.WellFormed)
    {event : HubEvent μ} (h : hub.step event = .ok post) {i : ℕ} {nodeId : String} {phase : Phase}
    (hreg : hub.registrations[i]? = some ⟨nodeId, phase, true⟩) (hphase : phase ≠ .ended) :
    ∃ phase', post.registrations[i]? = some ⟨nodeId, phase', true⟩ ∧ phase' ≠ .ended := by
  have heffect := hwf.effect h
  have hlen := (List.getElem?_eq_some_iff.1 hreg).1
  cases event with
  | join joined =>
      exact ⟨phase, by rw [heffect.2, List.getElem?_append_left hlen, hreg], hphase⟩
  | leave left =>
      rcases heffect with ⟨-, rfl⟩ | ⟨ch, hch, -, hregs⟩
      · exact ⟨phase, hreg, hphase⟩
      · -- the channel that is closed now was open
        have hne : ch ≠ i := by
          rintro rfl
          rw [hwf left ch hch] at hreg
          simp at hreg
        exact ⟨phase, by rw [hregs, List.getElem?_set_ne hne, hreg], hphase⟩
  | broadcast msg => exact ⟨phase, by rw [heffect.2, hreg], hphase⟩
  | receive k => exact ⟨phase, by rw [heffect.2, hreg], hphase⟩
  | remove k =>
      obtain ⟨removed, closed, hk, -, hregs⟩ := heffect
      by_cases hki : k = i
      · subst hki
        rw [hreg] at hk
        simp only [Option.some.injEq, Registration.mk.injEq] at hk
        obtain ⟨rfl, -, rfl⟩ := hk
        exact ⟨.removed, by rw [hregs, List.getElem?_set_self hlen], by decide⟩
      · exact ⟨phase, by rw [hregs, List.getElem?_set_ne hki, hreg], hphase⟩
  | close k =>
      obtain ⟨ended, hk, -, hregs⟩ := heffect
      -- a cleanup that completed found its channel open
      have hne : k ≠ i := by
        rintro rfl
        rw [hreg] at hk
        simp at hk
      exact ⟨phase, by rw [hregs, List.getElem?_set_ne hne, hreg], hphase⟩

/-- A `LeaveNetwork` that found a subscription leaves a channel that is closed
before its stream has ended. -/
theorem closed_early_of_run {history : HubHistory μ} {hub : Hub μ}
    (run : (hubMachine μ).Run history hub) (hleaves : ¬ LeavesFindNothing history) :
    ∃ (i : ℕ) (nodeId : String) (phase : Phase),
      hub.registrations[i]? = some ⟨nodeId, phase, true⟩ ∧ phase ≠ .ended := by
  induction run with
  | nil => exact absurd (fun _ h => by simp at h) hleaves
  | @snoc history pre post event reply run hstep ih =>
      have hwf := hub_run_wellFormed run
      rw [hubMachine_step] at hstep
      by_cases hpast : LeavesFindNothing history
      · -- the last step is the first such `LeaveNetwork`
        have hlast : ∃ nodeId ch, event = .leave nodeId ∧ pre.subs.lookup nodeId = some ch := by
          by_contra hnone
          push Not at hnone
          refine hleaves fun entry hentry nodeId hevent => ?_
          rcases List.mem_append.1 hentry with hentry | hentry
          · exact hpast entry hentry nodeId hevent
          · obtain rfl := List.mem_singleton.1 hentry
            exact Option.eq_none_iff_forall_ne_some.2 fun ch => hnone nodeId ch hevent
        obtain ⟨nodeId, ch, rfl, hch⟩ := hlast
        rcases hwf.effect hstep with ⟨hnone, -⟩ | ⟨ch', hch', -, hregs⟩
        · rw [hnone] at hch
          cases hch
        · have hlen := (List.getElem?_eq_some_iff.1 (hwf nodeId ch' hch')).1
          exact ⟨ch', nodeId, .serving, by rw [hregs, List.getElem?_set_self hlen], by decide⟩
      · obtain ⟨i, nodeId, phase, hreg, hphase⟩ := ih hpast
        obtain ⟨phase', hreg', hphase'⟩ := hwf.closed_early_step hstep hreg hphase
        exact ⟨i, nodeId, phase', hreg', hphase'⟩

/-- The cleanup of a stream whose channel is already closed panics. -/
theorem Hub.close_panics {hub : Hub μ} {i : ℕ} {nodeId : String}
    (hreg : hub.registrations[i]? = some ⟨nodeId, .removed, true⟩) :
    (hubMachine μ).step hub (.close i) = .error (.panic .closeOfClosedChannel) := by
  rw [Hub.getElem?_registrations, Option.map_eq_some_iff] at hreg
  obtain ⟨stream, hstream, hreg⟩ := hreg
  rw [Stream.registration, Registration.mk.injEq] at hreg
  simp [hubMachine, Hub.step, Hub.close, hstream, hreg.2.1, hreg.2.2, Except.map]

/-- A running stream can always end. -/
theorem Hub.remove_completes {hub : Hub μ} {i : ℕ} {nodeId : String} {closed : Bool}
    (hreg : hub.registrations[i]? = some ⟨nodeId, .serving, closed⟩) :
    ∃ post, hub.step (.remove i) = .ok post ∧
      post.registrations[i]? = some ⟨nodeId, .removed, closed⟩ := by
  rw [Hub.getElem?_registrations, Option.map_eq_some_iff] at hreg
  obtain ⟨stream, hstream, hreg⟩ := hreg
  rw [Stream.registration, Registration.mk.injEq] at hreg
  refine ⟨_, by rw [Hub.step, Hub.remove, hstream]; exact if_pos hreg.2.1, ?_⟩
  rw [Hub.getElem?_registrations, List.getElem?_set_self (List.getElem?_eq_some_iff.1 hstream).1,
    Option.map_some, Stream.registration, hreg.1, hreg.2.2]

/-- However the open streams go on to end, no channel is closed twice, if and
only if no `LeaveNetwork` has found a subscription. -/
theorem channels_closed_once_iff {history : HubHistory μ} {hub : Hub μ}
    (run : (hubMachine μ).Run history hub) :
    (∀ events added post, (∀ event ∈ events, event.IsCleanup) →
      (hubMachine μ).trace hub events = .ok (added, post) →
      ∀ event, (hubMachine μ).step post event ≠ .error (.panic .closeOfClosedChannel)) ↔
    LeavesFindNothing history := by
  constructor
  · intro honce
    by_contra hleaves
    obtain ⟨i, nodeId, phase, hreg, hphase⟩ := closed_early_of_run run hleaves
    -- at most one more step, the removal, separates the stream from the second close
    cases phase with
    | ended => exact hphase rfl
    | removed => exact honce [] [] hub (by simp) rfl (.close i) (Hub.close_panics hreg)
    | serving =>
        obtain ⟨post, hpost, hreg'⟩ := Hub.remove_completes hreg
        refine honce [.remove i] [⟨hub, .remove i, (), post⟩] post (by simp [HubEvent.IsCleanup]) ?_
          (.close i) (Hub.close_panics hreg')
        exact Machine.trace_cons_eq_ok.2 ⟨post, (), [], hubMachine_step.2 hpost, rfl, rfl⟩
  · intro hleaves events added post hcleanup htrace event hpanic
    have hrun := run.append_trace htrace
    have hevents := Machine.map_event_trace htrace
    have hnothing : LeavesFindNothing (history ++ added) := by
      intro entry hentry nodeId hevent
      rcases List.mem_append.1 hentry with hentry | hentry
      · exact hleaves entry hentry nodeId hevent
      · have hmem : entry.event ∈ events := hevents ▸ List.mem_map_of_mem hentry
        have hclean := hcleanup _ hmem
        rw [hevent] at hclean
        exact hclean.elim
    exact (Hub.closedByCleanup_of_run hrun hnothing).step_ne_panic (hub_run_wellFormed hrun)
      event (map_eq_error.1 hpanic)

theorem channels_closed_once_two :
    ∃ (history : HubHistory FinalizedCommittee) (hub : Hub FinalizedCommittee),
      (hubMachine FinalizedCommittee).Run history hub ∧ LeavesFindNothing history ∧
      ∀ events added post, (∀ event ∈ events, event.IsCleanup) →
        (hubMachine FinalizedCommittee).trace hub events = .ok (added, post) →
        ∀ event, (hubMachine FinalizedCommittee).step post event ≠
          .error (.panic .closeOfClosedChannel) := by
  have htrace : (hubMachine FinalizedCommittee).trace .empty
    [.join "a", .join "b", .remove 0, .leave "a"] = .ok (_, _) := rfl
  have run := Machine.run_of_trace htrace
  refine (fun hleaves => ⟨_, _, run, hleaves, (channels_closed_once_iff run).2 hleaves⟩) ?_
  refine List.forall_mem_cons.2 ⟨?_, List.forall_mem_cons.2 ⟨?_, List.forall_mem_cons.2 ⟨?_,
    List.forall_mem_singleton.2 ?_⟩⟩⟩ <;> rintro nodeId ⟨⟩
  rfl

/-- A node that leaves and then drops its stream crashes the server. -/
theorem channel_closed_twice :
    ∃ (history : HubHistory FinalizedCommittee) (hub : Hub FinalizedCommittee),
      (hubMachine FinalizedCommittee).Run history hub ∧
      history.map Entry.event = [.join "a", .leave "a", .remove 0] ∧
      (hubMachine FinalizedCommittee).step hub (.close 0) =
        .error (.panic .closeOfClosedChannel) := by
  have htrace : (hubMachine FinalizedCommittee).trace .empty
    [.join "a", .leave "a", .remove 0] = .ok (_, _) := rfl
  exact ⟨_, _, Machine.run_of_trace htrace, rfl, rfl⟩

/-! ## Replacing a stream -/

/-- The most recent `JoinNetwork` of a node id that no `LeaveNetwork` followed. -/
def latestJoin (nodeId : String) (history : HubHistory μ) : Option ℕ :=
  history.foldl (fun latest entry =>
    match entry.event with
    | .join joined => if joined = nodeId then some entry.pre.streams.length else latest
    | .leave left => if left = nodeId then none else latest
    | _ => latest) none

/-- The most recent stream of every node is registered while it is open, and a
broadcast pushes its message to it. -/
def LiveRegistered (history : HubHistory μ) (hub : Hub μ) : Prop :=
  ∀ nodeId i stream, latestJoin nodeId history = some i → hub.streams[i]? = some stream →
    stream.phase = .serving →
    hub.subs.lookup nodeId = some i ∧
      ∀ msg, ∃ post, hub.broadcast msg = .ok post ∧ post.streams[i]? = some (stream.push msg)

/-- No stream ends while a newer stream of the same node is open. -/
def EndsBeforeSuccessor (past : HubHistory μ) (hub : Hub μ) (event : HubEvent μ) : Prop :=
  ∀ i stream, event = .remove i → hub.streams[i]? = some stream →
    ∀ k newer, latestJoin stream.nodeId past = some k → k ≠ i → hub.streams[k]? = some newer →
      newer.phase ≠ .serving

/-- Stream `i` is of the node, and registered for it while it is open. -/
def Hub.RegisteredFor (hub : Hub μ) (nodeId : String) (i : ℕ) : Prop :=
  ∃ phase closed, hub.registrations[i]? = some ⟨nodeId, phase, closed⟩ ∧
    (phase = .serving → hub.subs.lookup nodeId = some i)

/-- The most recent stream of every node is registered for it while it is open. -/
def Hub.LatestRegistered (history : HubHistory μ) (hub : Hub μ) : Prop :=
  ∀ nodeId i, latestJoin nodeId history = some i → hub.RegisteredFor nodeId i

theorem Hub.registeredFor_join {hub post : Hub μ} {nodeId : String}
    (heffect : hub.Effect post (.join nodeId)) :
    post.RegisteredFor nodeId hub.registrations.length := by
  refine ⟨.serving, false, by simp [heffect.2], fun _ => ?_⟩
  rw [heffect.1, GoMap.lookup_insert_eq, if_pos rfl]

theorem Hub.RegisteredFor.join {hub post : Hub μ} {nodeId joined : String} {i : ℕ}
    (h : hub.RegisteredFor nodeId i) (heffect : hub.Effect post (.join joined))
    (hne : nodeId ≠ joined) : post.RegisteredFor nodeId i := by
  obtain ⟨phase, closed, hreg, hsub⟩ := h
  refine ⟨phase, closed, ?_, fun hphase => ?_⟩
  · rw [heffect.2, List.getElem?_append_left (List.getElem?_eq_some_iff.1 hreg).1, hreg]
  · rw [heffect.1, GoMap.lookup_insert_eq, if_neg hne, hsub hphase]

theorem Hub.RegisteredFor.leave {hub post : Hub μ} {nodeId left : String} {i : ℕ}
    (h : hub.RegisteredFor nodeId i) (hwf : hub.WellFormed)
    (heffect : hub.Effect post (.leave left)) (hne : nodeId ≠ left) :
    post.RegisteredFor nodeId i := by
  rcases heffect with ⟨-, rfl⟩ | ⟨ch, hch, hsubs, hregs⟩
  · exact h
  · obtain ⟨phase, closed, hreg, hsub⟩ := h
    -- the channel that was found is of the node that leaves
    have hother : ch ≠ i := by
      rintro rfl
      rw [hwf left ch hch] at hreg
      simp only [Option.some.injEq, Registration.mk.injEq] at hreg
      exact hne hreg.1.symm
    refine ⟨phase, closed, by rw [hregs, List.getElem?_set_ne hother, hreg], fun hphase => ?_⟩
    rw [hsubs, GoMap.lookup_erase_eq, if_neg hne, hsub hphase]

/-- The end of a stream takes the registration of its node along, so that of
another stream of the node is kept only if it is not open. -/
theorem Hub.RegisteredFor.remove {hub post : Hub μ} {nodeId : String} {i k : ℕ}
    (h : hub.RegisteredFor nodeId i) (heffect : hub.Effect post (.remove k))
    (hends : k ≠ i → ∀ closed closed', hub.registrations[k]? = some ⟨nodeId, .serving, closed⟩ →
      hub.registrations[i]? ≠ some ⟨nodeId, .serving, closed'⟩) :
    post.RegisteredFor nodeId i := by
  obtain ⟨phase, closed, hreg, hsub⟩ := h
  obtain ⟨removed, closed', hk, hsubs, hregs⟩ := heffect
  by_cases hki : k = i
  · subst hki
    rw [hreg] at hk
    simp only [Option.some.injEq, Registration.mk.injEq] at hk
    obtain ⟨rfl, -, rfl⟩ := hk
    exact ⟨.removed, closed, by
      rw [hregs, List.getElem?_set_self (List.getElem?_eq_some_iff.1 hreg).1], by simp⟩
  · refine ⟨phase, closed, by rw [hregs, List.getElem?_set_ne hki, hreg], fun hphase => ?_⟩
    have hne : nodeId ≠ removed := by
      rintro rfl
      exact hends hki closed' closed hk (hphase ▸ hreg)
    rw [hsubs, GoMap.lookup_erase_eq, if_neg hne, hsub hphase]

theorem Hub.RegisteredFor.close {hub post : Hub μ} {nodeId : String} {i k : ℕ}
    (h : hub.RegisteredFor nodeId i) (heffect : hub.Effect post (.close k)) :
    post.RegisteredFor nodeId i := by
  obtain ⟨phase, closed, hreg, hsub⟩ := h
  obtain ⟨ended, hk, hsubs, hregs⟩ := heffect
  by_cases hki : k = i
  · subst hki
    rw [hreg] at hk
    simp only [Option.some.injEq, Registration.mk.injEq] at hk
    obtain ⟨rfl, -, -⟩ := hk
    exact ⟨.ended, true, by
      rw [hregs, List.getElem?_set_self (List.getElem?_eq_some_iff.1 hreg).1], by simp⟩
  · exact ⟨phase, closed, by rw [hregs, List.getElem?_set_ne hki, hreg], by rwa [hsubs]⟩

/-- An event that touches no registration. -/
theorem Hub.RegisteredFor.same {hub post : Hub μ} {nodeId : String} {i : ℕ}
    (h : hub.RegisteredFor nodeId i)
    (hsame : post.subs = hub.subs ∧ post.registrations = hub.registrations) :
    post.RegisteredFor nodeId i := by
  unfold RegisteredFor
  rw [hsame.1, hsame.2]
  exact h

/-- The stream that ends is of another node, or the newer stream is no longer open. -/
theorem EndsBeforeSuccessor.registrations {history : HubHistory μ} {hub : Hub μ} {k i : ℕ}
    (hends : EndsBeforeSuccessor history hub (.remove k)) {nodeId : String}
    (hi : latestJoin nodeId history = some i) (hki : k ≠ i) (closed closed' : Bool)
    (hk : hub.registrations[k]? = some ⟨nodeId, .serving, closed⟩) :
    hub.registrations[i]? ≠ some ⟨nodeId, .serving, closed'⟩ := by
  intro hreg
  rw [Hub.getElem?_registrations, Option.map_eq_some_iff] at hk hreg
  obtain ⟨stream, hstream, hk⟩ := hk
  obtain ⟨newer, hnewer, hreg⟩ := hreg
  rw [Stream.registration, Registration.mk.injEq] at hk hreg
  exact hends k stream rfl hstream i newer (by rw [hk.1]; exact hi) (Ne.symm hki) hnewer hreg.2.1

theorem Hub.latestRegistered_step {history : HubHistory μ} {hub post : Hub μ} {event : HubEvent μ}
    (hlatest : hub.LatestRegistered history) (hwf : hub.WellFormed)
    (hends : EndsBeforeSuccessor history hub event) (h : hub.step event = .ok post) :
    post.LatestRegistered (history ++ [⟨hub, event, (), post⟩]) := by
  have heffect := hwf.effect h
  intro nodeId i hi
  rw [latestJoin, List.foldl_append, List.foldl_cons, List.foldl_nil, ← latestJoin] at hi
  -- `hi` is about the longer history: a join or a leave of the node changes its stream
  cases event with
  | join joined =>
      simp only at hi
      split_ifs at hi with heq
      · rw [Option.some.injEq, ← Hub.registrations_length] at hi
        subst hi heq
        exact Hub.registeredFor_join heffect
      · exact (hlatest nodeId i hi).join heffect (Ne.symm heq)
  | leave left =>
      simp only at hi
      split_ifs at hi with heq
      exact (hlatest nodeId i hi).leave hwf heffect (Ne.symm heq)
  | broadcast msg => exact (hlatest nodeId i hi).same heffect
  | receive k => exact (hlatest nodeId i hi).same heffect
  | remove k =>
      exact (hlatest nodeId i hi).remove heffect (hends.registrations hi)
  | close k => exact (hlatest nodeId i hi).close heffect

theorem Hub.latestRegistered_of_run {history : HubHistory μ} {hub : Hub μ}
    (run : (hubMachine μ).Run history hub) (along : Machine.Along EndsBeforeSuccessor history) :
    hub.LatestRegistered history := by
  refine run.invariant along ?_ ?_
  · intro nodeId i h
    cases h
  · intro history pre event post reply hrun hlatest hends hstep
    exact latestRegistered_step hlatest (hub_run_wellFormed hrun) hends (hubMachine_step.1 hstep)

/-- What is registered receives the next broadcast. -/
theorem Hub.LatestRegistered.live {history : HubHistory μ} {hub : Hub μ}
    (hlatest : hub.LatestRegistered history) (hwf : hub.WellFormed) :
    LiveRegistered history hub := by
  intro nodeId i stream hi hstream hphase
  obtain ⟨phase, closed, hreg, hsub⟩ := hlatest nodeId i hi
  rw [Hub.getElem?_registrations, hstream, Option.map_some, Option.some.injEq,
    Stream.registration, Registration.mk.injEq] at hreg
  have hsub := hsub (hreg.2.1 ▸ hphase)
  refine ⟨hsub, fun msg => ?_⟩
  obtain ⟨post, hpost, -, hin, -⟩ := hwf.broadcast msg
  exact ⟨post, hpost, by rw [hin nodeId i hsub, hstream, Option.map_some]⟩

/-- The most recent open stream of every node stays registered throughout a run,
if and only if no stream of the run ends while a newer one of its node is open. -/
theorem live_subscription_kept_iff {history : HubHistory μ} {hub : Hub μ}
    (run : (hubMachine μ).Run history hub) :
    (∀ past future reached, history = past ++ future → (hubMachine μ).Run past reached →
      LiveRegistered past reached) ↔ Machine.Along EndsBeforeSuccessor history := by
  constructor
  · rintro hlive past entry future rfl i stream hevent hstream k newer hlatest hne hnewer hserving
    obtain ⟨hpast, hstep⟩ := run.split
    have hwf := hub_run_wellFormed hpast
    -- the registration is gone after the step, and the newer stream is still open
    have hafter := hlive (past ++ [entry]) future entry.post (by simp) (hpast.snoc hstep)
    rw [hevent, hubMachine_step] at hstep
    simp only [Hub.step, Hub.remove, hstream] at hstep
    split_ifs at hstep with hphase
    rw [Except.ok.injEq] at hstep
    have hlookup := hafter stream.nodeId k newer (by
      rw [latestJoin, List.foldl_append, List.foldl_cons, List.foldl_nil, ← latestJoin, hevent,
        hlatest]) (by rw [← hstep, List.getElem?_set_ne (Ne.symm hne), hnewer]) hserving
    rw [← hstep, GoMap.lookup_erase_eq, if_pos rfl] at hlookup
    cases hlookup.1
  · rintro along past future reached rfl hrun
    exact (Hub.latestRegistered_of_run hrun along.of_append).live (hub_run_wellFormed hrun)

theorem live_subscription_kept_two :
    ∃ (history : HubHistory FinalizedCommittee) (hub : Hub FinalizedCommittee),
      (hubMachine FinalizedCommittee).Run history hub ∧
      history.map Entry.event = [.join "a", .remove 0, .join "a"] ∧
      Machine.Along EndsBeforeSuccessor history ∧
      ∀ past future reached, history = past ++ future →
        (hubMachine FinalizedCommittee).Run past reached → LiveRegistered past reached := by
  have run := (Machine.Run.nil (M := hubMachine FinalizedCommittee)).next (.join "a") rfl
  have run := run.next (.remove 0) rfl
  have run := run.next (.join "a") rfl
  refine (fun along => ⟨_, _, run, rfl, along, (live_subscription_kept_iff run).2 along⟩) ?_
  refine Machine.along_snoc.2 ⟨Machine.along_snoc.2 ⟨Machine.along_snoc.2
    ⟨Machine.along_nil, ?_⟩, ?_⟩, ?_⟩
  · rintro i stream ⟨⟩
  · rintro i stream ⟨⟩ ⟨⟩ k newer ⟨⟩ hne
    exact absurd rfl hne
  · rintro i stream ⟨⟩

/-- A node reconnects before its old stream has ended, and the cleanup of the old
stream unregisters the new one: a broadcast does not reach the node. -/
theorem live_subscription_lost :
    ∃ (history : HubHistory FinalizedCommittee) (hub : Hub FinalizedCommittee)
      (stream : Stream FinalizedCommittee),
      (hubMachine FinalizedCommittee).Run history hub ∧
      history.map Entry.event = [.join "a", .join "a", .remove 0] ∧
      latestJoin "a" history = some 1 ∧ hub.streams[1]? = some stream ∧
      stream.phase = .serving ∧ hub.subs.lookup "a" = none ∧
      ∀ msg, hub.broadcast msg = .ok hub := by
  have htrace : (hubMachine FinalizedCommittee).trace .empty
    [.join "a", .join "a", .remove 0] = .ok (_, _) := rfl
  exact ⟨_, _, _, Machine.run_of_trace htrace, rfl, rfl, rfl, rfl, rfl, fun _ => rfl⟩

end MeshCosi.Network
