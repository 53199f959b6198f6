import Mathlib.Data.List.ReduceOption
import MeshCosi.Network.Subscriptions

/-!
# What a stream sends

A message that is broadcast goes into the buffer of every registered channel
that has room, and the receive loop of `JoinNetwork` hands the buffer to the
stream in order.  The loop does not ask whether the channel was closed: once
`LeaveNetwork` has closed the channel and the buffer is empty, every iteration
sends a nil message.

An event delivers to a stream in one of four ways (`Delivery`), and what holds
over runs is read off them:

| delivery  | sent       | buffer   | `broadcastsTo`    |
|-----------|------------|----------|-------------------|
| `same`    | same       | same     | same or longer    |
| `pushed`  | same       | + `msg`? | + `msg`           |
| `taken`   | + `msg`    | - `msg`  | same              |
| `drained` | + nil      | empty    | same              |

What was sent and then what is buffered is always a subsequence of what was
broadcast, nil aside (`Delivery.sublist`), and only the last line sends nil
(`Delivery.none_mem_iff`).
-/

namespace MeshCosi.Network

open Foundation

variable {μ : Type}

/-! ## Broadcast and closed channels -/

/-- **Broadcast never sends on a closed channel.**  In every reachable state
what is registered is open and registered once, so `broadcast` completes. -/
theorem broadcast_never_panics {history : HubHistory μ} {hub : Hub μ}
    (run : (hubMachine μ).Run history hub) :
    (∀ nodeId ch, hub.subs.lookup nodeId = some ch →
      ∃ stream, hub.streams[ch]? = some stream ∧ stream.closed = false) ∧
    (∀ first second ch, hub.subs.lookup first = some ch → hub.subs.lookup second = some ch →
      first = second) ∧
    ∀ msg, ∃ post, hub.broadcast msg = .ok post := by
  have hwf := hub_run_wellFormed run
  refine ⟨?_, ?_, ?_⟩
  · intro nodeId ch hsub
    obtain ⟨stream, hstream, -, -, hopen⟩ := hwf.stream hsub
    exact ⟨stream, hstream, hopen⟩
  · intro first second ch hfirst hsecond
    exact hwf.nodeId_eq hfirst hsecond
  · intro msg
    obtain ⟨post, hpost, -⟩ := hwf.broadcast msg
    exact ⟨post, hpost⟩

/-- A node that has joined twice and another that has left. -/
theorem broadcast_never_panics_rejoined :
    ∃ (history : HubHistory FinalizedCommittee) (hub : Hub FinalizedCommittee),
      (hubMachine FinalizedCommittee).Run history hub ∧
      history.map Entry.event = [.join "a", .join "b", .join "a", .leave "b"] ∧
      hub.subs.lookup "a" = some 2 ∧
      (∃ stream, hub.streams[2]? = some stream ∧ stream.closed = false) ∧
      ∃ post, hub.broadcast ⟨1, [], [], [], []⟩ = .ok post := by
  have htrace : (hubMachine FinalizedCommittee).trace .empty
    [.join "a", .join "b", .join "a", .leave "b"] = .ok (_, _) := rfl
  have run := Machine.run_of_trace htrace
  obtain ⟨hopen, -, hbroadcast⟩ := broadcast_never_panics run
  exact ⟨_, _, run, rfl, rfl, hopen "a" 2 rfl, hbroadcast _⟩

/-! ## What an event does to the messages -/

/-- The channel of a stream is registered, under whatever node id. -/
def Hub.Registered (hub : Hub μ) (i : ℕ) : Prop :=
  ∃ nodeId ∈ hub.subs.keys, hub.subs.lookup nodeId = some i

instance (hub : Hub μ) (i : ℕ) : Decidable (hub.Registered i) :=
  inferInstanceAs (Decidable (∃ nodeId ∈ hub.subs.keys, hub.subs.lookup nodeId = some i))

theorem Hub.registered_iff {hub : Hub μ} {i : ℕ} :
    hub.Registered i ↔ ∃ nodeId, hub.subs.lookup nodeId = some i := by
  constructor
  · rintro ⟨nodeId, -, hsub⟩
    exact ⟨nodeId, hsub⟩
  · rintro ⟨nodeId, hsub⟩
    exact ⟨nodeId, Finmap.mem_keys.2 (Finmap.mem_of_lookup_eq_some hsub), hsub⟩

/-- What an event does to the messages of a stream. -/
inductive Delivery (hub : Hub μ) : HubEvent μ → ℕ → Stream μ → Stream μ → Prop
  | same {event : HubEvent μ} {i : ℕ} {stream after : Stream μ} (hevent : event ≠ .receive i)
      (hsent : after.sent = stream.sent) (hbuffer : after.buffer = stream.buffer) :
      Delivery hub event i stream after
  | pushed {msg : μ} {i : ℕ} {stream : Stream μ} (hregistered : hub.Registered i) :
      Delivery hub (.broadcast msg) i stream (stream.push msg)
  | taken {i : ℕ} {stream : Stream μ} {msg : μ} {rest : List μ}
      (hbuffer : stream.buffer = msg :: rest) :
      Delivery hub (.receive i) i stream
        { stream with buffer := rest, sent := stream.sent ++ [some msg] }
  /-- The channel is closed and drained: the loop sends nil. -/
  | drained {i : ℕ} {stream : Stream μ} (hclosed : stream.closed = true)
      (hbuffer : stream.buffer = []) :
      Delivery hub (.receive i) i stream { stream with sent := stream.sent ++ [none] }

/-- What an event does to the messages of all streams: those there are keep
theirs up to a delivery, and a new one has none. -/
structure Hub.Delivers (hub post : Hub μ) (event : HubEvent μ) : Prop where
  kept : ∀ (i : ℕ) stream, hub.streams[i]? = some stream →
    ∃ after, post.streams[i]? = some after ∧ Delivery hub event i stream after
  fresh : ∀ (i : ℕ) after, hub.streams[i]? = none → post.streams[i]? = some after →
    after.sent = [] ∧ after.buffer = []

/-- Replacing one stream delivers to that stream only. -/
private theorem delivers_set {hub : Hub μ} {event : HubEvent μ} {k : ℕ} {old new : Stream μ}
    (hold : hub.streams[k]? = some old) (hevent : ∀ i, k ≠ i → event ≠ .receive i)
    (hnew : Delivery hub event k old new) (subs : GoMap String ℕ) :
    hub.Delivers ⟨subs, hub.streams.set k new⟩ event := by
  have hlt := (List.getElem?_eq_some_iff.1 hold).1
  constructor
  · intro i stream hstream
    by_cases heq : k = i
    · subst heq
      rw [hold, Option.some.injEq] at hstream
      subst hstream
      exact ⟨new, List.getElem?_set_self hlt, hnew⟩
    · exact ⟨stream, by rw [List.getElem?_set_ne heq, hstream], .same (hevent i heq) rfl rfl⟩
  · intro i after hnone hafter
    have hle : hub.streams.length ≤ i := List.getElem?_eq_none_iff.1 hnone
    rw [List.getElem?_set_ne (by omega), hnone] at hafter
    cases hafter

theorem Hub.delivers_joinNetwork (hub : Hub μ) (nodeId : String) :
    hub.Delivers (hub.joinNetwork nodeId) (.join nodeId) := by
  constructor
  · intro i stream hstream
    have hlt := (List.getElem?_eq_some_iff.1 hstream).1
    exact ⟨stream, by rw [joinNetwork, List.getElem?_append_left hlt, hstream],
      .same (by simp) rfl rfl⟩
  · intro i after hnone hafter
    rw [joinNetwork, List.getElem?_append_right (List.getElem?_eq_none_iff.1 hnone)] at hafter
    have hmem := List.mem_of_getElem? hafter
    rw [List.mem_singleton] at hmem
    rw [hmem]
    exact ⟨rfl, rfl⟩

theorem Hub.WellFormed.delivers_broadcast {hub post : Hub μ} (hwf : hub.WellFormed) {msg : μ}
    (h : hub.broadcast msg = .ok post) : hub.Delivers post (.broadcast msg) := by
  obtain ⟨after, hafter, -, hin, hout⟩ := hwf.broadcast msg
  rw [hafter, Except.ok.injEq] at h
  subst h
  constructor
  · intro i stream hstream
    by_cases hregistered : hub.Registered i
    · obtain ⟨nodeId, hsub⟩ := Hub.registered_iff.1 hregistered
      exact ⟨stream.push msg, by rw [hin nodeId i hsub, hstream, Option.map_some],
        .pushed hregistered⟩
    · rw [Hub.registered_iff, not_exists] at hregistered
      exact ⟨stream, by rw [hout i hregistered, hstream], .same (by simp) rfl rfl⟩
  · intro i stream hnone hstream
    by_cases hregistered : ∃ nodeId, hub.subs.lookup nodeId = some i
    · obtain ⟨nodeId, hsub⟩ := hregistered
      rw [hin nodeId i hsub, hnone] at hstream
      cases hstream
    · rw [not_exists] at hregistered
      rw [hout i hregistered, hnone] at hstream
      cases hstream

theorem Hub.WellFormed.delivers {hub post : Hub μ} (hwf : hub.WellFormed) {event : HubEvent μ}
    (h : hub.step event = .ok post) : hub.Delivers post event := by
  cases event with
  | join nodeId =>
      rw [Hub.step, Except.ok.injEq] at h
      subst h
      exact hub.delivers_joinNetwork nodeId
  | leave nodeId =>
      rw [Hub.step, Go.run_eq_ok] at h
      rcases hwf.leaveNetwork_cases h with ⟨-, rfl⟩ | ⟨ch, stream, -, hstream, -, -, rfl⟩
      · refine ⟨fun i stream hstream => ⟨stream, hstream, .same (by simp) rfl rfl⟩, ?_⟩
        intro i after hnone hafter
        rw [hnone] at hafter
        cases hafter
      · refine delivers_set hstream (by simp) ?_ _
        exact .same (by simp) rfl rfl
  | broadcast msg =>
      rw [Hub.step, Go.run_eq_ok] at h
      exact hwf.delivers_broadcast h
  | receive i =>
      obtain ⟨stream, hstream, -, hmessage⟩ := Hub.exists_of_receive h
      have hother : ∀ k, i ≠ k → HubEvent.receive (μ := μ) i ≠ .receive k := by
        intro k hne heq
        exact hne (HubEvent.receive.inj heq)
      rcases hmessage with ⟨msg, rest, hbuffer, rfl⟩ | ⟨hbuffer, hclosed, rfl⟩
      · exact delivers_set hstream hother (.taken hbuffer) _
      · exact delivers_set hstream hother (.drained hclosed hbuffer) _
  | remove i =>
      obtain ⟨stream, hstream, -, rfl⟩ := Hub.exists_of_remove h
      refine delivers_set hstream (by simp) ?_ _
      exact .same (by simp) rfl rfl
  | close i =>
      obtain ⟨stream, hstream, -, -, rfl⟩ := Hub.exists_of_close h
      refine delivers_set hstream (by simp) ?_ _
      exact .same (by simp) rfl rfl

/-! ## What is sent, over whole runs -/

/-- The messages passed to `broadcast` while the channel was registered. -/
def broadcastsTo (i : ℕ) (history : HubHistory μ) : List μ :=
  history.filterMap fun entry =>
    match entry.event with
    | .broadcast msg => if entry.pre.Registered i then some msg else none
    | _ => none

theorem broadcastsTo_snoc (i : ℕ) (history : HubHistory μ)
    (entry : Entry (Hub μ) (HubEvent μ) Unit) :
    broadcastsTo i (history ++ [entry]) = broadcastsTo i history ++ broadcastsTo i [entry] := by
  rw [broadcastsTo, List.filterMap_append]
  rfl

/-- One delivery: what was sent and what is still in the buffer stays among the
messages that were broadcast. -/
theorem Delivery.sublist {hub post : Hub μ} {event : HubEvent μ} {i : ℕ}
    {stream after : Stream μ} (h : Delivery hub event i stream after) {history : HubHistory μ}
    (hsub : (stream.sent.reduceOption ++ stream.buffer).Sublist (broadcastsTo i history)) :
    (after.sent.reduceOption ++ after.buffer).Sublist
      (broadcastsTo i (history ++ [⟨hub, event, (), post⟩])) := by
  rw [broadcastsTo_snoc]
  have hlonger : ∀ later : List μ, (stream.sent.reduceOption ++ stream.buffer).Sublist
      (broadcastsTo i history ++ later) :=
    fun later => hsub.trans (List.sublist_append_left _ later)
  cases h with
  | same _ hsent hbuffer =>
      rw [hsent, hbuffer]
      exact hlonger _
  | @pushed msg _ _ hregistered =>
      have hlast : broadcastsTo i [⟨hub, .broadcast msg, (), post⟩] = [msg] := by
        simp [broadcastsTo, hregistered]
      rw [hlast]
      unfold Stream.push
      split_ifs
      · rw [← List.append_assoc]
        exact hsub.append (List.Sublist.refl [msg])
      · exact hlonger [msg]
  | taken hbuffer =>
      rw [hbuffer] at hlonger
      rw [List.reduceOption_append, List.append_assoc]
      exact hlonger _
  | drained hclosed hbuffer =>
      rw [List.reduceOption_append, List.append_assoc]
      exact hlonger _

/-- The messages a stream has sent, nil ones aside, and then those in its
buffer, are among the messages broadcast to it, in order. -/
theorem delivered_sublist {history : HubHistory μ} {hub : Hub μ}
    (run : (hubMachine μ).Run history hub) :
    ∀ (i : ℕ) stream, hub.streams[i]? = some stream →
      (stream.sent.reduceOption ++ stream.buffer).Sublist (broadcastsTo i history) := by
  induction run with
  | nil =>
      intro i stream hstream
      simp [hubMachine, Hub.empty] at hstream
  | @snoc history pre post event reply run hstep ih =>
      have hdelivers := (hub_run_wellFormed run).delivers (hubMachine_step.1 hstep)
      intro i after hafter
      cases hstream : pre.streams[i]? with
      | none =>
          obtain ⟨hsent, hbuffer⟩ := hdelivers.fresh i after hstream hafter
          rw [hsent, hbuffer]
          exact List.nil_sublist _
      | some stream =>
          obtain ⟨after', hafter', hdelivery⟩ := hdelivers.kept i stream hstream
          rw [hafter, Option.some.injEq] at hafter'
          subst hafter'
          exact hdelivery.sublist (ih i stream hstream)

/-- The event is not an iteration of the receive loop on a closed and drained channel. -/
def NoDrainedReceive (hub : Hub μ) (event : HubEvent μ) : Prop :=
  ∀ i stream, event = .receive i → hub.streams[i]? = some stream → stream.closed = true →
    stream.buffer ≠ []

/-- No stream has sent a nil message. -/
def Hub.NoNilSent (hub : Hub μ) : Prop :=
  ∀ (i : ℕ) stream, hub.streams[i]? = some stream → none ∉ stream.sent

/-- A delivery leaves what was sent, and adds nil only on a drained channel. -/
theorem Delivery.none_mem_iff {hub : Hub μ} {event : HubEvent μ} {i : ℕ}
    {stream after : Stream μ} (h : Delivery hub event i stream after) :
    none ∈ after.sent ↔ none ∈ stream.sent ∨
      event = .receive i ∧ stream.closed = true ∧ stream.buffer = [] := by
  cases h with
  | same hevent hsent _ =>
      rw [hsent]
      exact ⟨Or.inl, fun h => h.resolve_right fun hdrained => hevent hdrained.1⟩
  | pushed _ =>
      have hsent : ∀ msg, (stream.push msg).sent = stream.sent := by
        intro msg
        unfold Stream.push
        split_ifs <;> rfl
      rw [hsent]
      simp
  | taken hbuffer => simp [hbuffer]
  | drained hclosed hbuffer => simp [hclosed, hbuffer]

theorem Hub.Delivers.noNilSent_iff {hub post : Hub μ} {event : HubEvent μ}
    (h : hub.Delivers post event) :
    post.NoNilSent ↔ hub.NoNilSent ∧ NoDrainedReceive hub event := by
  constructor
  · intro hpost
    refine ⟨?_, ?_⟩
    · intro i stream hstream hmem
      obtain ⟨after, hafter, hdelivery⟩ := h.kept i stream hstream
      exact hpost i after hafter (hdelivery.none_mem_iff.2 (Or.inl hmem))
    · intro i stream hevent hstream hclosed hbuffer
      obtain ⟨after, hafter, hdelivery⟩ := h.kept i stream hstream
      exact hpost i after hafter (hdelivery.none_mem_iff.2 (Or.inr ⟨hevent, hclosed, hbuffer⟩))
  · -- a nil that is there now was there before, or comes from this step
    intro ⟨hpre, hdrained⟩ i after hafter hmem
    cases hstream : hub.streams[i]? with
    | none =>
        rw [(h.fresh i after hstream hafter).1] at hmem
        cases hmem
    | some stream =>
        obtain ⟨after', hafter', hdelivery⟩ := h.kept i stream hstream
        rw [hafter, Option.some.injEq] at hafter'
        subst hafter'
        rcases hdelivery.none_mem_iff.1 hmem with hold | ⟨hevent, hclosed, hbuffer⟩
        · exact hpre i stream hstream hold
        · exact hdrained i stream hevent hstream hclosed hbuffer

/-- Nil messages come from drained channels only. -/
theorem noNilSent_iff {history : HubHistory μ} {hub : Hub μ}
    (run : (hubMachine μ).Run history hub) :
    hub.NoNilSent ↔ Machine.Along (fun _ => NoDrainedReceive) history := by
  induction run with
  | nil =>
      refine iff_of_true ?_ Machine.along_nil
      intro i stream hstream
      simp [hubMachine, Hub.empty] at hstream
  | snoc run hstep ih =>
      have hdelivers := (hub_run_wellFormed run).delivers (hubMachine_step.1 hstep)
      rw [Machine.along_snoc, hdelivers.noNilSent_iff, ih]

private theorem map_some_reduceOption {list : List (Option μ)} (h : none ∉ list) :
    list.reduceOption.map some = list := by
  induction list with
  | nil => rfl
  | cons a list ih =>
      rw [List.mem_cons, not_or] at h
      cases a with
      | none => exact absurd rfl h.1
      | some msg => rw [List.reduceOption_cons_of_some, List.map_cons, ih h.2]

/-- **What a stream carries.**  In a run of joins, leaves, broadcasts, cleanups
and iterations of the receive loop, every stream has sent a subsequence of the
messages broadcast while its channel was registered, if and only if no
iteration of the loop ran on a closed and drained channel. -/
theorem streams_carry_broadcasts_iff {history : HubHistory μ} {hub : Hub μ}
    (run : (hubMachine μ).Run history hub) :
    (∀ (i : ℕ) stream, hub.streams[i]? = some stream →
      stream.sent.Sublist ((broadcastsTo i history).map some)) ↔
    Machine.Along (fun _ => NoDrainedReceive) history := by
  rw [← noNilSent_iff run]
  constructor
  · intro h i stream hstream hmem
    have hbroadcast := (h i stream hstream).subset hmem
    simp at hbroadcast
  · intro h i stream hstream
    rw [← map_some_reduceOption (h i stream hstream)]
    apply List.Sublist.map
    exact (List.sublist_append_left _ _).trans (delivered_sublist run i stream hstream)

/-- A node joins, a committee is broadcast and sent, and the node leaves. -/
theorem streams_carry_broadcasts_one :
    ∃ (history : HubHistory FinalizedCommittee) (hub : Hub FinalizedCommittee),
      (hubMachine FinalizedCommittee).Run history hub ∧
      history.map Entry.event =
        [.join "a", .broadcast ⟨1, [], [], [], []⟩, .receive 0, .leave "a"] ∧
      Machine.Along (fun _ => NoDrainedReceive) history ∧
      ∀ (i : ℕ) stream, hub.streams[i]? = some stream →
        stream.sent.Sublist ((broadcastsTo i history).map some) := by
  have htrace : (hubMachine FinalizedCommittee).trace .empty
    [.join "a", .broadcast ⟨1, [], [], [], []⟩, .receive 0, .leave "a"] = .ok (_, _) := rfl
  have run := Machine.run_of_trace htrace
  refine (fun along => ⟨_, _, run, rfl, along, (streams_carry_broadcasts_iff run).2 along⟩) ?_
  apply (noNilSent_iff run).1
  intro i stream hstream
  cases i with
  | zero =>
      rw [← Option.some.inj hstream]
      change none ∉ [some (⟨1, [], [], [], []⟩ : FinalizedCommittee)]
      decide
  | succ i => cases hstream

/-- After a leave the receive loop sends nil: nothing was broadcast, and one
message was sent. -/
theorem nil_sent_after_leave :
    ∃ (history : HubHistory FinalizedCommittee) (hub : Hub FinalizedCommittee)
      (stream : Stream FinalizedCommittee),
      (hubMachine FinalizedCommittee).Run history hub ∧
      history.map Entry.event = [.join "a", .leave "a", .receive 0] ∧
      hub.streams[0]? = some stream ∧ stream.sent = [none] ∧ broadcastsTo 0 history = [] ∧
      ¬ stream.sent.Sublist ((broadcastsTo 0 history).map some) := by
  have htrace : (hubMachine FinalizedCommittee).trace .empty
    [.join "a", .leave "a", .receive 0] = .ok (_, _) := rfl
  refine ⟨_, _, _, Machine.run_of_trace htrace, rfl, rfl, rfl, rfl, fun h => ?_⟩
  exact absurd h.length_le (by decide)

end MeshCosi.Network
