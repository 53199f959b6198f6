import MeshCosi.Network.Subscriptions

/-!
# What reaches a subscriber

Runs in which nodes join under ids of their own, messages are broadcast and
streams send what they receive, and in which nobody leaves.  Every stream is
registered from its join on, so every broadcast offers its message to it; the
message is lost only if the buffer is full.  What the stream then sends depends
on the broadcasts and on its own iterations, not on the other subscribers: the
run in which it is the only one ends with the same stream.

The proof follows one stream through the run.

1. `Hub.AllRegistered` holds in all these runs, which makes a broadcast a push to
   every stream (`Hub.AllRegistered.getElem?_broadcast`).
2. So an event does one of three things to a stream that is there: it pushes a
   message, takes one, or leaves the stream alone (`Served`).
3. `Delivered` is kept by each of the three (`Delivered.pushed`, `Delivered.taken`,
   `Delivered.untouched`), and holds when a stream joins, because before that nothing
   was offered to it (`Serving.nothing_before`).

The solo run in `Delivered` is built along with the run: its hub has the stream as
its only one (`Hub.alone`), so its steps are those of step 2.
-/

namespace MeshCosi.Network

open Foundation

variable {μ : Type}

/-! ## Runs in which nobody leaves -/

/-- A join, a broadcast or an iteration of a receive loop. -/
def HubEvent.Serves : HubEvent μ → Prop
  | .join _ => True
  | .broadcast _ => True
  | .receive _ => True
  | .leave _ => False
  | .remove _ => False
  | .close _ => False

/-- The node ids of the joins, in order. -/
def joinedIds (history : HubHistory μ) : List String :=
  history.filterMap fun entry =>
    match entry.event with
    | .join nodeId => some nodeId
    | _ => none

/-- Nobody leaves, and no node joins twice. -/
structure Serving (history : HubHistory μ) : Prop where
  serves : ∀ entry ∈ history, entry.event.Serves
  distinct : (joinedIds history).Nodup

theorem joinedIds_snoc (history : HubHistory μ) (entry : Entry (Hub μ) (HubEvent μ) Unit) :
    joinedIds (history ++ [entry]) = joinedIds history ++ joinedIds [entry] := by
  rw [joinedIds, List.filterMap_append]
  rfl

theorem Serving.of_append {past future : HubHistory μ} (h : Serving (past ++ future)) :
    Serving past := by
  refine ⟨fun entry hentry => h.serves entry (List.mem_append_left _ hentry), ?_⟩
  have hdistinct := h.distinct
  rw [joinedIds, List.filterMap_append] at hdistinct
  exact hdistinct.of_append_left

/-- Every stream is open and registered under its node id. -/
structure Hub.AllRegistered (hub : Hub μ) (nodeIds : List String) : Prop where
  registrations : hub.registrations = nodeIds.map fun nodeId => ⟨nodeId, .serving, false⟩
  lookup : ∀ (i : ℕ) nodeId, nodeIds[i]? = some nodeId → hub.subs.lookup nodeId = some i

theorem Hub.AllRegistered.join {hub post : Hub μ} {nodeIds : List String} {nodeId : String}
    (h : hub.AllRegistered nodeIds) (hfresh : nodeId ∉ nodeIds)
    (heffect : hub.Effect post (.join nodeId)) : post.AllRegistered (nodeIds ++ [nodeId]) := by
  have hlength : hub.registrations.length = nodeIds.length := by
    rw [h.registrations, List.length_map]
  constructor
  · rw [heffect.2, h.registrations, List.map_append]
    rfl
  · intro i other hother
    rw [heffect.1, hlength, GoMap.lookup_insert_eq]
    rw [List.getElem?_append] at hother
    split_ifs at hother with hi
    · have hne : other ≠ nodeId := by
        rintro rfl
        exact hfresh (List.mem_of_getElem? hother)
      rw [if_neg hne, h.lookup i other hother]
    · obtain ⟨hzero, rfl⟩ := List.getElem?_eq_some_iff.1 hother
      rw [List.length_singleton] at hzero
      rw [if_pos (by simp), show i = nodeIds.length by omega]

theorem Serving.allRegistered {history : HubHistory μ} {hub : Hub μ}
    (run : (hubMachine μ).Run history hub) (h : Serving history) :
    hub.AllRegistered (joinedIds history) := by
  induction run with
  | nil => exact ⟨rfl, fun i nodeId hnone => by simp [joinedIds] at hnone⟩
  | @snoc history pre post event reply run hstep ih =>
      have hpre := ih h.of_append
      have heffect := (hub_run_wellFormed run).effect (hubMachine_step.1 hstep)
      have hserves := h.serves _ (List.mem_append_right _ (List.mem_singleton_self _))
      have hdistinct := h.distinct
      rw [joinedIds_snoc] at hdistinct ⊢
      cases event with
      | join nodeId =>
          refine hpre.join ?_ heffect
          exact List.disjoint_singleton.1 (List.disjoint_of_nodup_append hdistinct)
      | broadcast msg =>
          rw [show joinedIds [⟨pre, .broadcast msg, reply, post⟩] = [] from rfl, List.append_nil]
          exact ⟨heffect.2.trans hpre.registrations, heffect.1 ▸ hpre.lookup⟩
      | receive i =>
          rw [show joinedIds [⟨pre, .receive i, reply, post⟩] = [] from rfl, List.append_nil]
          exact ⟨heffect.2.trans hpre.registrations, heffect.1 ▸ hpre.lookup⟩
      | leave nodeId => exact hserves.elim
      | remove i => exact hserves.elim
      | close i => exact hserves.elim

/-- A stream is open and its channel is the one registered for its node. -/
theorem Hub.AllRegistered.stream {hub : Hub μ} {nodeIds : List String}
    (h : hub.AllRegistered nodeIds) {i : ℕ} {stream : Stream μ}
    (hstream : hub.streams[i]? = some stream) :
    hub.subs.lookup stream.nodeId = some i ∧ stream.phase = .serving ∧ stream.closed = false := by
  have hreg : hub.registrations[i]? = some stream.registration := by
    rw [Hub.getElem?_registrations, hstream, Option.map_some]
  rw [h.registrations, List.getElem?_map, Option.map_eq_some_iff] at hreg
  obtain ⟨nodeId, hnodeId, hreg⟩ := hreg
  rw [Stream.registration, Registration.mk.injEq] at hreg
  exact ⟨hreg.1 ▸ h.lookup i nodeId hnodeId, hreg.2.1.symm, hreg.2.2.symm⟩

theorem Hub.AllRegistered.length {hub : Hub μ} {nodeIds : List String}
    (h : hub.AllRegistered nodeIds) : hub.streams.length = nodeIds.length := by
  rw [← Hub.registrations_length, h.registrations, List.length_map]

/-! ## What a step does to one stream -/

/-- A broadcast pushes its message to every stream. -/
theorem Hub.AllRegistered.getElem?_broadcast {hub post : Hub μ} {nodeIds : List String}
    (h : hub.AllRegistered nodeIds) (hwf : hub.WellFormed) {msg : μ}
    (hpost : hub.broadcast msg = .ok post) (i : ℕ) :
    post.streams[i]? = hub.streams[i]?.map (Stream.push msg) := by
  obtain ⟨sent, hsent, -, hin, hout⟩ := hwf.broadcast msg
  rw [hsent, Except.ok.injEq] at hpost
  subst hpost
  cases hstream : hub.streams[i]? with
  | none =>
      -- no channel is registered for a stream that is not there
      have hnone : ∀ nodeId, hub.subs.lookup nodeId ≠ some i := by
        intro nodeId hsub
        obtain ⟨stream, hsome, -⟩ := hwf.stream hsub
        rw [hstream] at hsome
        cases hsome
      rw [hout i hnone, hstream]
      rfl
  | some stream => rw [hin stream.nodeId i (h.stream hstream).1, hstream]

/-- What an event does to stream `i`. -/
inductive Served (i : ℕ) : HubEvent μ → Stream μ → Stream μ → Prop
  | pushed {msg : μ} {stream : Stream μ} : Served i (.broadcast msg) stream (stream.push msg)
  | taken {stream : Stream μ} {msg : μ} {rest : List μ} (hbuffer : stream.buffer = msg :: rest) :
      Served i (.receive i) stream
        { stream with buffer := rest, sent := stream.sent ++ [some msg] }
  | untouched {event : HubEvent μ} {stream : Stream μ} (hbroadcast : ∀ msg, event ≠ .broadcast msg)
      (hreceive : event ≠ .receive i) : Served i event stream stream

theorem Hub.AllRegistered.served_receive {hub post : Hub μ} {nodeIds : List String}
    (h : hub.AllRegistered nodeIds) {k : ℕ} (hstep : hub.step (.receive k) = .ok post) {i : ℕ}
    {after : Stream μ} (hafter : post.streams[i]? = some after) :
    ∃ stream, hub.streams[i]? = some stream ∧ Served i (.receive k) stream after := by
  obtain ⟨stream, hstream, -, hmessage⟩ := Hub.exists_of_receive hstep
  rcases hmessage with ⟨msg, rest, hbuffer, rfl⟩ | ⟨-, hclosed, -⟩
  · by_cases hk : k = i
    · subst hk
      rw [List.getElem?_set_self (List.getElem?_eq_some_iff.1 hstream).1,
        Option.some.injEq] at hafter
      rw [← hafter]
      exact ⟨stream, hstream, .taken hbuffer⟩
    · rw [List.getElem?_set_ne hk] at hafter
      exact ⟨after, hafter, .untouched (by simp) (by simpa using hk)⟩
  · rw [(h.stream hstream).2.2] at hclosed
    cases hclosed

/-- A stream that there was is served; one that there was not has just joined. -/
theorem Hub.AllRegistered.served {hub post : Hub μ} {nodeIds : List String}
    (h : hub.AllRegistered nodeIds) (hwf : hub.WellFormed) {event : HubEvent μ}
    (hserves : event.Serves) (hstep : hub.step event = .ok post) {i : ℕ} {after : Stream μ}
    (hafter : post.streams[i]? = some after) :
    (∃ stream, hub.streams[i]? = some stream ∧ Served i event stream after) ∨
      ∃ nodeId, event = .join nodeId ∧ i = hub.streams.length ∧
        after = ⟨nodeId, .serving, [], false, []⟩ := by
  cases event with
  | join nodeId =>
      rw [Hub.step, Except.ok.injEq] at hstep
      subst hstep
      rw [Hub.joinNetwork, List.getElem?_append] at hafter
      split_ifs at hafter with hi
      · exact Or.inl ⟨after, hafter, .untouched (by simp) (by simp)⟩
      · obtain ⟨hzero, rfl⟩ := List.getElem?_eq_some_iff.1 hafter
        rw [List.length_singleton] at hzero
        exact Or.inr ⟨nodeId, rfl, by omega, by simp⟩
  | broadcast msg =>
      rw [Hub.step, Go.run_eq_ok] at hstep
      rw [h.getElem?_broadcast hwf hstep, Option.map_eq_some_iff] at hafter
      obtain ⟨stream, hstream, rfl⟩ := hafter
      exact Or.inl ⟨stream, hstream, .pushed⟩
  | receive k => exact Or.inl (h.served_receive hstep hafter)
  | leave nodeId => exact hserves.elim
  | remove k => exact hserves.elim
  | close k => exact hserves.elim

/-! ## Messages and iterations of one stream -/

/-- The messages broadcast since stream `i` joined, except those broadcast while
its channel was full. -/
def acceptedBy (i : ℕ) (history : HubHistory μ) : List μ :=
  history.filterMap fun entry =>
    match entry.event, entry.pre.streams[i]? with
    | .broadcast msg, some stream =>
        if stream.buffer.length = chanCapacity then none else some msg
    | _, _ => none

/-- The broadcasts since stream `i` joined and its own iterations, as they are
when it is the only stream. -/
def ownEvents (i : ℕ) (history : HubHistory μ) : List (HubEvent μ) :=
  history.filterMap fun entry =>
    match entry.event, entry.pre.streams[i]? with
    | .broadcast msg, some _ => some (.broadcast msg)
    | .receive k, some _ => if k = i then some (.receive 0) else none
    | _, _ => none

theorem acceptedBy_snoc (i : ℕ) (history : HubHistory μ)
    (entry : Entry (Hub μ) (HubEvent μ) Unit) :
    acceptedBy i (history ++ [entry]) = acceptedBy i history ++ acceptedBy i [entry] := by
  rw [acceptedBy, List.filterMap_append]
  rfl

theorem ownEvents_snoc (i : ℕ) (history : HubHistory μ)
    (entry : Entry (Hub μ) (HubEvent μ) Unit) :
    ownEvents i (history ++ [entry]) = ownEvents i history ++ ownEvents i [entry] := by
  rw [ownEvents, List.filterMap_append]
  rfl

/-- Before its join a stream is offered nothing. -/
theorem Serving.nothing_before {history : HubHistory μ} {hub : Hub μ}
    (run : (hubMachine μ).Run history hub) (h : Serving history) {i : ℕ}
    (hi : hub.streams.length ≤ i) : acceptedBy i history = [] ∧ ownEvents i history = [] := by
  have hnone : ∀ entry ∈ history, entry.pre.streams[i]? = none := by
    intro entry hentry
    obtain ⟨past, future, rfl⟩ := List.append_of_mem hentry
    have hlength := (h.allRegistered run).length
    rw [joinedIds, List.filterMap_append, List.length_append] at hlength
    have hpast := (h.of_append.allRegistered run.split.1).length
    rw [joinedIds] at hpast
    rw [List.getElem?_eq_none_iff]
    omega
  constructor
  · apply List.filterMap_eq_nil_iff.2
    intro entry hentry
    rw [hnone entry hentry]
    cases entry.event <;> rfl
  · apply List.filterMap_eq_nil_iff.2
    intro entry hentry
    rw [hnone entry hentry]
    cases entry.event <;> rfl

/-! ## A stream that is alone -/

/-- The subscriptions with one stream. -/
def Hub.alone (stream : Stream μ) : Hub μ where
  subs := (∅ : GoMap String ℕ).insert stream.nodeId 0
  streams := [stream]

theorem Hub.alone_lookup {stream : Stream μ} {nodeId : String} {ch : ℕ} :
    (Hub.alone stream).subs.lookup nodeId = some ch ↔ nodeId = stream.nodeId ∧ ch = 0 := by
  rw [Hub.alone, GoMap.lookup_insert_eq]
  split_ifs with heq
  · rw [Option.some.injEq, eq_comm, and_iff_right heq]
  · exact iff_of_false (by simp) fun h => heq h.1

section Open

variable {stream : Stream μ} (hphase : stream.phase = .serving) (hopen : stream.closed = false)
include hphase hopen

theorem Hub.alone_registrations :
    (Hub.alone stream).registrations = [⟨stream.nodeId, .serving, false⟩] := by
  change [stream.registration] = _
  rw [Stream.registration, hphase, hopen]

theorem Hub.alone_wellFormed : (Hub.alone stream).WellFormed := by
  intro nodeId ch h
  obtain ⟨rfl, rfl⟩ := Hub.alone_lookup.1 h
  rw [Hub.alone_registrations hphase hopen]
  rfl

theorem Hub.alone_allRegistered : (Hub.alone stream).AllRegistered [stream.nodeId] := by
  refine ⟨Hub.alone_registrations hphase hopen, fun i nodeId hnodeId => ?_⟩
  obtain ⟨hzero, rfl⟩ := List.getElem?_eq_some_iff.1 hnodeId
  rw [List.length_singleton, Nat.lt_one_iff] at hzero
  exact Hub.alone_lookup.2 ⟨by simp, hzero⟩

theorem Hub.alone_broadcast (msg : μ) :
    (Hub.alone stream).step (.broadcast msg) = .ok (Hub.alone (stream.push msg)) := by
  have hwf := Hub.alone_wellFormed hphase hopen
  obtain ⟨⟨subs, streams⟩, hpost, rfl, -, -⟩ := hwf.broadcast msg
  have hstreams : streams = [stream].map (Stream.push msg) := by
    refine List.ext_getElem? fun i => ?_
    rw [List.getElem?_map]
    exact (Hub.alone_allRegistered hphase hopen).getElem?_broadcast hwf hpost i
  rw [Hub.step, hpost, hstreams, Go.run_ok, Hub.alone, Hub.alone, Stream.push_nodeId]
  rfl

end Open

theorem Hub.alone_receive {stream : Stream μ} (hphase : stream.phase = .serving) {msg : μ}
    {rest : List μ} (hbuffer : stream.buffer = msg :: rest) :
    (Hub.alone stream).step (.receive 0) = .ok (Hub.alone
      { stream with buffer := rest, sent := stream.sent ++ [some msg] }) := by
  simp [Hub.step, Hub.receive, Hub.alone, hphase, hbuffer]

/-- The events lead to the stream when there is no other subscriber. -/
def ReachedAlone (events : List (HubEvent μ)) (stream : Stream μ) : Prop :=
  ∃ solo, (hubMachine μ).Run solo (Hub.alone stream) ∧ solo.map Entry.event = events

theorem ReachedAlone.next {events : List (HubEvent μ)} {stream after : Stream μ}
    (h : ReachedAlone events stream) {event : HubEvent μ}
    (hstep : (Hub.alone stream).step event = .ok (Hub.alone after)) :
    ReachedAlone (events ++ [event]) after := by
  obtain ⟨solo, run, hevents⟩ := h
  have hnext : (hubMachine μ).step (Hub.alone stream) event = .ok (Hub.alone after, ()) :=
    hubMachine_step.2 hstep
  refine ⟨_, run.snoc hnext, ?_⟩
  rw [List.map_append, hevents]
  rfl

/-! ## What has reached a stream -/

/-- What a stream has sent and what it holds, and that it is the same alone. -/
structure Delivered (i : ℕ) (history : HubHistory μ) (stream : Stream μ) : Prop where
  length_le : stream.buffer.length ≤ chanCapacity
  messages : stream.sent ++ stream.buffer.map some = (acceptedBy i history).map some
  alone : ReachedAlone (.join stream.nodeId :: ownEvents i history) stream

theorem Stream.length_push_le {stream : Stream μ} (h : stream.buffer.length ≤ chanCapacity)
    (msg : μ) : (stream.push msg).buffer.length ≤ chanCapacity := by
  unfold Stream.push
  split_ifs with hroom
  · rw [List.length_append, List.length_singleton]
    exact hroom
  · exact h

/-- A message is lost exactly on a full buffer. -/
theorem Stream.push_messages {stream : Stream μ} (h : stream.buffer.length ≤ chanCapacity)
    (msg : μ) : (stream.push msg).sent ++ (stream.push msg).buffer.map some =
      stream.sent ++ stream.buffer.map some ++
        if stream.buffer.length = chanCapacity then [] else [some msg] := by
  unfold Stream.push
  split_ifs with hroom hfull hfull
  · exact absurd hfull hroom.ne
  · rw [List.map_append, ← List.append_assoc]
    rfl
  · rw [List.append_nil]
  · exact absurd (h.antisymm (not_lt.1 hroom)) hfull

theorem delivered_join (i : ℕ) {history : HubHistory μ} (nodeId : String)
    (haccepted : acceptedBy i history = []) (hown : ownEvents i history = []) :
    Delivered i history ⟨nodeId, .serving, [], false, []⟩ where
  length_le := Nat.zero_le _
  messages := by rw [haccepted]; rfl
  alone := by
    rw [hown]
    exact ⟨_, (Machine.Run.nil (M := hubMachine μ)).next (.join nodeId) rfl, rfl⟩

section Step

variable {i : ℕ} {history : HubHistory μ} {hub post : Hub μ} {stream : Stream μ}

theorem Delivered.pushed (h : Delivered i history stream)
    (hstream : hub.streams[i]? = some stream) (hphase : stream.phase = .serving)
    (hopen : stream.closed = false) (msg : μ) :
    Delivered i (history ++ [⟨hub, .broadcast msg, (), post⟩]) (stream.push msg) where
  length_le := Stream.length_push_le h.length_le msg
  messages := by
    have hlast : (acceptedBy i [⟨hub, .broadcast msg, (), post⟩]).map some =
        if stream.buffer.length = chanCapacity then [] else [some msg] := by
      simp only [acceptedBy, List.filterMap_cons, List.filterMap_nil, hstream]
      split_ifs <;> rfl
    rw [Stream.push_messages h.length_le, h.messages, acceptedBy_snoc, List.map_append, hlast]
  alone := by
    have hlast : ownEvents i [⟨hub, .broadcast msg, (), post⟩] = [.broadcast msg] := by
      simp [ownEvents, hstream]
    rw [ownEvents_snoc, hlast, Stream.push_nodeId]
    exact h.alone.next (Hub.alone_broadcast hphase hopen msg)

theorem Delivered.taken (h : Delivered i history stream)
    (hstream : hub.streams[i]? = some stream) (hphase : stream.phase = .serving) {msg : μ}
    {rest : List μ} (hbuffer : stream.buffer = msg :: rest) :
    Delivered i (history ++ [⟨hub, .receive i, (), post⟩])
      { stream with buffer := rest, sent := stream.sent ++ [some msg] } where
  length_le := by
    have hlength := h.length_le
    rw [hbuffer, List.length_cons] at hlength
    exact Nat.le_of_succ_le hlength
  messages := by
    have hlast : acceptedBy i [⟨hub, .receive i, (), post⟩] = [] := rfl
    rw [acceptedBy_snoc, hlast, List.append_nil, ← h.messages, hbuffer, List.append_assoc]
    rfl
  alone := by
    have hlast : ownEvents i [⟨hub, .receive i, (), post⟩] = [.receive 0] := by
      simp [ownEvents, hstream]
    rw [ownEvents_snoc, hlast]
    exact h.alone.next (Hub.alone_receive hphase hbuffer)

theorem Delivered.untouched {event : HubEvent μ} (h : Delivered i history stream)
    (hbroadcast : ∀ msg, event ≠ .broadcast msg) (hreceive : event ≠ .receive i) :
    Delivered i (history ++ [⟨hub, event, (), post⟩]) stream := by
  have haccepted : acceptedBy i [⟨hub, event, (), post⟩] = [] := by
    cases event with
    | broadcast msg => exact absurd rfl (hbroadcast msg)
    | _ => rfl
  have hown : ownEvents i [⟨hub, event, (), post⟩] = [] := by
    cases event with
    | broadcast msg => exact absurd rfl (hbroadcast msg)
    | receive k =>
        have hne : k ≠ i := fun heq => hreceive (by rw [heq])
        cases hstream : hub.streams[i]? <;> simp [ownEvents, hstream, hne]
    | _ => rfl
  refine ⟨h.length_le, ?_, ?_⟩
  · rw [acceptedBy_snoc, haccepted, List.append_nil]
    exact h.messages
  · rw [ownEvents_snoc, hown, List.append_nil]
    exact h.alone

theorem Delivered.served {event : HubEvent μ} {after : Stream μ} (h : Delivered i history stream)
    (hstream : hub.streams[i]? = some stream) (hphase : stream.phase = .serving)
    (hopen : stream.closed = false) (hserved : Served i event stream after) :
    Delivered i (history ++ [⟨hub, event, (), post⟩]) after := by
  cases hserved with
  | @pushed msg => exact h.pushed hstream hphase hopen msg
  | taken hbuffer => exact h.taken hstream hphase hbuffer
  | untouched hbroadcast hreceive => exact h.untouched hbroadcast hreceive

end Step

theorem Serving.delivered {history : HubHistory μ} {hub : Hub μ}
    (run : (hubMachine μ).Run history hub) (hserving : Serving history) :
    ∀ (i : ℕ) stream, hub.streams[i]? = some stream → Delivered i history stream := by
  induction run with
  | nil =>
      intro i stream hstream
      simp [hubMachine, Hub.empty] at hstream
  | @snoc history pre post event reply run hstep ih =>
      intro i after hafter
      have hpre := hserving.of_append.allRegistered run
      have hserves := hserving.serves _ (List.mem_append_right _ (List.mem_singleton_self _))
      rcases hpre.served (hub_run_wellFormed run) hserves (hubMachine_step.1 hstep) hafter with
        ⟨stream, hstream, hserved⟩ | ⟨nodeId, rfl, hi, rfl⟩
      · obtain ⟨-, hphase, hopen⟩ := hpre.stream hstream
        exact (ih hserving.of_append i stream hstream).served hstream hphase hopen hserved
      · obtain ⟨haccepted, hown⟩ := hserving.of_append.nothing_before run hi.ge
        apply delivered_join
        · rw [acceptedBy_snoc, haccepted]
          rfl
        · rw [ownEvents_snoc, hown]
          rfl

/-- **Delivery loses messages only on a full buffer.**  In a run in which nodes
join under distinct ids and nobody leaves, the messages a stream has sent and
then those in its channel are exactly the messages broadcast since its join,
except those broadcast while its channel was full.  And the stream is the one
that the same broadcasts and its own iterations lead to when there is no other
subscriber. -/
theorem lost_only_when_full {history : HubHistory μ} {hub : Hub μ}
    (run : (hubMachine μ).Run history hub) (hserving : Serving history) {i : ℕ}
    {stream : Stream μ} (hstream : hub.streams[i]? = some stream) :
    stream.sent ++ stream.buffer.map some = (acceptedBy i history).map some ∧
    ReachedAlone (.join stream.nodeId :: ownEvents i history) stream := by
  have h := hserving.delivered run i stream hstream
  exact ⟨h.messages, h.alone⟩

/-- A node that joins after the first of two broadcasts sends the second, while
the other node has sent nothing. -/
theorem lost_only_when_full_two :
    ∃ (history : HubHistory FinalizedCommittee) (hub : Hub FinalizedCommittee)
      (stream : Stream FinalizedCommittee),
      (hubMachine FinalizedCommittee).Run history hub ∧
      history.map Entry.event = [.join "a", .broadcast ⟨1, [], [], [], []⟩, .join "b",
        .broadcast ⟨2, [], [], [], []⟩, .receive 1] ∧
      Serving history ∧ hub.streams[1]? = some stream ∧
      stream.sent = [some ⟨2, [], [], [], []⟩] ∧
      stream.sent ++ stream.buffer.map some = (acceptedBy 1 history).map some ∧
      ReachedAlone (.join stream.nodeId :: ownEvents 1 history) stream := by
  have htrace : (hubMachine FinalizedCommittee).trace .empty
    [.join "a", .broadcast ⟨1, [], [], [], []⟩, .join "b", .broadcast ⟨2, [], [], [], []⟩,
      .receive 1] = .ok (_, _) := rfl
  have run := Machine.run_of_trace htrace
  refine (fun hserving => ⟨_, _, _, run, rfl, hserving, rfl, rfl,
    lost_only_when_full run hserving rfl⟩) ⟨?_, ?_⟩
  · simp [HubEvent.Serves]
  · change ["a", "b"].Nodup
    decide

end MeshCosi.Network
