import MeshCosi.Network.Hub

/-!
# What an event does to the registrations

Which streams are registered, running and closed does not depend on what is in
the buffers.  `Hub.registrations` forgets the messages, and
`Hub.WellFormed.effect` says once what every event does to the rest: the
invariants of the subscriptions are proved from it.
-/

namespace MeshCosi.Network

open Foundation

variable {μ : Type}

/-- A stream without its messages. -/
structure Registration where
  nodeId : String
  phase : Phase
  closed : Bool
  deriving DecidableEq, Repr

/-- Forgets the messages of a stream. -/
def Stream.registration (stream : Stream μ) : Registration :=
  ⟨stream.nodeId, stream.phase, stream.closed⟩

/-- The streams without their messages. -/
def Hub.registrations (hub : Hub μ) : List Registration :=
  hub.streams.map Stream.registration

@[simp] theorem Stream.registration_push (msg : μ) (stream : Stream μ) :
    (stream.push msg).registration = stream.registration := by
  simp [Stream.registration]

@[simp] theorem Hub.registrations_length (hub : Hub μ) :
    hub.registrations.length = hub.streams.length := by
  simp [Hub.registrations]

theorem Hub.getElem?_registrations (hub : Hub μ) (i : ℕ) :
    hub.registrations[i]? = hub.streams[i]?.map Stream.registration := by
  simp [Hub.registrations]

/-- What `m.subs` holds under a node id is an open channel of a running stream
of that id. -/
def Hub.WellFormed (hub : Hub μ) : Prop :=
  ∀ nodeId ch, hub.subs.lookup nodeId = some ch →
    hub.registrations[ch]? = some ⟨nodeId, .serving, false⟩

/-- A registered channel belongs to a stream, which is open. -/
theorem Hub.WellFormed.stream {hub : Hub μ} (hwf : hub.WellFormed) {nodeId : String} {ch : ℕ}
    (hsub : hub.subs.lookup nodeId = some ch) :
    ∃ stream, hub.streams[ch]? = some stream ∧ stream.nodeId = nodeId ∧
      stream.phase = .serving ∧ stream.closed = false := by
  have hreg := hwf nodeId ch hsub
  rw [Hub.getElem?_registrations, Option.map_eq_some_iff] at hreg
  obtain ⟨stream, hstream, hreg⟩ := hreg
  rw [Stream.registration, Registration.mk.injEq] at hreg
  exact ⟨stream, hstream, hreg⟩

/-- No channel is registered under two node ids. -/
theorem Hub.WellFormed.nodeId_eq {hub : Hub μ} (hwf : hub.WellFormed) {first second : String}
    {ch : ℕ} (hfirst : hub.subs.lookup first = some ch)
    (hsecond : hub.subs.lookup second = some ch) : first = second := by
  have h := (hwf first ch hfirst).symm.trans (hwf second ch hsecond)
  simpa using h

/-- `LeaveNetwork` finds nothing, or it closes the open channel it finds. -/
theorem Hub.WellFormed.leaveNetwork_cases {hub post : Hub μ} (hwf : hub.WellFormed)
    {nodeId : String} (h : hub.leaveNetwork nodeId = .ok post) :
    hub.subs.lookup nodeId = none ∧ post = hub ∨
      ∃ ch stream, hub.subs.lookup nodeId = some ch ∧ hub.streams[ch]? = some stream ∧
        stream.nodeId = nodeId ∧ stream.phase = .serving ∧
        post = ⟨hub.subs.erase nodeId, hub.streams.set ch { stream with closed := true }⟩ := by
  unfold Hub.leaveNetwork at h
  cases hsub : hub.subs.lookup nodeId with
  | none =>
      simp only [hsub, Except.ok.injEq] at h
      exact Or.inl ⟨rfl, h.symm⟩
  | some ch =>
      -- a registered channel is open, so this close succeeds
      obtain ⟨stream, hstream, hid, hphase, hopen⟩ := hwf.stream hsub
      simp only [hsub, Hub.closeChan, hstream, hopen, Bool.false_eq_true, if_false,
        Except.ok.injEq] at h
      exact Or.inr ⟨ch, stream, rfl, hstream, hid, hphase, h.symm⟩

/-! ## Broadcast -/

/-- The loop of `broadcast` over distinct open channels completes, and it pushes
the message to each of them once. -/
private theorem foldl_sendTo (msg : μ) (entries : List (String × ℕ)) :
    ∀ streams : List (Stream μ), (entries.map Prod.snd).Nodup →
      (∀ entry ∈ entries, ∃ stream, streams[entry.2]? = some stream ∧ stream.closed = false) →
      ∃ after : List (Stream μ),
        entries.foldl (fun streams entry => streams >>= fun streams => sendTo msg streams entry.2)
          (.ok streams : Go (List (Stream μ))) = .ok after ∧
        (∀ ch ∈ entries.map Prod.snd, after[ch]? = streams[ch]?.map (Stream.push msg)) ∧
        ∀ ch, ch ∉ entries.map Prod.snd → after[ch]? = streams[ch]? := by
  induction entries with
  | nil =>
      intro streams _ _
      exact ⟨streams, rfl, by simp, by simp⟩
  | cons entry entries ih =>
      intro streams hnodup hopen
      rw [List.map_cons, List.nodup_cons] at hnodup
      rw [List.forall_mem_cons] at hopen
      obtain ⟨⟨stream, hstream, hclosed⟩, hrest⟩ := hopen
      have hsend : sendTo msg streams entry.2 = .ok (streams.set entry.2 (stream.push msg)) := by
        simp [sendTo, hstream, hclosed]
      -- the channels of the rest of the loop are other ones
      have hne : ∀ ch ∈ entries.map Prod.snd, entry.2 ≠ ch := fun ch hch heq =>
        hnodup.1 (heq ▸ hch)
      obtain ⟨after, hfold, hin, hout⟩ := ih (streams.set entry.2 (stream.push msg)) hnodup.2 (by
        intro other hother
        rw [List.getElem?_set_ne (hne _ (List.mem_map_of_mem hother))]
        exact hrest other hother)
      refine ⟨after, by rw [List.foldl_cons, ok_bind, hsend, hfold], fun ch hch => ?_,
        fun ch hch => ?_⟩
      · rcases List.mem_cons.1 hch with rfl | hch
        · rw [hout _ hnodup.1, hstream]
          exact List.getElem?_set_self (List.getElem?_eq_some_iff.1 hstream).1
        · rw [hin ch hch, List.getElem?_set_ne (hne ch hch)]
      · rw [List.map_cons, List.mem_cons, not_or] at hch
        rw [hout ch hch.2, List.getElem?_set_ne (Ne.symm hch.1)]

/-- `broadcast` completes: it pushes the message to every registered channel and
leaves the other ones as they are. -/
theorem Hub.WellFormed.broadcast {hub : Hub μ} (hwf : hub.WellFormed) (msg : μ) :
    ∃ post, hub.broadcast msg = .ok post ∧ post.subs = hub.subs ∧
      (∀ nodeId ch, hub.subs.lookup nodeId = some ch →
        post.streams[ch]? = hub.streams[ch]?.map (Stream.push msg)) ∧
      ∀ ch, (∀ nodeId, hub.subs.lookup nodeId ≠ some ch) →
        post.streams[ch]? = hub.streams[ch]? := by
  obtain ⟨entries, hkeys, hmem, hfold⟩ := GoMap.exists_entries hub.subs
  -- two node ids never share a channel
  have hnodup : (entries.map Prod.snd).Nodup := by
    rw [List.nodup_map_iff_inj_on (List.Nodup.of_map _ hkeys)]
    intro first hfirst second hsecond heq
    have hfirst' := (hmem first.1 first.2).1 hfirst
    have hsecond' := (hmem second.1 second.2).1 hsecond
    rw [← heq] at hsecond'
    exact Prod.ext (hwf.nodeId_eq hfirst' hsecond') heq
  have hch : ∀ ch, ch ∈ entries.map Prod.snd ↔ ∃ nodeId, hub.subs.lookup nodeId = some ch := by
    intro ch
    constructor
    · intro h
      obtain ⟨entry, hentry, rfl⟩ := List.mem_map.1 h
      exact ⟨entry.1, (hmem _ _).1 hentry⟩
    · rintro ⟨nodeId, hsub⟩
      exact List.mem_map.2 ⟨(nodeId, ch), (hmem _ _).2 hsub, rfl⟩
  obtain ⟨after, hafter, hin, hout⟩ := foldl_sendTo msg entries hub.streams hnodup (by
    intro entry hentry
    obtain ⟨stream, hstream, -, -, hclosed⟩ := hwf.stream ((hmem _ _).1 hentry)
    exact ⟨stream, hstream, hclosed⟩)
  refine ⟨{ hub with streams := after }, ?_, rfl, ?_, ?_⟩
  · rw [Hub.broadcast, hfold, hafter]
    rfl
  · intro nodeId ch hsub
    exact hin ch ((hch ch).2 ⟨nodeId, hsub⟩)
  · intro ch hsub
    exact hout ch fun h => by
      obtain ⟨nodeId, h⟩ := (hch ch).1 h
      exact hsub nodeId h

/-- `broadcast` changes no registration. -/
theorem Hub.WellFormed.registrations_broadcast {hub post : Hub μ} (hwf : hub.WellFormed) {msg : μ}
    (h : hub.broadcast msg = .ok post) :
    post.subs = hub.subs ∧ post.registrations = hub.registrations := by
  obtain ⟨after, hafter, hsubs, hin, hout⟩ := hwf.broadcast msg
  rw [hafter, Except.ok.injEq] at h
  subst h
  refine ⟨hsubs, List.ext_getElem? fun ch => ?_⟩
  rw [Hub.getElem?_registrations, Hub.getElem?_registrations]
  by_cases hsub : ∃ nodeId, hub.subs.lookup nodeId = some ch
  · obtain ⟨nodeId, hsub⟩ := hsub
    rw [hin nodeId ch hsub, Option.map_map]
    congr 1
    exact funext fun stream => stream.registration_push msg
  · push Not at hsub
    rw [hout ch hsub]

/-! ## Every event -/

/-- What an event does to the registrations. -/
def Hub.Effect (hub post : Hub μ) : HubEvent μ → Prop
  | .join nodeId =>
      post.subs = hub.subs.insert nodeId hub.registrations.length ∧
        post.registrations = hub.registrations ++ [⟨nodeId, .serving, false⟩]
  | .leave nodeId =>
      hub.subs.lookup nodeId = none ∧ post = hub ∨
        ∃ ch, hub.subs.lookup nodeId = some ch ∧ post.subs = hub.subs.erase nodeId ∧
          post.registrations = hub.registrations.set ch ⟨nodeId, .serving, true⟩
  | .broadcast _ => post.subs = hub.subs ∧ post.registrations = hub.registrations
  | .receive _ => post.subs = hub.subs ∧ post.registrations = hub.registrations
  | .remove i =>
      ∃ nodeId closed, hub.registrations[i]? = some ⟨nodeId, .serving, closed⟩ ∧
        post.subs = hub.subs.erase nodeId ∧
        post.registrations = hub.registrations.set i ⟨nodeId, .removed, closed⟩
  | .close i =>
      ∃ nodeId, hub.registrations[i]? = some ⟨nodeId, .removed, false⟩ ∧
        post.subs = hub.subs ∧
        post.registrations = hub.registrations.set i ⟨nodeId, .ended, true⟩

/-- Replacing a stream replaces its registration. -/
private theorem registrations_set (subs : GoMap String ℕ) (streams : List (Stream μ)) (i : ℕ)
    (stream : Stream μ) :
    Hub.registrations ⟨subs, streams.set i stream⟩ =
      (streams.map Stream.registration).set i stream.registration := by
  simp [Hub.registrations, List.map_set]

/-- Replacing a stream by one with the same registration changes no registration. -/
private theorem registrations_set_same {subs : GoMap String ℕ} {streams : List (Stream μ)} {i : ℕ}
    {stream other : Stream μ} (hstream : streams[i]? = some stream)
    (hsame : other.registration = stream.registration) :
    Hub.registrations ⟨subs, streams.set i other⟩ = streams.map Stream.registration := by
  rw [registrations_set, hsame]
  refine List.ext_getElem? fun k => ?_
  rw [List.getElem?_set]
  split_ifs with hk hlen
  · rw [← hk, List.getElem?_map, hstream, Option.map_some]
  · rw [← hk, List.getElem?_eq_none (Nat.le_of_not_lt hlen)]
  · rfl

/-- What a completed event does to the registrations. -/
theorem Hub.WellFormed.effect {hub post : Hub μ} (hwf : hub.WellFormed) {event : HubEvent μ}
    (h : hub.step event = .ok post) : hub.Effect post event := by
  cases event with
  | join nodeId =>
      rw [Hub.step, Except.ok.injEq] at h
      subst h
      exact ⟨by rw [Hub.registrations_length]; rfl, by simp [Hub.registrations, Hub.joinNetwork,
        Stream.registration]⟩
  | leave nodeId =>
      rw [Hub.step, Go.run_eq_ok] at h
      rcases hwf.leaveNetwork_cases h with hnone | ⟨ch, stream, hsub, -, hid, hphase, rfl⟩
      · exact .inl hnone
      · refine .inr ⟨ch, hsub, rfl, ?_⟩
        rw [registrations_set, Stream.registration, hid, hphase]
        rfl
  | broadcast msg =>
      rw [Hub.step, Go.run_eq_ok] at h
      exact hwf.registrations_broadcast h
  | receive i =>
      obtain ⟨stream, hstream, -, hmessage⟩ := Hub.exists_of_receive h
      -- a message of the buffer, or nil from a closed channel
      rcases hmessage with ⟨msg, rest, -, rfl⟩ | ⟨-, -, rfl⟩
      · exact ⟨rfl, registrations_set_same hstream rfl⟩
      · exact ⟨rfl, registrations_set_same hstream rfl⟩
  | remove i =>
      obtain ⟨stream, hstream, hphase, rfl⟩ := Hub.exists_of_remove h
      refine ⟨stream.nodeId, stream.closed, ?_, rfl, registrations_set _ _ _ _⟩
      rw [Hub.getElem?_registrations, hstream, Option.map_some, Stream.registration, hphase]
  | close i =>
      obtain ⟨stream, hstream, hphase, hopen, rfl⟩ := Hub.exists_of_close h
      refine ⟨stream.nodeId, ?_, rfl, registrations_set _ _ _ _⟩
      rw [Hub.getElem?_registrations, hstream, Option.map_some, Stream.registration, hphase, hopen]

theorem Hub.wellFormed_empty : (Hub.empty : Hub μ).WellFormed := by
  intro nodeId ch h
  simp [Hub.empty] at h

/-- Every event keeps the registrations well formed. -/
theorem Hub.WellFormed.step {hub post : Hub μ} (hwf : hub.WellFormed) {event : HubEvent μ}
    (h : hub.step event = .ok post) : post.WellFormed := by
  have heffect := hwf.effect h
  intro nodeId ch hsub
  cases event with
  | join joined =>
      rw [heffect.1, GoMap.lookup_insert_eq] at hsub
      rw [heffect.2]
      split_ifs at hsub with heq
      · rw [Option.some.injEq] at hsub
        simp [← hsub, heq]
      · have hreg := hwf nodeId ch hsub
        rw [List.getElem?_append_left (List.getElem?_eq_some_iff.1 hreg).1, hreg]
  | leave left =>
      rcases heffect with ⟨-, rfl⟩ | ⟨other, hother, hsubs, hregs⟩
      · exact hwf nodeId ch hsub
      · rw [hsubs, GoMap.lookup_erase_eq] at hsub
        split_ifs at hsub with heq
        rw [hregs, List.getElem?_set_ne, hwf nodeId ch hsub]
        rintro rfl
        exact heq (hwf.nodeId_eq hsub hother)
  | broadcast msg =>
      rw [heffect.2]
      exact hwf nodeId ch (heffect.1 ▸ hsub)
  | receive i =>
      rw [heffect.2]
      exact hwf nodeId ch (heffect.1 ▸ hsub)
  | remove i =>
      -- what is still registered has another node id, hence another stream
      obtain ⟨removed, closed, hreg, hsubs, hregs⟩ := heffect
      rw [hsubs, GoMap.lookup_erase_eq] at hsub
      split_ifs at hsub with heq
      rw [hregs, List.getElem?_set_ne, hwf nodeId ch hsub]
      rintro rfl
      rw [hwf nodeId i hsub] at hreg
      simp at hreg
      exact heq hreg.1
  | close i =>
      obtain ⟨ended, hreg, hsubs, hregs⟩ := heffect
      rw [hsubs] at hsub
      rw [hregs, List.getElem?_set_ne, hwf nodeId ch hsub]
      rintro rfl
      rw [hwf nodeId i hsub] at hreg
      simp at hreg

/-! ## Runs -/

theorem hubMachine_step {hub post : Hub μ} {event : HubEvent μ} {reply : Unit} :
    (hubMachine μ).step hub event = .ok (post, reply) ↔ hub.step event = .ok post := by
  simp only [hubMachine]
  cases hub.step event <;> simp [Except.map]

/-- In every run the registrations are well formed. -/
theorem hub_run_wellFormed {history : List (Entry (Hub μ) (HubEvent μ) Unit)} {hub : Hub μ}
    (run : (hubMachine μ).Run history hub) : hub.WellFormed :=
  run.state_invariant Hub.wellFormed_empty fun _ _ _ _ hwf hstep =>
    hwf.step (hubMachine_step.1 hstep)

end MeshCosi.Network
