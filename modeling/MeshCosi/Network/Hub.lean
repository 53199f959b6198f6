import MeshCosi.Foundation.Go
import MeshCosi.Foundation.Bytes

/-!
# Subscriptions

`JoinNetwork` makes a buffered channel, registers it under the node's id and
then copies messages from the channel to the stream until the stream ends.
When it ends, the deferred cleanup deletes whatever is registered under the
node's id, and closes the channel after releasing the lock.  `LeaveNetwork`
deletes the registered channel and closes it at once.  `broadcast` offers a
message to every registered channel and drops it where the buffer is full.

A channel is identified with the `JoinNetwork` call that made it, numbered in
order.  The message type is a parameter.
-/

namespace MeshCosi.Network

open Foundation

/-- `FinalizedCommittee`, the message of the channels.  A nil slice is an empty one. -/
structure FinalizedCommittee where
  round : UInt64
  nodeId : List String
  aggregatedCommit : Bytes
  aggregatedPubKey : Bytes
  publicKeys : List Bytes
  deriving DecidableEq, Repr

/-- How far a `JoinNetwork` call has come. -/
inductive Phase where
  /-- In the receive loop. -/
  | serving
  /-- The loop has ended and the deferred function has released the lock. -/
  | removed
  /-- The deferred function has closed the channel and returned. -/
  | ended
  deriving DecidableEq, Repr

/-- A `JoinNetwork` call with its channel. -/
structure Stream (μ : Type) where
  nodeId : String
  phase : Phase
  /-- The messages in the channel. -/
  buffer : List μ
  closed : Bool
  /-- What was handed to `stream.Send`; a nil message is `none`. -/
  sent : List (Option μ)

/-- The capacity `JoinNetwork` gives its channel. -/
def chanCapacity : ℕ := 100

/-- `m.subs` and the channels. -/
structure Hub (μ : Type) where
  subs : GoMap String ℕ
  streams : List (Stream μ)

variable {μ : Type}

/-- The non-blocking send of `broadcast` on an open channel. -/
def Stream.push (msg : μ) (stream : Stream μ) : Stream μ :=
  if stream.buffer.length < chanCapacity then
    { stream with buffer := stream.buffer ++ [msg] }
  else stream

/-- One iteration of the loop of `broadcast`. -/
def sendTo (msg : μ) (streams : List (Stream μ)) (ch : ℕ) : Go (List (Stream μ)) :=
  match streams[ch]? with
  | none => .ok streams
  | some stream =>
      if stream.closed then .error .sendOnClosedChannel
      else .ok (streams.set ch (stream.push msg))

@[simp] theorem Stream.push_closed (msg : μ) (stream : Stream μ) :
    (stream.push msg).closed = stream.closed := by
  unfold Stream.push; split <;> rfl

@[simp] theorem Stream.push_nodeId (msg : μ) (stream : Stream μ) :
    (stream.push msg).nodeId = stream.nodeId := by
  unfold Stream.push; split <;> rfl

@[simp] theorem Stream.push_phase (msg : μ) (stream : Stream μ) :
    (stream.push msg).phase = stream.phase := by
  unfold Stream.push; split <;> rfl

/-- The order in which `broadcast` visits two channels does not matter. -/
theorem sendTo_comm (msg : μ) (streams : List (Stream μ)) (first second : ℕ) :
    (sendTo msg streams first >>= fun streams => sendTo msg streams second) =
      (sendTo msg streams second >>= fun streams => sendTo msg streams first) := by
  by_cases heq : first = second
  · rw [heq]
  unfold sendTo
  cases hfirst : streams[first]? with
  | none =>
      cases hsecond : streams[second]? with
      | none => simp [ok_bind, hfirst, hsecond]
      | some stream =>
          by_cases hclosed : stream.closed
          · simp [hsecond, hclosed, bind, Except.bind]
          · simp [ok_bind, hfirst, hsecond, hclosed, List.getElem?_set_ne (Ne.symm heq)]
  | some stream =>
      by_cases hclosed : stream.closed
      · cases hsecond : streams[second]? with
        | none => simp [hfirst, hclosed, bind, Except.bind]
        | some other =>
            by_cases hother : other.closed <;>
              simp [hfirst, hclosed, hother, bind, Except.bind,
                List.getElem?_set_ne (Ne.symm heq)]
      · cases hsecond : streams[second]? with
        | none => simp [ok_bind, hfirst, hsecond, hclosed, List.getElem?_set_ne heq]
        | some other =>
            by_cases hother : other.closed
            · simp [hsecond, hclosed, hother, bind, Except.bind,
                List.getElem?_set_ne heq]
            · simp [ok_bind, hfirst, hsecond, hclosed, hother, List.getElem?_set_ne heq,
                List.getElem?_set_ne (Ne.symm heq), List.set_comm _ _ heq]

namespace Hub

/-- `newMeshSrv`: no subscribers. -/
def empty : Hub μ where
  subs := ∅
  streams := []

/-- The start of `JoinNetwork`, up to the loop. -/
def joinNetwork (hub : Hub μ) (nodeId : String) : Hub μ where
  subs := hub.subs.insert nodeId hub.streams.length
  streams := hub.streams ++ [⟨nodeId, .serving, [], false, []⟩]

/-- `close(ch)`. -/
def closeChan (hub : Hub μ) (ch : ℕ) : Go (Hub μ) :=
  match hub.streams[ch]? with
  | none => .ok hub
  | some stream =>
      if stream.closed then .error .closeOfClosedChannel
      else .ok { hub with streams := hub.streams.set ch { stream with closed := true } }

/-- `LeaveNetwork`. -/
def leaveNetwork (hub : Hub μ) (nodeId : String) : Go (Hub μ) :=
  match hub.subs.lookup nodeId with
  | none => .ok hub
  | some ch => closeChan { hub with subs := hub.subs.erase nodeId } ch

/-- `broadcast`. -/
def broadcast (hub : Hub μ) (msg : μ) : Go (Hub μ) := do
  let streams ← hub.subs.foldl
    (fun streams _ ch => streams >>= fun streams => sendTo msg streams ch)
    (fun streams _ first _ second => by
      cases streams with
      | error cause => rfl
      | ok streams => exact sendTo_comm msg streams first second)
    (.ok hub.streams)
  return { hub with streams := streams }

/-- One iteration of the receive loop of `JoinNetwork` that takes a message.  A
receive from a closed and drained channel yields nil. -/
def receive (hub : Hub μ) (i : ℕ) : Except (Halt Panic) (Hub μ) :=
  match hub.streams[i]? with
  | none => .error .blocked
  | some stream =>
      if stream.phase = .serving then
        match stream.buffer with
        | msg :: rest =>
            .ok { hub with
              streams := hub.streams.set i
                { stream with buffer := rest, sent := stream.sent ++ [some msg] } }
        | [] =>
            -- `msg := <-ch` does not block on a closed channel
            if stream.closed then
              .ok { hub with
                streams := hub.streams.set i { stream with sent := stream.sent ++ [none] } }
            else .error .blocked
      else .error .blocked

/-- The stream ends and the deferred function runs its locked section. -/
def remove (hub : Hub μ) (i : ℕ) : Except (Halt Panic) (Hub μ) :=
  match hub.streams[i]? with
  | none => .error .blocked
  | some stream =>
      if stream.phase = .serving then
        -- the entry of the node id goes, whichever stream it belongs to
        .ok { subs := hub.subs.erase stream.nodeId
              streams := hub.streams.set i { stream with phase := .removed } }
      else .error .blocked

/-- The deferred function closes the channel and returns. -/
def close (hub : Hub μ) (i : ℕ) : Except (Halt Panic) (Hub μ) :=
  match hub.streams[i]? with
  | none => .error .blocked
  | some stream =>
      if stream.phase = .removed then
        if stream.closed then .error (.panic .closeOfClosedChannel)
        else .ok { hub with
          streams := hub.streams.set i { stream with closed := true, phase := .ended } }
      else .error .blocked

/-! ### What the parts of a `JoinNetwork` call do -/

theorem exists_of_receive {hub post : Hub μ} {i : ℕ} (h : hub.receive i = .ok post) :
    ∃ stream, hub.streams[i]? = some stream ∧ stream.phase = .serving ∧
      ((∃ msg rest, stream.buffer = msg :: rest ∧ post = ⟨hub.subs, hub.streams.set i
          { stream with buffer := rest, sent := stream.sent ++ [some msg] }⟩) ∨
        stream.buffer = [] ∧ stream.closed = true ∧
          post = ⟨hub.subs, hub.streams.set i { stream with sent := stream.sent ++ [none] }⟩) := by
  unfold receive at h
  split at h
  · cases h
  next stream hstream =>
    by_cases hphase : stream.phase = .serving
    · rw [if_pos hphase] at h
      refine ⟨stream, hstream, hphase, ?_⟩
      split at h
      next msg rest hbuffer => exact Or.inl ⟨msg, rest, hbuffer, (Except.ok.inj h).symm⟩
      next hbuffer =>
        split_ifs at h with hclosed
        exact Or.inr ⟨hbuffer, hclosed, (Except.ok.inj h).symm⟩
    · rw [if_neg hphase] at h
      cases h

theorem exists_of_remove {hub post : Hub μ} {i : ℕ} (h : hub.remove i = .ok post) :
    ∃ stream, hub.streams[i]? = some stream ∧ stream.phase = .serving ∧
      post = ⟨hub.subs.erase stream.nodeId,
        hub.streams.set i { stream with phase := .removed }⟩ := by
  unfold remove at h
  split at h
  · cases h
  next stream hstream =>
    split_ifs at h with hphase
    exact ⟨stream, hstream, hphase, (Except.ok.inj h).symm⟩

theorem exists_of_close {hub post : Hub μ} {i : ℕ} (h : hub.close i = .ok post) :
    ∃ stream, hub.streams[i]? = some stream ∧ stream.phase = .removed ∧ stream.closed = false ∧
      post = ⟨hub.subs, hub.streams.set i { stream with closed := true, phase := .ended }⟩ := by
  unfold close at h
  split at h
  · cases h
  next stream hstream =>
    split_ifs at h with hphase hclosed
    exact ⟨stream, hstream, hphase, Bool.eq_false_of_not_eq_true hclosed, (Except.ok.inj h).symm⟩

end Hub

/-- What can happen to the subscriptions. -/
inductive HubEvent (μ : Type) where
  | join (nodeId : String)
  | leave (nodeId : String)
  | broadcast (msg : μ)
  | receive (stream : ℕ)
  | remove (stream : ℕ)
  | close (stream : ℕ)

/-- One event. -/
def Hub.step (hub : Hub μ) : HubEvent μ → Except (Halt Panic) (Hub μ)
  | .join nodeId => .ok (hub.joinNetwork nodeId)
  | .leave nodeId => (hub.leaveNetwork nodeId).run
  | .broadcast msg => (hub.broadcast msg).run
  | .receive i => hub.receive i
  | .remove i => hub.remove i
  | .close i => hub.close i

theorem Hub.step_broadcast {hub post : Hub μ} {msg : μ} (h : hub.broadcast msg = .ok post) :
    hub.step (.broadcast msg) = .ok post := by
  rw [Hub.step, h, Go.run_ok]

/-- The subscriptions as a machine of their own. -/
def hubMachine (μ : Type) : Machine (Hub μ) (HubEvent μ) Unit Panic where
  init := .empty
  step hub event := (hub.step event).map fun hub => (hub, ())

end MeshCosi.Network
