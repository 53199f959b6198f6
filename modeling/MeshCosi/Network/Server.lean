import MeshCosi.Foundation.Timers
import MeshCosi.Network.Hub
import MeshCosi.Cosi.Verify

/-!
# The mesh server

`meshSrv` and its handlers.  Every locked section of a handler is one function
on the state.  `tryFinalize` takes no lock; it is cut where it takes its copy of
the candidate list, so that it can be run as one step or as two.

The state also holds what the Go runtime keeps for the server: the timers made
by `time.AfterFunc`, and the calls of `tryFinalize` that a timer or a `go`
statement has started and that have not run yet.
-/

namespace MeshCosi.Network

open Foundation Ed25519 Cosi

/-- The fields of `CommitteeCandidateInfo` that the server reads. -/
structure CommitteeCandidateInfo where
  round : UInt64
  nodeId : String
  publicKey : Bytes
  commit : Bytes
  deriving DecidableEq, Repr

/-- `CommitData`. -/
structure CommitData where
  round : UInt64
  commit : Bytes
  deriving DecidableEq, Repr

/-- `threshold` of `tool.go`. -/
def threshold : ℕ := 10

/-- `gcRoundWindow` of `tool.go`. -/
def gcRoundWindow : UInt64 := 4

/-- `meshSrv`, with the global `nodeNumber`.  The maps other than `processed`
are only written after they are made, so a nil map is the empty one there. -/
structure MeshSrv (G : Type) where
  hub : Hub FinalizedCommittee
  processed : Option (GoMap UInt64 Bool)
  timers : GoMap UInt64 ℕ
  committeeCandidates : GoMap UInt64 (List CommitteeCandidateInfo)
  commitData : GoMap UInt64 (List CommitData)
  cosigners : Option (Cosigners G)
  nodeNumber : ℕ
  /-- The timers, in the order in which they were made. -/
  clock : List (Timer UInt64)
  /-- The rounds of the `tryFinalize` calls that wait to be run. -/
  spawned : List UInt64

namespace MeshSrv

variable {G : Type}

/-- `newMeshSrv`. -/
def newMeshSrv : MeshSrv G where
  hub := .empty
  processed := none
  timers := ∅
  committeeCandidates := ∅
  commitData := ∅
  cosigners := none
  nodeNumber := 0
  clock := []
  spawned := []

/-- `m.committeeCandidates[round]`. -/
def candidates (m : MeshSrv G) (round : UInt64) : List CommitteeCandidateInfo :=
  (m.committeeCandidates.lookup round).getD []

/-- `m.commitData[round]`. -/
def commits (m : MeshSrv G) (round : UInt64) : List CommitData :=
  (m.commitData.lookup round).getD []

/-- `m.processed[round]`. -/
def isProcessed (m : MeshSrv G) (round : UInt64) : Bool :=
  ((m.processed.getD ∅).lookup round).getD false

/-- `initMaps`. -/
def initMaps (m : MeshSrv G) : MeshSrv G :=
  { m with processed := some (m.processed.getD ∅) }

/-- The timer of a round is made when there is none. -/
def armTimer (m : MeshSrv G) (round : UInt64) : MeshSrv G :=
  match m.timers.lookup round with
  | some _ => m
  | none =>
      { m with
        timers := m.timers.insert round m.clock.length
        clock := m.clock ++ [⟨round, .armed⟩] }

/-- The candidate is appended to the list of its round. -/
def addCandidate (m : MeshSrv G) (cci : CommitteeCandidateInfo) : MeshSrv G :=
  { m with
    committeeCandidates :=
      m.committeeCandidates.insert cci.round (m.candidates cci.round ++ [cci]) }

/-- `appendCandidate`. -/
def appendCandidate (m : MeshSrv G) (cci : CommitteeCandidateInfo) : Go (MeshSrv G × Bool) :=
  let m := m.initMaps
  if m.isProcessed cci.round then .ok (m, false)
  else
    let r := cci.round
    let m := (m.addCandidate cci).armTimer r
    if threshold ≤ (m.candidates r).length then do
      -- `m.timers[cci.Round].Stop()`, then `go m.tryFinalize(r)`
      let timer ← deref (m.timers.lookup cci.round)
      return ({ m with
        clock := m.clock.modify timer Timer.stop, spawned := m.spawned ++ [r] }, true)
    else .ok (m, true)

/-- `gcOldRounds`.  The sum of the round and the window wraps around. -/
def gcOldRounds (m : MeshSrv G) (cur : UInt64) : MeshSrv G :=
  { m with
    committeeCandidates :=
      m.committeeCandidates.deleteIf fun r => decide (r + gcRoundWindow < cur) }

/-- `RequestCommittee`: the new state and the acknowledgement. -/
def requestCommittee (m : MeshSrv G) (cci : CommitteeCandidateInfo) : Go (MeshSrv G × Bool) := do
  let m := { m with cosigners := none }
  let (m, ok) ← m.appendCandidate cci
  if !ok then return (m, false)
  return (m.gcOldRounds cci.round, true)

/-- The first part of `tryFinalize`: the round is marked, its timer forgotten and
its candidate list read. -/
def startFinalize (m : MeshSrv G) (round : UInt64) :
    Go (MeshSrv G × List CommitteeCandidateInfo) :=
  match m.processed with
  | none => .error .nilMapWrite
  | some processed =>
      let cands := m.candidates round
      .ok ({ m with
        processed := some (processed.insert round true)
        timers := m.timers.erase round
        nodeNumber := cands.length }, cands)

variable [AddCommGroup G] (P : Primitives G)

/-- The second part of `tryFinalize`: the committee is aggregated from the copy of
the list and broadcast, and the round is forgotten. -/
def finishFinalize (m : MeshSrv G) (round : UInt64) (cands : List CommitteeCandidateInfo) :
    Go (MeshSrv G × FinalizedCommittee) := do
  let pubKeys := cands.map (·.publicKey)
  let cosigners := newCosigners P pubKeys none
  -- the result of `NewCosigners` is used without a nil check
  let cos ← deref cosigners
  let aggPubKey := cos.aggregatePublicKey P
  let aggCommit ← cos.aggregateCommit P (cands.map (·.commit))
  let msg : FinalizedCommittee :=
    { round := round
      nodeId := cands.map (·.nodeId)
      aggregatedCommit := aggCommit.getD []
      aggregatedPubKey := aggPubKey
      publicKeys := pubKeys }
  let hub ← m.hub.broadcast msg
  return ({ m with
    hub := hub
    cosigners := cosigners
    committeeCandidates := m.committeeCandidates.erase round
    processed := m.processed.map (·.erase round) }, msg)

/-- `tryFinalize`. -/
def tryFinalize (m : MeshSrv G) (round : UInt64) : Go (MeshSrv G × FinalizedCommittee) := do
  let (m, cands) ← m.startFinalize round
  m.finishFinalize P round cands

/-- `RequestAggregatedCommit`: the new state and what it broadcasts. -/
def requestAggregatedCommit (m : MeshSrv G) (cd : CommitData) :
    Go (MeshSrv G × Option FinalizedCommittee) :=
  let m := { m with commitData := m.commitData.insert cd.round (m.commits cd.round ++ [cd]) }
  -- `nodeNumber` is that of the round that was finalized last
  if (m.commits cd.round).length < m.nodeNumber then .ok (m, none)
  else do
    let recvPartCommit := (m.commits cd.round).map (·.commit)
    let cos ← deref m.cosigners
    let aggCommit ← cos.aggregateCommit P recvPartCommit
    let msg : FinalizedCommittee :=
      { round := cd.round
        nodeId := []
        aggregatedCommit := aggCommit.getD []
        aggregatedPubKey := []
        publicKeys := [] }
    let hub ← m.hub.broadcast msg
    return ({ m with
      hub := hub
      commitData := (m.commitData.insert cd.round []).erase cd.round }, some msg)

end MeshSrv

/-! ## The server as a machine -/

/-- What can happen to the server besides a `tryFinalize` call. -/
inductive HandlerEvent where
  | joinNetwork (nodeId : String)
  | leaveNetwork (nodeId : String)
  /-- A stream sends one message of its channel. -/
  | receive (stream : ℕ)
  /-- A stream ends, up to the end of the locked section of its cleanup. -/
  | remove (stream : ℕ)
  /-- The rest of the cleanup of a stream. -/
  | close (stream : ℕ)
  | requestCommittee (cci : CommitteeCandidateInfo)
  | requestAggregatedCommit (cd : CommitData)
  /-- A timer fires: its `tryFinalize` call is started. -/
  | timerFires (timer : ℕ)

/-- The acknowledgement of an RPC and the message that was broadcast. -/
structure Reply where
  ack : Option Bool
  sent : Option FinalizedCommittee
  deriving DecidableEq

variable {G : Type} [AddCommGroup G] (P : Primitives G)

/-- One handler event. -/
def MeshSrv.handle (m : MeshSrv G) : HandlerEvent → Except (Halt Panic) (MeshSrv G × Reply)
  | .joinNetwork nodeId => .ok ({ m with hub := m.hub.joinNetwork nodeId }, ⟨none, none⟩)
  | .leaveNetwork nodeId =>
      (m.hub.leaveNetwork nodeId).run.map fun hub => ({ m with hub := hub }, ⟨some true, none⟩)
  | .receive i => (m.hub.receive i).map fun hub => ({ m with hub := hub }, ⟨none, none⟩)
  | .remove i => (m.hub.remove i).map fun hub => ({ m with hub := hub }, ⟨none, none⟩)
  | .close i =>
      -- the cleanup ends with `m.processed = make(map[uint64]bool)`
      (m.hub.close i).map fun hub => ({ m with hub := hub, processed := some ∅ }, ⟨none, none⟩)
  | .requestCommittee cci =>
      (m.requestCommittee cci).run.map fun result => (result.1, ⟨some result.2, none⟩)
  | .requestAggregatedCommit cd =>
      (m.requestAggregatedCommit P cd).run.map fun result => (result.1, ⟨some true, result.2⟩)
  | .timerFires t =>
      match m.clock[t]? with
      | some ⟨round, .armed⟩ =>
          .ok ({ m with
            clock := m.clock.set t ⟨round, .fired⟩
            spawned := m.spawned ++ [round] }, ⟨none, none⟩)
      | _ => .error .blocked

/-- What can happen to the server. -/
inductive Event where
  | handler (event : HandlerEvent)
  /-- A `tryFinalize` call that was started runs. -/
  | finalize (round : UInt64)

/-- One event, a `tryFinalize` call taken as one step. -/
def MeshSrv.step (m : MeshSrv G) : Event → Except (Halt Panic) (MeshSrv G × Reply)
  | .handler event => m.handle P event
  | .finalize round =>
      if round ∈ m.spawned then
        (tryFinalize P { m with spawned := m.spawned.erase round } round).run.map
          fun result => (result.1, ⟨none, some result.2⟩)
      else .error .blocked

/-- The server. -/
def server : Machine (MeshSrv G) Event Reply Panic where
  init := .newMeshSrv
  step := MeshSrv.step P

/-- A history of the server. -/
abbrev History (G : Type) := List (Entry (MeshSrv G) Event Reply)

end MeshCosi.Network
