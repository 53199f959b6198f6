import MeshCosi.Cosi.Honest
import MeshCosi.Network.Arrival

/-!
# A whole ceremony

The nodes ask for a committee, the committee is broadcast, the nodes send their
commits, the aggregated commit is broadcast, and the nodes sign.  The candidate
list fixes the order of the keys; the commits and the signature parts come in
orders of their own.
-/

namespace MeshCosi.Network

open Foundation Ed25519 Cosi

variable {G : Type} [AddCommGroup G] {P : Primitives G}

/-- A node: a cosigner with an identifier.  The commit that it sends with its
request for a committee need not be the one it signs with. -/
structure Node (P : Primitives G) extends Participant P where
  nodeId : String
  announced : Bytes

namespace Node

/-- The request for the committee of a round. -/
def candidate (round : UInt64) (node : Node P) : CommitteeCandidateInfo :=
  ⟨round, node.nodeId, node.publicKey, node.announced⟩

/-- The commit for a round. -/
def commitData (round : UInt64) (node : Node P) : CommitData :=
  ⟨round, node.commitment⟩

end Node

/-! ## The committee is selected -/

/-- The candidates of a history, in the order of their requests. -/
def requests (history : History G) : List CommitteeCandidateInfo :=
  history.filterMap fun entry =>
    match entry.event with
    | .handler (.requestCommittee cci) => some cci
    | _ => none

/-- The events before the finalization: requests for a committee, streams and timers. -/
def Event.Selects : Event → Prop
  | .handler (.requestAggregatedCommit _) => False
  | .handler _ => True
  | .finalize _ => False

/-- A history in which every node asks once for the committee of a round, in any order. -/
structure Selection (round : UInt64) (nodes : List (Node P)) (history : History G) : Prop where
  selects : ∀ entry ∈ history, entry.event.Selects
  requests : ∃ order : List (Node P), order.Perm nodes ∧
    requests history = order.map (Node.candidate round)

omit [AddCommGroup G] in
theorem requests_snoc (history : History G) (entry : Entry (MeshSrv G) Event Reply) :
    requests (history ++ [entry]) = requests history ++ requests [entry] := by
  rw [requests, List.filterMap_append]
  rfl

omit [AddCommGroup G] in
/-- A stream event is no request. -/
theorem requests_stream (history : History G) (pre post : MeshSrv G) {event : HandlerEvent}
    {hubEvent : HubEvent FinalizedCommittee} (h : event.hubEvent = some hubEvent) (reply : Reply) :
    requests (history ++ [⟨pre, .handler event, reply, post⟩]) = requests history := by
  rw [requests_snoc]
  cases event <;> first | exact List.append_nil _ | cases h

theorem not_add_gcRoundWindow_lt {round : UInt64} (h : round.toNat + 4 < 2 ^ 64) :
    ¬ round + gcRoundWindow < round := by
  rw [MeshSrv.add_gcRoundWindow_lt_iff]
  change ¬ (round.toNat + 4) % 2 ^ 64 < round.toNat
  omega

/-- While one round is selected, its candidates are the requests so far and no
commit is stored. -/
theorem selection_state {history : History G} {m : MeshSrv G} (run : (server P).Run history m)
    {round : UInt64} (hround : round.toNat + 4 < 2 ^ 64)
    (hselects : ∀ entry ∈ history, entry.event.Selects)
    (hrequests : ∀ cci ∈ requests history, cci.round = round) :
    m.candidates round = requests history ∧ m.commits round = [] := by
  induction run with
  | nil => exact ⟨rfl, rfl⟩
  | @snoc history pre post event reply run hstep ih =>
      have hrequests' := requests_snoc history ⟨pre, event, reply, post⟩ ▸ hrequests
      obtain ⟨hcands, hcommits⟩ := ih
        (fun entry hentry => hselects entry (List.mem_append_left _ hentry))
        (fun cci hcci => hrequests' cci (List.mem_append_left _ hcci))
      have hevent : event.Selects :=
        hselects _ (List.mem_append_right _ (List.mem_singleton_self _))
      cases event with
      | finalize _ => exact hevent.elim
      | handler event =>
          have heffect : HandlerEffect pre event post reply := MeshSrv.handle_effect (P := P) hstep
          cases heffect with
          | stream hhub _ _ => exact ⟨hcands.trans (requests_stream _ _ _ hhub _).symm, hcommits⟩
          | @accepted cci _ _ haccepts =>
              -- the sum of the round and the window does not wrap, so the candidate stays
              obtain rfl : cci.round = round :=
                hrequests' cci (List.mem_append_right _ (List.mem_singleton_self _))
              refine ⟨?_, ?_⟩
              · rw [haccepts.candidates_self (not_add_gcRoundWindow_lt hround), requests_snoc,
                  hcands]
                rfl
              · rw [MeshSrv.commits, haccepts.commitData]
                exact hcommits
          | refused hprocessed =>
              rw [(server_run_wellFormed run).unmarked] at hprocessed
              cases hprocessed
          | committed _ => exact hevent.elim
          | fired _ =>
              refine ⟨hcands.trans ?_, hcommits⟩
              rw [requests_snoc]
              exact (List.append_nil _).symm

/-! ## The commits are collected -/

/-- The commits of all nodes, in any order. -/
theorem replay_nodes (hP : P.Lawful) {cos : Cosigners G} {round : UInt64}
    {order nodes : List (Node P)} (hperm : order.Perm nodes) (hnodes : nodes ≠ []) {m : MeshSrv G}
    (hwf : m.WellFormed) (hcos : m.cosigners = some cos) (hcommits : m.commits round = [])
    (hnumber : m.nodeNumber = nodes.length) :
    ∃ post aggregated, (server P).replay m
        (order.map fun node => .handler (.requestAggregatedCommit (node.commitData round))) =
          .ok (post, List.replicate (nodes.length - 1) ⟨some true, none⟩ ++
            [⟨some true, some aggregated⟩]) ∧
      aggregated.aggregatedCommit = (P.toBytes (nodes.map (·.nonce)).sum).toList ∧
      post.commitData.lookup round = none := by
  have hsum : P.decodeSum ((order.map (Node.commitData round)).map (·.commit)) =
      some (nodes.map (·.nonce)).sum := by
    rw [List.map_map, ← (hperm.map _).sum_eq]
    exact P.decodeSum_map fun node _ => node.decode_commitment hP
  have hlength : (order.map (Node.commitData round)).length = nodes.length := by
    rw [List.length_map, hperm.length_eq]
  have hreplay := replay_full_round (P := P) hcos (hwf.keys cos hcos)
    (hnumber ▸ List.length_pos_iff.2 hnodes) hcommits
    (List.forall_mem_map.2 fun node _ => rfl) (hlength.trans hnumber.symm)
  obtain ⟨hub, hhub, -⟩ := hwf.hub.broadcast
    (aggregated P round (order.map (Node.commitData round)))
  rw [hhub, hlength, List.map_map] at hreplay
  refine ⟨_, _, hreplay, ?_, Finmap.lookup_erase _ _⟩
  rw [aggregated, MeshSrv.encodedSum, hsum]
  rfl

/-! ## The ceremony -/

/-- A round whose candidates are the nodes is finalized with their keys, in the
order of the candidates. -/
theorem finalize_nodes (hP : P.Lawful) {history : History G} {m : MeshSrv G}
    (run : (server P).Run history m) {round : UInt64} (hspawned : round ∈ m.spawned)
    {order : List (Node P)} (hcands : m.candidates round = order.map (Node.candidate round)) :
    ∃ selected committee, m.step P (.finalize round) = .ok (selected, ⟨none, some committee⟩) ∧
      selected.cosigners = some (Cosigners.ofKeys (order.map (·.key))) ∧
      selected.nodeNumber = order.length ∧ selected.commitData = m.commitData ∧
      committee.publicKeys = order.map (·.publicKey) ∧
      committee.aggregatedPubKey = (P.toBytes (order.map (·.key)).sum).toList := by
  have hwf := server_run_wellFormed run
  obtain ⟨processed, hprocessed⟩ := hwf.exists_processed (.inr hspawned)
  have hkeys : (m.candidates round).map (·.publicKey) = order.map (·.publicKey) := by
    rw [hcands, List.map_map]
    rfl
  have hcos : newCosigners P ((m.candidates round).map (·.publicKey)) none =
      some (Cosigners.ofKeys (order.map (·.key))) := by
    rw [hkeys]
    exact newCosigners_eq (P.decodeAll_map fun node _ => node.decode_publicKey hP)
  obtain ⟨hub, hhub, -⟩ := hwf.hub.broadcast
    (MeshSrv.committee P round (m.candidates round) (Cosigners.ofKeys (order.map (·.key))))
  refine ⟨_, _, MeshSrv.step_finalize.2
    ⟨hspawned, processed, _, hub, hprocessed, hcos, hhub, rfl, rfl⟩, rfl, ?_, rfl, hkeys, rfl⟩
  change (m.candidates round).length = _
  rw [hcands, List.length_map]

/-- The nodes of a committee sign with the two aggregates that were broadcast, and
the parts are put together in any order. -/
theorem nodes_sign (hP : P.Lawful) {order partOrder : List (Node P)}
    (hparts : partOrder.Perm order) (message : Bytes) {publicKeys : List PublicKey}
    {aggK aggR : Bytes} (hkeys : publicKeys = order.map (·.publicKey))
    (haggK : aggK = (P.toBytes (order.map (·.key)).sum).toList)
    (haggR : aggR = (P.toBytes (order.map (·.nonce)).sum).toList) :
    ∃ cos parts sig, newCosigners P publicKeys none = some cos ∧
      cosignAll P message aggK aggR (partOrder.map Node.toParticipant) = .ok parts ∧
      cos.aggregateSignature aggR parts = .ok (some sig) ∧
      sig.length = 64 ∧ verify P publicKeys none message sig = .ok true := by
  subst hkeys haggK haggR
  obtain ⟨parts, sig, hcosign, hsig, hlength, hverify⟩ := collective_signature hP
    (hparts.map Node.toParticipant) message
  simp only [List.map_map] at hcosign hsig hverify
  exact ⟨_, parts, sig, newCosigners_eq (P.decodeAll_map fun node _ => node.decode_publicKey hP),
    hcosign, hsig, hlength, hverify⟩

/-- **The ceremony.**  Whatever the orders in which the nodes ask for the
committee, send their commits and hand in their signature parts: the last commit
is answered with the sum of the commits, and the signature that the parts make
is accepted for the keys of the committee. -/
theorem ceremony_accepted (hP : P.Lawful) {round : UInt64} (hround : round.toNat + 4 < 2 ^ 64)
    {nodes commitOrder partOrder : List (Node P)} (hnodes : nodes ≠ [])
    {history : History G} {m : MeshSrv G} (run : (server P).Run history m)
    (hselection : Selection round nodes history) (hspawned : round ∈ m.spawned)
    (hcommits : commitOrder.Perm nodes) (hparts : partOrder.Perm nodes) (message : Bytes) :
    ∃ selected committee post aggregated,
      m.step P (.finalize round) = .ok (selected, ⟨none, some committee⟩) ∧
      (server P).replay selected (commitOrder.map fun node =>
          .handler (.requestAggregatedCommit (node.commitData round))) =
        .ok (post, List.replicate (nodes.length - 1) ⟨some true, none⟩ ++
          [⟨some true, some aggregated⟩]) ∧
      aggregated.aggregatedCommit = (P.toBytes (nodes.map (·.nonce)).sum).toList ∧
      post.commitData.lookup round = none ∧
      ∃ cos parts sig, newCosigners P committee.publicKeys none = some cos ∧
        cosignAll P message committee.aggregatedPubKey aggregated.aggregatedCommit
          (partOrder.map Node.toParticipant) = .ok parts ∧
        cos.aggregateSignature aggregated.aggregatedCommit parts = .ok (some sig) ∧
        sig.length = 64 ∧ verify P committee.publicKeys none message sig = .ok true := by
  obtain ⟨order, horder, hrequests⟩ := hselection.requests
  obtain ⟨hcands, hnone⟩ := selection_state run hround hselection.selects (by
    rw [hrequests]
    exact List.forall_mem_map.2 fun _ _ => rfl)
  obtain ⟨selected, committee, hfinalize, hcos, hnumber, hdata, hkeys, haggr⟩ :=
    finalize_nodes hP run hspawned (hcands.trans hrequests)
  have hwf := (server_run_wellFormed run).step hfinalize
  have hstored : selected.commits round = [] := by
    rw [MeshSrv.commits, hdata]
    exact hnone
  obtain ⟨post, aggregated, hpost, haggregated, hlookup⟩ := replay_nodes hP hcommits hnodes hwf hcos
    hstored (hnumber.trans horder.length_eq)
  -- the nodes sign for the keys in the order of the candidates
  have hnonces : (nodes.map (·.nonce)).sum = (order.map (·.nonce)).sum :=
    (horder.symm.map _).sum_eq
  exact ⟨selected, committee, post, aggregated, hfinalize, hpost, haggregated, hlookup,
    nodes_sign hP (hparts.trans horder.symm) message hkeys haggr (hnonces ▸ haggregated)⟩

/-- A subscribed and an unsubscribed node ask for the committee of round 1, and
its timer fires. -/
private theorem selected_round (a b : Node P) :
    ∃ (history : History G) (m : MeshSrv G), (server P).Run history m ∧
      Selection 1 [a, b] history ∧ 1 ∈ m.spawned := by
  have run := (Machine.Run.nil (M := server P)).next (.handler (.joinNetwork a.nodeId)) rfl
  have run := run.next (.handler (.requestCommittee (b.candidate 1))) rfl
  have run := run.next (.handler (.requestCommittee (a.candidate 1))) rfl
  have run := run.next (.handler (.timerFires 0)) rfl
  refine ⟨_, _, run, ⟨?_, [b, a], List.Perm.swap a b [], rfl⟩, List.mem_singleton_self _⟩
  simp [Event.Selects]

/-- Two nodes with keys and commits of their own. -/
def twoNodes : List (Node cyclicPrimitives) :=
  [⟨.ofEntropy cyclicPrimitives (Block.ofNat 32 1) (Block.ofNat 64 2), "a", []⟩,
    ⟨.ofEntropy cyclicPrimitives (Block.ofNat 32 3) (Block.ofNat 64 4), "b", [7]⟩]

theorem ceremony_accepted_two :
    ∃ (m selected post : MeshSrv (ZMod (8 * l))) (committee aggregated : FinalizedCommittee),
      m.step cyclicPrimitives (.finalize 1) = .ok (selected, ⟨none, some committee⟩) ∧
      (server cyclicPrimitives).replay selected (twoNodes.reverse.map fun node =>
          .handler (.requestAggregatedCommit (node.commitData 1))) =
        .ok (post, [⟨some true, none⟩, ⟨some true, some aggregated⟩]) ∧
      ∃ sig, sig.length = 64 ∧
        verify cyclicPrimitives committee.publicKeys none [104, 105] sig = .ok true := by
  obtain ⟨history, m, run, hselection, hspawned⟩ := selected_round (P := cyclicPrimitives) _ _
  obtain ⟨selected, committee, post, aggregated, hfinalize, hpost, -, -, -, -, sig, -, -, -,
      hsig⟩ :=
    ceremony_accepted cyclicPrimitives_lawful (by decide) (by simp [twoNodes]) run
      (show Selection 1 twoNodes history from hselection) hspawned
      (List.reverse_perm twoNodes) (.refl twoNodes) [104, 105]
  exact ⟨m, selected, post, committee, aggregated, hfinalize, hpost, sig, hsig⟩

end MeshCosi.Network
