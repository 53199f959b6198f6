import MeshCosi.Network.Committees

/-!
# The commits of a round, one after the other

With a committee in place and no commit stored, the commits of a round are
stored until there is one for every key; the last one is answered with their
sum.  Commits and keys are matched by position, and the loop of
`AggregateCommit` stops at the first commit that does not decode.  Neither shows
in the result: it is the same for every order in which the commits arrive.
-/

namespace MeshCosi.Network

open Foundation Ed25519 Cosi

variable {G : Type} [AddCommGroup G] {P : Primitives G}

/-- What is broadcast when a list of commits completes a round. -/
def aggregated (P : Primitives G) (round : UInt64) (cds : List CommitData) :
    FinalizedCommittee where
  round := round
  nodeId := []
  aggregatedCommit := MeshSrv.encodedSum P (cds.map (·.commit))
  aggregatedPubKey := []
  publicKeys := []

theorem aggregated_perm {round : UInt64} {first second : List CommitData}
    (hperm : first.Perm second) : aggregated P round first = aggregated P round second := by
  unfold aggregated MeshSrv.encodedSum
  rw [P.decodeSum_perm (hperm.map _)]

/-- The commit that makes one for each key is answered with the aggregate. -/
theorem replay_last_commit {cos : Cosigners G} {m : MeshSrv G} {last : CommitData}
    (hcos : m.cosigners = some cos) (hkeys : cos.keys.length = m.nodeNumber)
    (hlength : (m.collected last).length = m.nodeNumber) :
    (server P).replay m [.handler (.requestAggregatedCommit last)] =
      (m.hub.broadcast (aggregated P last.round (m.collected last))).run.map fun hub =>
        ({ m with hub := hub, commitData := m.commitData.erase last.round },
          [⟨some true, some (aggregated P last.round (m.collected last))⟩]) := by
  have hresult := MeshSrv.requestAggregatedCommit_of_some (P := P) hlength.ge hcos
    (hkeys.trans hlength.symm).le
  rw [MeshSrv.aggregation_eq (hlength.trans hkeys.symm)] at hresult
  rw [Machine.replay_singleton]
  change Except.map _ (Except.map _ (MeshSrv.requestAggregatedCommit P m last).run) = _
  rw [hresult]
  change Except.map _ (Except.map _ (Go.run (Except.map _ (m.hub.broadcast
    (aggregated P last.round (m.collected last)))))) = _
  cases m.hub.broadcast (aggregated P last.round (m.collected last)) <;> rfl

/-- The commits of a round, sent one after the other when nobody else sends any:
all but the last are stored, and the last is answered with the aggregate. -/
theorem replay_commits {cos : Cosigners G} {round : UInt64} (todo : List CommitData)
    (last : CommitData) {m : MeshSrv G} (hcos : m.cosigners = some cos)
    (hkeys : cos.keys.length = m.nodeNumber) (hround : ∀ cd ∈ todo ++ [last], cd.round = round)
    (hcount : (m.commits round).length + todo.length + 1 = m.nodeNumber) :
    (server P).replay m
        ((todo ++ [last]).map fun cd => .handler (.requestAggregatedCommit cd)) =
      (m.hub.broadcast (aggregated P round (m.commits round ++ (todo ++ [last])))).run.map
        fun hub => ({ m with hub := hub, commitData := m.commitData.erase round },
          List.replicate todo.length ⟨some true, none⟩ ++
            [⟨some true, some (aggregated P round (m.commits round ++ (todo ++ [last])))⟩]) := by
  -- on the commits that are still to come; each one is stored before the next
  induction todo generalizing m with
  | nil =>
      obtain rfl : last.round = round := hround last (List.mem_singleton_self _)
      exact replay_last_commit hcos hkeys ((m.length_collected last).trans hcount)
  | cons cd todo ih =>
      obtain ⟨rfl, hrest⟩ : cd.round = round ∧ ∀ cd ∈ todo ++ [last], cd.round = round := by
        simpa only [List.cons_append, List.forall_mem_cons] using hround
      have hcollected := m.length_collected cd
      rw [List.length_cons] at hcount
      have hlt : (m.collected cd).length < m.nodeNumber := by omega
      have hstep := MeshSrv.step_requestAggregatedCommit.2
        ⟨_, MeshSrv.requestAggregatedCommit_of_lt (P := P) hlt, rfl⟩
      have hcount' : ((m.stored cd).commits cd.round).length + todo.length + 1 = m.nodeNumber := by
        rw [MeshSrv.commits_stored]
        omega
      have hpost := ih (m := m.stored cd) hcos hkeys hrest hcount'
      rw [m.stored_erase, MeshSrv.commits_stored, MeshSrv.collected, List.append_assoc] at hpost
      rw [List.cons_append, List.map_cons, Machine.replay_cons hstep, hpost]
      change Except.map _ (Except.map _ (m.hub.broadcast (aggregated P cd.round
        (m.commits cd.round ++ (cd :: (todo ++ [last]))))).run) = _
      cases m.hub.broadcast (aggregated P cd.round
        (m.commits cd.round ++ (cd :: (todo ++ [last])))) <;> rfl

/-- One commit for each key of the committee, when none is stored. -/
theorem replay_full_round {m : MeshSrv G} {cos : Cosigners G} (hcos : m.cosigners = some cos)
    (hkeys : cos.keys.length = m.nodeNumber) (hpos : 1 ≤ m.nodeNumber) {round : UInt64}
    (hnone : m.commits round = []) {cds : List CommitData} (hround : ∀ cd ∈ cds, cd.round = round)
    (hlength : cds.length = m.nodeNumber) :
    (server P).replay m (cds.map fun cd => .handler (.requestAggregatedCommit cd)) =
      (m.hub.broadcast (aggregated P round cds)).run.map fun hub =>
        ({ m with hub := hub, commitData := m.commitData.erase round },
          List.replicate (cds.length - 1) ⟨some true, none⟩ ++
            [⟨some true, some (aggregated P round cds)⟩]) := by
  obtain rfl | ⟨todo, last, rfl⟩ := List.eq_nil_or_concat cds
  · rw [List.length_nil] at hlength
    omega
  rw [List.concat_eq_append] at hround hlength ⊢
  rw [List.length_append, List.length_singleton] at hlength
  have hcount : (m.commits round).length + todo.length + 1 = m.nodeNumber := by
    rw [hnone, List.length_nil]
    omega
  have hreplay := replay_commits (P := P) todo last hcos hkeys hround hcount
  rw [hnone, List.nil_append] at hreplay
  rw [hreplay, List.length_append, List.length_singleton, Nat.add_sub_cancel]

/-- Delivers commits one after the other: the last state and what was broadcast. -/
def MeshSrv.deliverCommits (P : Primitives G) (m : MeshSrv G) (cds : List CommitData) :
    Except (Halt Panic) (MeshSrv G × List FinalizedCommittee) :=
  ((server P).replay m (cds.map fun cd => .handler (.requestAggregatedCommit cd))).map
    fun result => (result.1, result.2.filterMap (·.sent))

/-- A full set of commits is delivered with one broadcast. -/
theorem MeshSrv.deliverCommits_eq {m : MeshSrv G} {cos : Cosigners G}
    (hcos : m.cosigners = some cos) (hkeys : cos.keys.length = m.nodeNumber)
    (hpos : 1 ≤ m.nodeNumber) {round : UInt64} (hnone : m.commits round = [])
    {cds : List CommitData} (hround : ∀ cd ∈ cds, cd.round = round)
    (hlength : cds.length = m.nodeNumber) :
    m.deliverCommits P cds = (m.hub.broadcast (aggregated P round cds)).run.map fun hub =>
      ({ m with hub := hub, commitData := m.commitData.erase round },
        [aggregated P round cds]) := by
  -- the replies before the last one carry no message
  have hsent : ∀ n : ℕ, (List.replicate n (⟨some true, none⟩ : Reply)).filterMap (·.sent) = [] := by
    intro n
    rw [List.filterMap_eq_nil_iff]
    intro reply hreply
    rw [List.eq_of_mem_replicate hreply]
  unfold deliverCommits
  rw [replay_full_round hcos hkeys hpos hnone hround hlength]
  cases (m.hub.broadcast (aggregated P round cds)).run with
  | error halt => rfl
  | ok hub =>
      simp only [Except.map, List.filterMap_append, hsent]
      rfl

/-- **The order of the commits is irrelevant.**  In a state with a committee of
at least one key and no stored commit of the round, two orders of delivering one
commit for each key have the same outcome: one broadcast, of the encoded sum of
all points or, when some commit is malformed, of nil.  The broadcast completes
when every registered channel is open, which is so in every reachable state. -/
theorem commit_order_irrelevant {m : MeshSrv G} {cos : Cosigners G}
    (hcos : m.cosigners = some cos) (hkeys : cos.keys.length = m.nodeNumber)
    (hpos : 1 ≤ m.nodeNumber) {round : UInt64} (hnone : m.commits round = [])
    {first second : List CommitData} (hround : ∀ cd ∈ first, cd.round = round)
    (hlength : first.length = m.nodeNumber) (hperm : second.Perm first) :
    ∃ msg : FinalizedCommittee,
      (∀ points, P.decodeAll (first.map (·.commit)) = some points →
        msg.aggregatedCommit = (P.toBytes points.sum).toList) ∧
      ((∃ cd ∈ first, P.decode cd.commit = none) → msg.aggregatedCommit = []) ∧
      m.deliverCommits P first = (m.hub.broadcast msg).run.map (fun hub =>
        ({ m with hub := hub, commitData := m.commitData.erase round }, [msg])) ∧
      m.deliverCommits P second = m.deliverCommits P first ∧
      (m.hub.WellFormed → ∃ post, m.deliverCommits P first = .ok (post, [msg])) := by
  have hfirst := MeshSrv.deliverCommits_eq (P := P) hcos hkeys hpos hnone hround hlength
  have hsecond := MeshSrv.deliverCommits_eq (P := P) hcos hkeys hpos hnone
    (fun cd hcd => hround cd (hperm.mem_iff.1 hcd)) (hperm.length_eq.trans hlength)
  rw [aggregated_perm hperm] at hsecond
  refine ⟨aggregated P round first, ?_, ?_, hfirst, hsecond.trans hfirst.symm, ?_⟩
  · intro points hpoints
    simp only [aggregated, MeshSrv.encodedSum, Primitives.decodeSum, hpoints, Option.map_some,
      Option.getD_some]
  · rintro ⟨cd, hcd, hmalformed⟩
    have hsum : P.decodeSum (first.map (·.commit)) = none := by
      rw [← Option.not_isSome_iff_eq_none, P.decodeSum_isSome]
      intro hall
      have hsome := hall cd.commit (List.mem_map_of_mem hcd)
      rw [hmalformed] at hsome
      cases hsome
    simp only [aggregated, MeshSrv.encodedSum, hsum, Option.map_none, Option.getD_none]
  · intro hwf
    obtain ⟨hub, hhub, -⟩ := hwf.broadcast (aggregated P round first)
    rw [hfirst, hhub]
    exact ⟨_, rfl⟩

/-- A committee of two nodes waits for the commits of its round. -/
private theorem selected_pair (hP : P.Lawful) :
    ∃ (history : History G) (m : MeshSrv G), (server P).Run history m ∧
      m.cosigners = some (Cosigners.ofKeys [P.base, P.base]) ∧ m.nodeNumber = 2 ∧
      m.commits 1 = [] := by
  obtain ⟨history, m, hround⟩ := server_run_round hP .nil (by decide)
    (MeshSrv.fresh_newMeshSrv 1) ["a", "b"] (by simp) (by decide)
  refine ⟨history, m, hround.run, hround.cosigners, hround.nodeNumber, ?_⟩
  rw [MeshSrv.commits, hround.commitData]
  rfl

/-- A well-formed commit and a malformed one, in both orders. -/
theorem commit_order_irrelevant_malformed :
    ∃ (history : History (ZMod (8 * l))) (m post : MeshSrv (ZMod (8 * l)))
      (msg : FinalizedCommittee) (commit : Bytes),
      (server cyclicPrimitives).Run history m ∧ m.nodeNumber = 2 ∧
      (cyclicPrimitives.decode commit).isSome ∧
      m.deliverCommits cyclicPrimitives [⟨1, commit⟩, ⟨1, [7]⟩] = .ok (post, [msg]) ∧
      m.deliverCommits cyclicPrimitives [⟨1, [7]⟩, ⟨1, commit⟩] = .ok (post, [msg]) ∧
      msg.aggregatedCommit = [] := by
  obtain ⟨history, m, run, hcos, hnumber, hnone⟩ := selected_pair cyclicPrimitives_lawful
  obtain ⟨commit, hcommit⟩ : ∃ commit, (cyclicPrimitives.decode commit).isSome :=
    ⟨_, Option.isSome_of_eq_some (cyclicPrimitives_lawful.decode_toBytes cyclicPrimitives.base)⟩
  obtain ⟨msg, -, hmalformed, -, hsame, hcompletes⟩ := commit_order_irrelevant hcos
    (show 2 = _ from hnumber.symm) (by rw [hnumber]; decide) hnone
    (show ∀ cd ∈ [(⟨1, commit⟩ : CommitData), ⟨1, [7]⟩], cd.round = 1 by simp)
    (by rw [hnumber]; rfl) (List.Perm.swap _ _ [])
  obtain ⟨post, hpost⟩ := hcompletes (server_run_wellFormed run).hub
  refine ⟨history, m, post, msg, commit, run, hnumber, hcommit, hpost, hsame.trans hpost, ?_⟩
  exact hmalformed ⟨⟨1, [7]⟩, by simp, cyclicPrimitives.decode_eq_none_of_length (by decide)⟩

end MeshCosi.Network
