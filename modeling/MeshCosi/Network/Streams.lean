import MeshCosi.Network.Committees
import MeshCosi.Network.Delivery

/-!
# What the nodes receive

What a run of the server does to `m.subs` and the channels is a run of the
subscriptions alone (`server_run_hub`), so what is known of every such run holds
in every state of the server:

* a stream carries, nil messages aside, what the server broadcast, in order
  (`server_streams_carry_sent`);
* so a node that hears of a committee hears of one that a `tryFinalize` call
  selected (`server_streams_carry_committees`);
* as long as no `LeaveNetwork` found a subscription, no channel is closed twice
  (`server_channels_closed_once`).
-/

namespace MeshCosi.Network

open Foundation Ed25519 Cosi

variable {G : Type}

/-- What a step of the server does to the subscriptions. -/
def hubEventOf (entry : Entry (MeshSrv G) Event Reply) : Option (HubEvent FinalizedCommittee) :=
  match entry.event with
  | .handler event => event.hubEvent <|> entry.reply.sent.map .broadcast
  | .finalize _ => entry.reply.sent.map .broadcast

/-- The steps of a history that concern the subscriptions. -/
def hubHistory (history : History G) : HubHistory FinalizedCommittee :=
  history.filterMap fun entry =>
    (hubEventOf entry).map fun event => ⟨entry.pre.hub, event, (), entry.post.hub⟩

variable [AddCommGroup G] {P : Primitives G}

/-- The subscriptions of a run of the server are a run of the subscriptions. -/
theorem server_run_hub {history : History G} {m : MeshSrv G} (run : (server P).Run history m) :
    (hubMachine FinalizedCommittee).Run (hubHistory history) m.hub := by
  induction run with
  | nil => exact .nil
  | @snoc history pre post event reply run hstep ih =>
      have hsnoc : ∀ hubEvent, hubEventOf ⟨pre, event, reply, post⟩ = some hubEvent →
          pre.hub.step hubEvent = .ok post.hub →
          (hubMachine FinalizedCommittee).Run
            (hubHistory (history ++ [⟨pre, event, reply, post⟩])) post.hub := by
        intro hubEvent hevent hhub
        rw [hubHistory, List.filterMap_append, List.filterMap_cons, hevent]
        exact ih.snoc (hubMachine_step.2 hhub)
      have hsame : hubEventOf ⟨pre, event, reply, post⟩ = none → post.hub = pre.hub →
          (hubMachine FinalizedCommittee).Run
            (hubHistory (history ++ [⟨pre, event, reply, post⟩])) post.hub := by
        intro hevent hhub
        rw [hubHistory, List.filterMap_append, List.filterMap_cons, hevent, hhub]
        rwa [Option.map_none, List.filterMap_nil, List.append_nil]
      cases event with
      | finalize round =>
          obtain ⟨-, processed, cos, hub, -, -, hhub, rfl, rfl⟩ := MeshSrv.step_finalize.1 hstep
          exact hsnoc _ rfl (Hub.step_broadcast hhub)
      | handler event =>
          have heffect := MeshSrv.handle_effect hstep
          cases heffect with
          | @stream _ hubEvent _ _ _ hevent hhub _ =>
              exact hsnoc hubEvent (by simp [hubEventOf, hevent]) hhub
          | accepted _ haccepts => exact hsame rfl haccepts.hub
          | refused _ => exact hsame rfl rfl
          | committed hsent =>
              rcases hsent with ⟨rfl, rfl⟩ | ⟨msg, rfl, hhub⟩
              · exact hsame rfl rfl
              · exact hsnoc (.broadcast msg) rfl (Hub.step_broadcast hhub)
          | fired _ => exact hsame rfl rfl

/-! ## The messages -/

omit [AddCommGroup G] in
/-- A step of the server broadcasts what its reply says. -/
theorem sent_of_hubEventOf {entry : Entry (MeshSrv G) Event Reply} {msg : FinalizedCommittee}
    (h : hubEventOf entry = some (.broadcast msg)) : entry.reply.sent = some msg := by
  obtain ⟨pre, event, ⟨ack, sent⟩, post⟩ := entry
  cases event with
  | finalize round => cases sent <;> simp_all [hubEventOf]
  | handler event =>
      -- a stream event is none of the broadcasts
      cases event <;> cases sent <;> simp_all [hubEventOf, HandlerEvent.hubEvent]

private theorem filterMap_sublist {α β : Type} {f g : α → Option β}
    (h : ∀ a b, f a = some b → g a = some b) (list : List α) :
    (list.filterMap f).Sublist (list.filterMap g) := by
  induction list with
  | nil => exact .slnil
  | cons a list ih =>
      cases hf : f a with
      | none =>
          rw [List.filterMap_cons_none hf]
          exact ih.trans ((List.sublist_cons_self a list).filterMap g)
      | some b =>
          rw [List.filterMap_cons_some hf, List.filterMap_cons_some (h a b hf)]
          exact ih.cons_cons b

omit [AddCommGroup G] in
/-- What is broadcast to a stream is what the server sent, in order. -/
theorem broadcastsTo_hubHistory (i : ℕ) (history : History G) :
    (broadcastsTo i (hubHistory history)).Sublist (history.filterMap (·.reply.sent)) := by
  rw [broadcastsTo, hubHistory, List.filterMap_filterMap]
  refine filterMap_sublist (fun entry msg h => ?_) history
  obtain ⟨hubEntry, hentry, hmsg⟩ := Option.bind_eq_some_iff.1 h
  obtain ⟨event, hevent, rfl⟩ := Option.map_eq_some_iff.1 hentry
  cases event with
  | broadcast broadcasted =>
      rw [Option.ite_none_right_eq_some, Option.some.injEq] at hmsg
      exact sent_of_hubEventOf (hmsg.2 ▸ hevent)
  | _ => cases hmsg

/-- **A stream carries what the server broadcast.**  The messages that a stream of
the server has sent, nil ones aside, and then those in its buffer, are among the
messages that the server broadcast, in order. -/
theorem server_streams_carry_sent {history : History G} {m : MeshSrv G}
    (run : (server P).Run history m) {i : ℕ} {stream : Stream FinalizedCommittee}
    (hstream : m.hub.streams[i]? = some stream) :
    (stream.sent.reduceOption ++ stream.buffer).Sublist (history.filterMap (·.reply.sent)) :=
  (delivered_sublist (server_run_hub run) i stream hstream).trans
    (broadcastsTo_hubHistory i history)

/-- A message with nodes in it is the committee of its round; the answer to the
commits of a round names none. -/
theorem MeshSrv.WellFormed.finalize_of_sent {m post : MeshSrv G} (hwf : m.WellFormed)
    {event : Event} {reply : Reply} {msg : FinalizedCommittee}
    (hstep : (server P).step m event = .ok (post, reply)) (hsent : reply.sent = some msg)
    (hnodes : msg.nodeId ≠ []) : event = .finalize msg.round := by
  cases event with
  | finalize round =>
      obtain ⟨-, processed, cos, hub, -, -, -, rfl, rfl⟩ := MeshSrv.step_finalize.1 hstep
      obtain rfl := Option.some.inj hsent
      rfl
  | handler event =>
      have heffect : HandlerEffect m event post reply := MeshSrv.handle_effect (P := P) hstep
      cases heffect with
      | stream _ _ _ => cases hsent
      | accepted _ _ => cases hsent
      | refused _ => cases hsent
      | committed _ =>
          obtain ⟨sent, hresult, hreply⟩ := MeshSrv.step_requestAggregatedCommit.1 hstep
          obtain rfl := (Reply.mk.inj hreply).2
          rcases hwf.requestAggregatedCommit_cases hresult with ⟨-, -, rfl⟩ |
            ⟨cos, hub, -, -, -, -, rfl⟩
          · cases hsent
          · obtain rfl := Option.some.inj hsent
            exact absurd rfl hnodes
      | fired _ => cases hsent

/-- A node that hears of a committee hears of one that a `tryFinalize` call of its
round selected. -/
theorem server_streams_carry_committees {history : History G} {m : MeshSrv G}
    (run : (server P).Run history m) {i : ℕ} {stream : Stream FinalizedCommittee}
    (hstream : m.hub.streams[i]? = some stream) {msg : FinalizedCommittee}
    (hmsg : some msg ∈ stream.sent) (hnodes : msg.nodeId ≠ []) :
    msg ∈ committees msg.round history := by
  have hcarried : msg ∈ stream.sent.reduceOption ++ stream.buffer :=
    List.mem_append_left _ (List.reduceOption_mem_iff.2 hmsg)
  obtain ⟨entry, hentry, hsent⟩ :=
    List.mem_filterMap.1 ((server_streams_carry_sent run hstream).subset hcarried)
  obtain ⟨past, future, rfl⟩ := List.append_of_mem hentry
  obtain ⟨hpast, hstep⟩ := run.split
  have hevent := (server_run_wellFormed hpast).finalize_of_sent hstep hsent hnodes
  refine List.mem_filterMap.2 ⟨entry, hentry, ?_⟩
  rw [hevent]
  exact (if_pos rfl).trans hsent

/-! ## The channels -/

/-- A stream event of the server is a step of the subscriptions. -/
theorem MeshSrv.handle_hubEvent (P : Primitives G) (m : MeshSrv G)
    {event : HandlerEvent} {hubEvent : HubEvent FinalizedCommittee}
    (hevent : event.hubEvent = some hubEvent) :
    ∃ f, m.handle P event = (m.hub.step hubEvent).map f := by
  cases event <;> cases hevent
  case joinNetwork nodeId => exact ⟨fun hub => ({ m with hub := hub }, ⟨none, none⟩), rfl⟩
  all_goals exact ⟨_, rfl⟩

/-- **No channel is closed twice** by a server on which no `LeaveNetwork` has found a
subscription. -/
theorem server_channels_closed_once {history : History G} {m : MeshSrv G}
    (run : (server P).Run history m) (hleaves : LeavesFindNothing (hubHistory history))
    {event : HandlerEvent} {hubEvent : HubEvent FinalizedCommittee}
    (hevent : event.hubEvent = some hubEvent) :
    (server P).step m (.handler event) ≠ .error (.panic .closeOfClosedChannel) := by
  have hclosed := Hub.closedByCleanup_of_run (server_run_hub run) hleaves
  obtain ⟨f, hhandle⟩ := m.handle_hubEvent P hevent
  intro hpanic
  exact hclosed.step_ne_panic (server_run_wellFormed run).hub hubEvent
    (map_eq_error.1 (hhandle.symm.trans hpanic))

end MeshCosi.Network
