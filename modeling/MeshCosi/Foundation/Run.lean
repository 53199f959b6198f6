import Mathlib.Data.List.Basic
import Mathlib.Data.List.Induction

/-!
# Runs of a deterministic machine

A machine takes one event at a time.  A step either completes with a new state
and a reply, or it halts: the event is not possible in the state, or the
program panics in the middle of it.  A run is the history of the completed
steps from the initial state, and every result about the order of events is a
statement about histories.

Nothing here depends on what the machine does.
-/

namespace Foundation

/-- Why a step does not complete. -/
inductive Halt (π : Type*) where
  /-- The event cannot happen in this state. -/
  | blocked
  /-- The program panics while it handles the event. -/
  | panic (cause : π)
  deriving DecidableEq, Repr

/-- A mapped step completes when the step does. -/
theorem map_eq_ok {η α β : Type*} {x : Except η α} {f : α → β} {b : β} :
    x.map f = .ok b ↔ ∃ a, x = .ok a ∧ f a = b := by
  cases x <;> simp [Except.map]

theorem map_eq_error {η α β : Type*} {x : Except η α} {f : α → β} {cause : η} :
    x.map f = .error cause ↔ x = .error cause := by
  cases x <;> simp [Except.map]

/-- A deterministic machine over states `σ`, events `ε`, replies `ρ` and panics `π`. -/
structure Machine (σ ε ρ π : Type*) where
  init : σ
  step : σ → ε → Except (Halt π) (σ × ρ)

/-- One completed step of a run. -/
structure Entry (σ ε ρ : Type*) where
  pre : σ
  event : ε
  reply : ρ
  post : σ

namespace Machine

variable {σ ε ρ π : Type*} (M : Machine σ ε ρ π)

/-- The histories of the machine, each with the state it ends in. -/
inductive Run : List (Entry σ ε ρ) → σ → Prop
  | nil : Run [] M.init
  | snoc {history : List (Entry σ ε ρ)} {pre post : σ} {event : ε} {reply : ρ}
      (run : Run history pre) (step : M.step pre event = .ok (post, reply)) :
      Run (history ++ [⟨pre, event, reply, post⟩]) post

/-- Every step of a history meets a condition on what came before it, on the
state it was taken in and on its event. -/
def Along (condition : List (Entry σ ε ρ) → σ → ε → Prop)
    (history : List (Entry σ ε ρ)) : Prop :=
  ∀ past entry future, history = past ++ entry :: future →
    condition past entry.pre entry.event

/-- Executes a list of events from a state and collects the replies. -/
def replay : σ → List ε → Except (Halt π) (σ × List ρ)
  | s, [] => .ok (s, [])
  | s, event :: events =>
      match M.step s event with
      | .error halt => .error halt
      | .ok (post, reply) => (replay post events).map fun rest => (rest.1, reply :: rest.2)

/-- Executes a list of events from a state and collects the history. -/
def trace : σ → List ε → Except (Halt π) (List (Entry σ ε ρ) × σ)
  | s, [] => .ok ([], s)
  | s, event :: events =>
      match M.step s event with
      | .error halt => .error halt
      | .ok (post, reply) =>
          (trace post events).map fun rest => (⟨s, event, reply, post⟩ :: rest.1, rest.2)

variable {M}

/-! ## Conditions along a history -/

theorem along_nil {condition : List (Entry σ ε ρ) → σ → ε → Prop} : Along condition [] := by
  intro past entry future h
  simp at h

theorem along_snoc {condition : List (Entry σ ε ρ) → σ → ε → Prop}
    {history : List (Entry σ ε ρ)} {entry : Entry σ ε ρ} :
    Along condition (history ++ [entry]) ↔
      Along condition history ∧ condition history entry.pre entry.event := by
  constructor
  · intro h
    refine ⟨fun past x future hx => ?_, h history entry [] rfl⟩
    exact h past x (future ++ [entry]) (by rw [hx]; simp)
  · rintro ⟨hpast, hlast⟩ past x future hx
    rcases List.eq_nil_or_concat future with rfl | ⟨front, last, rfl⟩
    · obtain ⟨rfl, hx⟩ := List.append_inj' hx rfl
      obtain rfl : entry = x := by simpa using hx
      exact hlast
    · rw [List.concat_eq_append, ← List.cons_append, ← List.append_assoc] at hx
      exact hpast past x front (List.append_inj' hx rfl).1

theorem Along.imp {condition condition' : List (Entry σ ε ρ) → σ → ε → Prop}
    {history : List (Entry σ ε ρ)} (h : Along condition history)
    (himp : ∀ past s event, condition past s event → condition' past s event) :
    Along condition' history :=
  fun past entry future heq => himp _ _ _ (h past entry future heq)

theorem Along.of_append {condition : List (Entry σ ε ρ) → σ → ε → Prop}
    {past future : List (Entry σ ε ρ)} (h : Along condition (past ++ future)) :
    Along condition past := by
  rintro before entry after rfl
  exact h before entry (after ++ future) (by simp)

/-! ## Runs -/

/-- Every prefix of a run is a run, and the entry after it was a step of the machine. -/
theorem Run.split {past future : List (Entry σ ε ρ)} {entry : Entry σ ε ρ} {s : σ}
    (run : M.Run (past ++ entry :: future) s) :
    M.Run past entry.pre ∧ M.step entry.pre entry.event = .ok (entry.post, entry.reply) := by
  generalize hh : past ++ entry :: future = history at run
  induction run generalizing future with
  | nil => simp at hh
  | @snoc history pre post event reply run step ih =>
      rcases List.eq_nil_or_concat future with rfl | ⟨front, last, rfl⟩
      · obtain ⟨rfl, hentry⟩ := List.append_inj' hh rfl
        obtain rfl : entry = ⟨pre, event, reply, post⟩ := by simpa using hentry
        exact ⟨run, step⟩
      · rw [List.concat_eq_append, ← List.cons_append, ← List.append_assoc] at hh
        exact ih (List.append_inj' hh rfl).1

/-- Extends a run by a given event. -/
theorem Run.next {history : List (Entry σ ε ρ)} {s post : σ} {reply : ρ} (run : M.Run history s)
    (event : ε) (step : M.step s event = .ok (post, reply)) :
    M.Run (history ++ [⟨s, event, reply, post⟩]) post :=
  run.snoc step

/-- The invariant rule: what holds at the start and is preserved by every step
that meets the condition holds at the end of every run along the condition. -/
theorem Run.invariant {condition : List (Entry σ ε ρ) → σ → ε → Prop}
    {I : List (Entry σ ε ρ) → σ → Prop} {history : List (Entry σ ε ρ)} {s : σ}
    (run : M.Run history s) (along : Along condition history) (init : I [] M.init)
    (step : ∀ history pre event post reply, M.Run history pre → I history pre →
      condition history pre event → M.step pre event = .ok (post, reply) →
      I (history ++ [⟨pre, event, reply, post⟩]) post) : I history s := by
  induction run with
  | nil => exact init
  | snoc run hstep ih =>
      obtain ⟨hpast, hlast⟩ := along_snoc.1 along
      exact step _ _ _ _ _ run (ih hpast) hlast hstep

/-- The last entry of a run. -/
theorem Run.snoc_inv {history : List (Entry σ ε ρ)} {entry : Entry σ ε ρ} {s : σ}
    (run : M.Run (history ++ [entry]) s) : M.Run history entry.pre ∧ s = entry.post := by
  generalize hh : history ++ [entry] = whole at run
  cases run with
  | nil => simp at hh
  | snoc run step =>
      obtain ⟨rfl, hentry⟩ := List.append_inj' hh rfl
      obtain rfl := List.singleton_inj.1 hentry
      exact ⟨run, rfl⟩

/-- The rule for what holds ever after an entry: it holds right after it, and
every later step of the run keeps it. -/
theorem Run.since {I : List (Entry σ ε ρ) → σ → Prop} {past future : List (Entry σ ε ρ)}
    {entry : Entry σ ε ρ} {s : σ} (run : M.Run (past ++ entry :: future) s)
    (first : I [entry] entry.post)
    (step : ∀ between later rest, future = between ++ later :: rest →
      M.Run (past ++ entry :: between) later.pre → I (entry :: between) later.pre →
      M.step later.pre later.event = .ok (later.post, later.reply) →
      I (entry :: between ++ [later]) later.post) : I (entry :: future) s := by
  induction future using List.reverseRecOn generalizing s with
  | nil => exact run.snoc_inv.2 ▸ first
  | append_singleton between later ih =>
      rw [← List.cons_append, ← List.append_assoc] at run
      obtain ⟨hrun, rfl⟩ := run.snoc_inv
      refine step between later [] rfl hrun (ih hrun fun before next rest hnext => ?_) run.split.2
      exact step before next (rest ++ [later]) (by rw [hnext]; simp)

/-- The invariant rule for a property of the state alone, without a condition. -/
theorem Run.state_invariant {I : σ → Prop} {history : List (Entry σ ε ρ)} {s : σ}
    (run : M.Run history s) (init : I M.init)
    (step : ∀ pre event post reply, I pre → M.step pre event = .ok (post, reply) → I post) :
    I s := by
  induction run with
  | nil => exact init
  | snoc _ hstep ih => exact step _ _ _ _ ih hstep

theorem replay_cons {s post : σ} {event : ε} {reply : ρ} (h : M.step s event = .ok (post, reply))
    (events : List ε) :
    M.replay s (event :: events) =
      (M.replay post events).map fun rest => (rest.1, reply :: rest.2) := by
  rw [replay, h]

theorem replay_singleton (s : σ) (event : ε) :
    M.replay s [event] = (M.step s event).map fun result => (result.1, [result.2]) := by
  rw [replay]
  cases M.step s event <;> rfl

theorem trace_cons_eq_ok {added : List (Entry σ ε ρ)} {s last : σ} {event : ε} {events : List ε} :
    M.trace s (event :: events) = .ok (added, last) ↔
      ∃ post reply tail, M.step s event = .ok (post, reply) ∧
        M.trace post events = .ok (tail, last) ∧ added = ⟨s, event, reply, post⟩ :: tail := by
  rw [trace]
  cases hstep : M.step s event with
  | error halt => simp
  | ok result =>
      cases hrest : M.trace result.1 events with
      | error halt =>
          simp only [hrest, Except.map, reduceCtorEq, false_iff]
          rintro ⟨post, reply, tail, hpost, htail, -⟩
          rw [Except.ok.injEq] at hpost
          subst hpost
          rw [hrest] at htail
          cases htail
      | ok rest =>
          simp only [hrest, Except.map, Except.ok.injEq, Prod.mk.injEq]
          constructor
          · rintro ⟨rfl, rfl⟩
            exact ⟨result.1, result.2, rest.1, rfl, hrest, rfl⟩
          · rintro ⟨post, reply, tail, rfl, htail, rfl⟩
            rw [hrest, Except.ok.injEq] at htail
            simp [htail]

theorem Run.append_trace {history added : List (Entry σ ε ρ)} {s last : σ} {events : List ε}
    (run : M.Run history s) (htrace : M.trace s events = .ok (added, last)) :
    M.Run (history ++ added) last := by
  induction events generalizing history s added with
  | nil =>
      simp only [trace, Except.ok.injEq, Prod.mk.injEq] at htrace
      obtain ⟨rfl, rfl⟩ := htrace
      simpa using run
  | cons event events ih =>
      obtain ⟨post, reply, tail, hstep, htail, rfl⟩ := trace_cons_eq_ok.1 htrace
      simpa using ih (run.snoc hstep) htail

/-- A trace has one entry for each event. -/
theorem map_event_trace {added : List (Entry σ ε ρ)} {s last : σ} {events : List ε}
    (htrace : M.trace s events = .ok (added, last)) : added.map Entry.event = events := by
  induction events generalizing s added with
  | nil =>
      simp only [trace, Except.ok.injEq, Prod.mk.injEq] at htrace
      simp [← htrace.1]
  | cons event events ih =>
      obtain ⟨post, reply, tail, -, htail, rfl⟩ := trace_cons_eq_ok.1 htrace
      rw [List.map_cons, ih htail]

/-- A list of events that executes from the initial state gives a run. -/
theorem run_of_trace {history : List (Entry σ ε ρ)} {s : σ} {events : List ε}
    (htrace : M.trace M.init events = .ok (history, s)) : M.Run history s := by
  simpa using Run.nil.append_trace htrace

end Machine

end Foundation
