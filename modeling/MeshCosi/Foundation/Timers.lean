import MeshCosi.Foundation.Go

/-!
# One-shot timers that start calls

A program keeps, for each key, at most one timer in a map; a timer that fires
starts a call for its key, and the program may also stop the timer and start
the call itself.  A call that runs takes the key's timer out of the map.

Two questions arise.  Can a key have two calls on the way?  `Schedule.Single` is
the invariant that it cannot; it is kept for as long as the program does not
start a call while one waits.  Can a key have a timer in the map and no call on
the way?  `Schedule.Covered` is the invariant that it cannot, and every
operation keeps it.
-/

namespace Foundation

/-- The state of a timer.  Stopping has no effect on a timer that has fired. -/
inductive TimerStatus where
  | armed
  | fired
  | stopped
  deriving DecidableEq, Repr

/-- A timer made for a key. -/
structure Timer (K : Type*) where
  key : K
  status : TimerStatus
  deriving DecidableEq, Repr

/-- `(*time.Timer).Stop`. -/
def Timer.stop {K : Type*} (timer : Timer K) : Timer K :=
  match timer.status with
  | .armed => { timer with status := .stopped }
  | _ => timer

/-- Stopping keeps the key and leaves the timer not armed. -/
theorem Timer.exists_stop {K : Type*} (timer : Timer K) :
    ∃ status, timer.stop = ⟨timer.key, status⟩ ∧ status ≠ .armed := by
  obtain ⟨key, status⟩ := timer
  cases status with
  | armed => exact ⟨.stopped, rfl, by decide⟩
  | fired => exact ⟨.fired, rfl, by decide⟩
  | stopped => exact ⟨.stopped, rfl, by decide⟩

/-- The map of timers, the timers in the order in which they were made, and the
keys of the calls that wait to be run. -/
structure Schedule (K : Type*) where
  timers : GoMap K ℕ
  clock : List (Timer K)
  spawned : List K

namespace Schedule

variable {K : Type*} [DecidableEq K]

/-- Makes a timer for a key that has none. -/
def arm (s : Schedule K) (k : K) : Schedule K :=
  match s.timers.lookup k with
  | some _ => s
  | none => { s with
      timers := s.timers.insert k s.clock.length
      clock := s.clock ++ [⟨k, .armed⟩] }

/-- Stops the timer of a key and starts a call. -/
def spawn (s : Schedule K) (k : K) : Schedule K :=
  match s.timers.lookup k with
  | some t => { s with clock := s.clock.modify t Timer.stop, spawned := s.spawned ++ [k] }
  | none => { s with spawned := s.spawned ++ [k] }

/-- A timer fires. -/
def fire (s : Schedule K) (t : ℕ) (k : K) : Schedule K :=
  { s with clock := s.clock.set t ⟨k, .fired⟩, spawned := s.spawned ++ [k] }

/-- A call runs. -/
def run (s : Schedule K) (k : K) : Schedule K :=
  { s with timers := s.timers.erase k, spawned := s.spawned.erase k }

/-- No call waits for the key and no timer will start one. -/
def Idle (s : Schedule K) (k : K) : Prop :=
  k ∉ s.spawned ∧ ∀ t : ℕ, s.clock[t]? ≠ some ⟨k, .armed⟩

/-- The map leads from a key to a timer of that key. -/
def WellFormed (s : Schedule K) : Prop :=
  ∀ k t, s.timers.lookup k = some t → ∃ status, s.clock[t]? = some ⟨k, status⟩

/-- At most one call is on the way for a key: either its timer is armed or one
call waits. -/
structure Single (s : Schedule K) (k : K) : Prop where
  armed : ∀ t : ℕ, s.clock[t]? = some ⟨k, .armed⟩ → s.timers.lookup k = some t
  count_le : s.spawned.count k ≤ 1
  waiting : k ∈ s.spawned → ∃ t status, s.timers.lookup k = some t ∧
    s.clock[t]? = some ⟨k, status⟩ ∧ status ≠ .armed

/-- A key with a timer in the map has a call on the way: the timer is armed or a
call waits. -/
def Covered (s : Schedule K) (k : K) : Prop :=
  ∀ t, s.timers.lookup k = some t → s.clock[t]? = some ⟨k, .armed⟩ ∨ k ∈ s.spawned

variable {s : Schedule K} {k : K}

/-- While a call waits, no timer of the key is armed. -/
theorem Single.not_armed (h : s.Single k) (hmem : k ∈ s.spawned) (t : ℕ) :
    s.clock[t]? ≠ some ⟨k, .armed⟩ := by
  intro hclock
  obtain ⟨t', status, hlookup, hclock', hstatus⟩ := h.waiting hmem
  rw [h.armed t hclock, Option.some.injEq] at hlookup
  rw [← hlookup, hclock, Option.some.injEq, Timer.mk.injEq] at hclock'
  exact hstatus hclock'.2.symm

/-- A key without a timer in the map is idle. -/
theorem Single.idle_of_lookup (h : s.Single k) (hnone : s.timers.lookup k = none) : s.Idle k := by
  constructor
  · intro hmem
    obtain ⟨t, status, hlookup, -⟩ := h.waiting hmem
    rw [hnone] at hlookup
    cases hlookup
  · intro t hclock
    rw [h.armed t hclock] at hnone
    cases hnone

/-! ## What the operations do -/

@[simp] theorem arm_spawned (s : Schedule K) (k : K) : (s.arm k).spawned = s.spawned := by
  unfold arm
  split <;> rfl

@[simp] theorem spawn_spawned (s : Schedule K) (k : K) :
    (s.spawn k).spawned = s.spawned ++ [k] := by
  unfold spawn
  split <;> rfl

@[simp] theorem spawn_timers (s : Schedule K) (k : K) : (s.spawn k).timers = s.timers := by
  unfold spawn
  split <;> rfl

theorem lookup_arm_of_ne {k' : K} (hne : k' ≠ k) :
    (s.arm k).timers.lookup k' = s.timers.lookup k' := by
  unfold arm
  split
  · rfl
  · exact Finmap.lookup_insert_of_ne _ hne

theorem arm_of_lookup {t : ℕ} (h : s.timers.lookup k = some t) : s.arm k = s := by
  simp [arm, h]

theorem arm_of_lookup_none (h : s.timers.lookup k = none) :
    s.arm k = { s with
      timers := s.timers.insert k s.clock.length
      clock := s.clock ++ [⟨k, .armed⟩] } := by
  simp [arm, h]

/-- Arming keeps the timers that were there. -/
theorem getElem?_arm {t : ℕ} (hlt : t < s.clock.length) : (s.arm k).clock[t]? = s.clock[t]? := by
  unfold arm
  split
  · rfl
  · exact List.getElem?_append_left hlt

theorem getElem?_arm_eq_some {t : ℕ} {timer : Timer K} (h : (s.arm k).clock[t]? = some timer) :
    s.clock[t]? = some timer ∨
      s.timers.lookup k = none ∧ t = s.clock.length ∧ timer = ⟨k, .armed⟩ := by
  cases hlookup : s.timers.lookup k with
  | some t' =>
      rw [arm_of_lookup hlookup] at h
      exact .inl h
  | none =>
      rw [arm_of_lookup_none hlookup, List.getElem?_append] at h
      split_ifs at h with hlt
      · exact .inl h
      · obtain ⟨hzero, htimer⟩ := List.getElem?_eq_some_iff.1 h
        simp only [List.length_singleton, Nat.lt_one_iff] at hzero
        have ht : t = s.clock.length := by omega
        simp only [hzero, List.getElem_singleton] at htimer
        exact .inr ⟨rfl, ht, htimer.symm⟩

/-- After arming, the key has a timer. -/
theorem exists_lookup_arm (s : Schedule K) (k : K) : ∃ t, (s.arm k).timers.lookup k = some t := by
  cases hlookup : s.timers.lookup k with
  | some t => exact ⟨t, by rw [arm_of_lookup hlookup, hlookup]⟩
  | none => exact ⟨s.clock.length, by
      rw [arm_of_lookup_none hlookup, GoMap.lookup_insert_eq, if_pos rfl]⟩

theorem getElem?_spawn (s : Schedule K) (k : K) (t : ℕ) :
    (s.spawn k).clock[t]? =
      if s.timers.lookup k = some t then s.clock[t]?.map Timer.stop else s.clock[t]? := by
  unfold spawn
  cases hlookup : s.timers.lookup k with
  | none => simp
  | some t' =>
      simp only [List.getElem?_modify, Option.some.injEq]
      split_ifs <;> simp

/-! ## The operations keep the map well formed -/

theorem WellFormed.arm (hwf : s.WellFormed) (k : K) : (s.arm k).WellFormed := by
  intro k' t h
  cases hlookup : s.timers.lookup k with
  | some t' =>
      rw [arm_of_lookup hlookup] at h ⊢
      exact hwf k' t h
  | none =>
      rw [arm_of_lookup_none hlookup] at h ⊢
      rw [GoMap.lookup_insert_eq] at h
      split_ifs at h with heq
      · rw [Option.some.injEq] at h
        exact ⟨.armed, by simp [← h, heq]⟩
      · obtain ⟨status, hclock⟩ := hwf k' t h
        exact ⟨status, by
          rw [List.getElem?_append_left (List.getElem?_eq_some_iff.1 hclock).1, hclock]⟩

theorem WellFormed.spawn (hwf : s.WellFormed) (k : K) : (s.spawn k).WellFormed := by
  intro k' t h
  rw [spawn_timers] at h
  obtain ⟨status, hclock⟩ := hwf k' t h
  rw [getElem?_spawn, hclock]
  split_ifs
  · obtain ⟨after, hstop, -⟩ := Timer.exists_stop ⟨k', status⟩
    exact ⟨after, by rw [Option.map_some, hstop]⟩
  · exact ⟨status, rfl⟩

theorem WellFormed.fire (hwf : s.WellFormed) {t : ℕ} (hclock : s.clock[t]? = some ⟨k, .armed⟩) :
    (s.fire t k).WellFormed := by
  intro k' t' h
  obtain ⟨status, hclock'⟩ := hwf k' t' h
  by_cases heq : t = t'
  · subst heq
    rw [hclock, Option.some.injEq, Timer.mk.injEq] at hclock'
    exact ⟨.fired, by
      rw [Schedule.fire, List.getElem?_set_self (List.getElem?_eq_some_iff.1 hclock).1, hclock'.1]⟩
  · exact ⟨status, by rw [Schedule.fire, List.getElem?_set_ne heq, hclock']⟩

theorem WellFormed.run (hwf : s.WellFormed) (k : K) : (s.run k).WellFormed := by
  intro k' t h
  rw [Schedule.run, GoMap.lookup_erase_eq] at h
  split_ifs at h
  exact hwf k' t h

/-! ## Other keys -/

/-- Two schedules do not differ in what concerns a key. -/
structure Agree (k : K) (s s' : Schedule K) : Prop where
  timers : s'.timers.lookup k = s.timers.lookup k
  clock : ∀ (t : ℕ) status, s'.clock[t]? = some ⟨k, status⟩ ↔ s.clock[t]? = some ⟨k, status⟩
  count : s'.spawned.count k = s.spawned.count k

theorem Agree.refl (k : K) (s : Schedule K) : Agree k s s := ⟨rfl, fun _ _ => Iff.rfl, rfl⟩

theorem Agree.mem {s' : Schedule K} (h : Agree k s s') : k ∈ s'.spawned ↔ k ∈ s.spawned := by
  rw [← List.count_pos_iff, ← List.count_pos_iff, h.count]

theorem Agree.idle_iff {s' : Schedule K} (h : Agree k s s') : s'.Idle k ↔ s.Idle k := by
  simp only [Idle, h.mem, ne_eq, h.clock]

theorem Agree.single {s' : Schedule K} (h : Agree k s s') (hs : s.Single k) : s'.Single k where
  armed t hclock := by rw [h.timers, hs.armed t ((h.clock t _).1 hclock)]
  count_le := by rw [h.count]; exact hs.count_le
  waiting hmem := by
    obtain ⟨t, status, hlookup, hclock, hstatus⟩ := hs.waiting (h.mem.1 hmem)
    exact ⟨t, status, by rw [h.timers, hlookup], (h.clock t status).2 hclock, hstatus⟩

theorem Agree.covered {s' : Schedule K} (h : Agree k s s') (hs : s.Covered k) : s'.Covered k := by
  intro t hlookup
  rw [h.timers] at hlookup
  rw [h.clock, h.mem]
  exact hs t hlookup

theorem Agree.trans {s' s'' : Schedule K} (h : Agree k s s') (h' : Agree k s' s'') :
    Agree k s s'' where
  timers := h'.timers.trans h.timers
  clock t status := (h'.clock t status).trans (h.clock t status)
  count := h'.count.trans h.count

theorem agree_arm {k' : K} (hne : k ≠ k') : Agree k s (s.arm k') where
  timers := lookup_arm_of_ne hne
  clock t status := by
    constructor
    · intro h
      rcases getElem?_arm_eq_some h with h | ⟨-, -, h⟩
      · exact h
      · exact absurd (congrArg Timer.key h) hne
    · intro h
      rw [getElem?_arm (List.getElem?_eq_some_iff.1 h).1, h]
  count := by rw [arm_spawned]

theorem agree_spawn (hwf : s.WellFormed) {k' : K} (hne : k ≠ k') : Agree k s (s.spawn k') where
  timers := by rw [spawn_timers]
  clock t status := by
    rw [getElem?_spawn]
    split_ifs with hlookup
    · -- the stopped timer belongs to the other key
      obtain ⟨status', hclock⟩ := hwf k' t hlookup
      obtain ⟨after, hstop, -⟩ := Timer.exists_stop ⟨k', status'⟩
      simp [hclock, hstop, Ne.symm hne]
    · rfl
  count := by simp [Ne.symm hne]

theorem agree_fire {t : ℕ} {k' : K} (hclock : s.clock[t]? = some ⟨k', .armed⟩) (hne : k ≠ k') :
    Agree k s (s.fire t k') where
  timers := rfl
  clock t' status := by
    by_cases heq : t = t'
    · subst heq
      rw [fire, List.getElem?_set_self (List.getElem?_eq_some_iff.1 hclock).1, hclock]
      simp [Ne.symm hne]
    · rw [fire, List.getElem?_set_ne heq]
  count := by simp [fire, Ne.symm hne]

theorem agree_run {k' : K} (hne : k ≠ k') : Agree k s (s.run k') where
  timers := by rw [run, GoMap.lookup_erase_eq, if_neg hne]
  clock _ _ := Iff.rfl
  count := by rw [run, List.count_erase_of_ne hne]

/-! ## The key itself -/

theorem Single.arm (h : s.Single k) : (s.arm k).Single k := by
  cases hlookup : s.timers.lookup k with
  | some t =>
      rw [arm_of_lookup hlookup]
      exact h
  | none =>
      -- without an entry in the map the key is idle, so the new timer is its only one
      have hidle := h.idle_of_lookup hlookup
      refine ⟨fun t hclock => ?_, by rw [arm_spawned]; exact h.count_le, fun hmem => ?_⟩
      · rcases getElem?_arm_eq_some hclock with hclock | ⟨-, ht, -⟩
        · exact absurd hclock (hidle.2 t)
        · rw [arm_of_lookup_none hlookup, GoMap.lookup_insert_eq, if_pos rfl, ht]
      · rw [arm_spawned] at hmem
        exact absurd hmem hidle.1

/-- Starting a call for a key with a timer and no waiting call. -/
theorem Single.spawn (h : s.Single k) (hwf : s.WellFormed) {t : ℕ}
    (hlookup : s.timers.lookup k = some t) (hmem : k ∉ s.spawned) : (s.spawn k).Single k := by
  obtain ⟨status, hclock⟩ := hwf k t hlookup
  obtain ⟨after, hstop, hstatus⟩ := Timer.exists_stop ⟨k, status⟩
  have hafter : (s.spawn k).clock[t]? = some ⟨k, after⟩ := by
    rw [getElem?_spawn, if_pos hlookup, hclock, Option.map_some, hstop]
  refine ⟨fun t' hclock' => ?_, ?_, fun _ => ⟨t, after, by rw [spawn_timers, hlookup], hafter,
    hstatus⟩⟩
  · -- the stopped timer was the only one that could be armed
    by_cases heq : t = t'
    · subst heq
      rw [spawn_timers, hlookup]
    · rw [getElem?_spawn, if_neg (by rw [hlookup]; simpa using heq)] at hclock'
      rw [spawn_timers, h.armed t' hclock']
  · rw [spawn_spawned, List.count_append, List.count_eq_zero_of_not_mem hmem]
    simp

theorem Single.fire (h : s.Single k) {t : ℕ} (hclock : s.clock[t]? = some ⟨k, .armed⟩) :
    (s.fire t k).Single k := by
  have hlookup := h.armed t hclock
  -- the timer was armed, so no call was waiting
  have hmem : k ∉ s.spawned := fun hmem => h.not_armed hmem t hclock
  have hafter : (s.fire t k).clock[t]? = some ⟨k, .fired⟩ := by
    rw [Schedule.fire, List.getElem?_set_self (List.getElem?_eq_some_iff.1 hclock).1]
  refine ⟨fun t' hclock' => ?_, ?_, fun _ => ⟨t, .fired, hlookup, hafter, by decide⟩⟩
  · by_cases heq : t = t'
    · exact heq ▸ hlookup
    · rw [Schedule.fire, List.getElem?_set_ne heq] at hclock'
      exact h.armed t' hclock'
  · rw [Schedule.fire, List.count_append, List.count_eq_zero_of_not_mem hmem]
    simp

theorem Covered.arm (h : s.Covered k) : (s.arm k).Covered k := by
  intro t hlookup
  cases hbefore : s.timers.lookup k with
  | some t' =>
      rw [arm_of_lookup hbefore] at hlookup ⊢
      exact h t hlookup
  | none =>
      rw [arm_of_lookup_none hbefore] at hlookup ⊢
      rw [GoMap.lookup_insert_eq, if_pos rfl, Option.some.injEq] at hlookup
      left
      rw [← hlookup]
      simp

theorem covered_spawn (s : Schedule K) (k : K) : (s.spawn k).Covered k := by
  intro t _
  right
  simp

theorem covered_fire (s : Schedule K) (t : ℕ) (k : K) : (s.fire t k).Covered k := by
  intro t' _
  right
  simp [fire]

/-- The call takes the timer out of the map. -/
theorem covered_run (s : Schedule K) (k : K) : (s.run k).Covered k := by
  intro t hlookup
  rw [run, GoMap.lookup_erase_eq, if_pos rfl] at hlookup
  cases hlookup

/-- Once its call has run, the key is idle. -/
theorem Single.idle_run (h : s.Single k) (hmem : k ∈ s.spawned) : (s.run k).Idle k := by
  refine ⟨fun hafter => ?_, h.not_armed hmem⟩
  rw [Schedule.run, ← List.count_pos_iff, List.count_erase_self] at hafter
  have := h.count_le
  omega

theorem Single.run (h : s.Single k) (hmem : k ∈ s.spawned) : (s.run k).Single k where
  armed t hclock := absurd hclock ((h.idle_run hmem).2 t)
  count_le := by
    rw [Schedule.run, List.count_erase_self]
    have := h.count_le
    omega
  waiting hafter := absurd hafter (h.idle_run hmem).1

end Schedule

end Foundation
