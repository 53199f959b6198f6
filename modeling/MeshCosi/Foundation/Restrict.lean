import MeshCosi.Foundation.Timers

/-!
# One key of a schedule

What a schedule does for one key does not depend on the other keys.
`Schedule.Restricts k s s'` says that `s'` shows what `s` holds for the key
`k`: its timers in their order, its entry in the map and its waiting calls.
The operations for `k` keep the relation when both sides take them, and the
operations for other keys keep it when only `s` takes them.  The timers of `k`
have other positions in the two clocks: position `t` becomes `rank k clock t`.
-/

namespace Foundation

/-! ## Positions in a filtered list -/

section Filter

variable {α : Type*} {p : α → Bool} {list : List α} {t : ℕ} {a b : α}

private theorem exists_split (h : list[t]? = some a) :
    ∃ front back, list = front ++ a :: back ∧ front.length = t := by
  obtain ⟨hlt, rfl⟩ := List.getElem?_eq_some_iff.1 h
  refine ⟨list.take t, list.drop (t + 1), ?_, List.length_take_of_le hlt.le⟩
  rw [List.getElem_cons_drop, List.take_append_drop]

/-- Where an element ends up when a list is filtered. -/
theorem getElem?_filter_countP (h : list[t]? = some a) (ha : p a = true) :
    (list.filter p)[(list.take t).countP p]? = some a := by
  obtain ⟨front, back, rfl, rfl⟩ := exists_split h
  rw [List.take_left, List.filter_append, List.countP_eq_length_filter,
    List.getElem?_append_right (Nat.le_refl _), Nat.sub_self, List.filter_cons_of_pos ha]
  rfl

theorem filter_set_of_pos (h : list[t]? = some a) (ha : p a = true) (hb : p b = true) :
    (list.set t b).filter p = (list.filter p).set ((list.take t).countP p) b := by
  obtain ⟨front, back, rfl, rfl⟩ := exists_split h
  rw [List.take_left, List.set_append_right _ _ (Nat.le_refl _), Nat.sub_self, List.set_cons_zero,
    List.filter_append, List.filter_append, List.filter_cons_of_pos hb, List.filter_cons_of_pos ha,
    List.countP_eq_length_filter, List.set_append_right _ _ (Nat.le_refl _), Nat.sub_self,
    List.set_cons_zero]

theorem filter_set_of_neg (h : list[t]? = some a) (ha : ¬ p a = true) (hb : ¬ p b = true) :
    (list.set t b).filter p = list.filter p := by
  obtain ⟨front, back, rfl, rfl⟩ := exists_split h
  rw [List.set_append_right _ _ (Nat.le_refl _), Nat.sub_self, List.set_cons_zero,
    List.filter_append, List.filter_append, List.filter_cons_of_neg hb, List.filter_cons_of_neg ha]

end Filter

namespace Schedule

variable {K : Type*} [DecidableEq K]

/-- The number of timers of a key before a position. -/
def rank (k : K) (clock : List (Timer K)) (t : ℕ) : ℕ :=
  (clock.take t).countP fun timer => timer.key = k

/-- The second schedule shows what the first one holds for a key. -/
structure Restricts (k : K) (s s' : Schedule K) : Prop where
  timers : s'.timers.lookup k = (s.timers.lookup k).map (rank k s.clock)
  clock : s'.clock = s.clock.filter fun timer => timer.key = k
  count : s'.spawned.count k = s.spawned.count k

variable {s s' : Schedule K} {k : K}

theorem Restricts.mem (h : Restricts k s s') : k ∈ s'.spawned ↔ k ∈ s.spawned := by
  rw [← List.count_pos_iff, ← List.count_pos_iff, h.count]

/-- A timer of the key is found at its rank. -/
theorem Restricts.getElem?_rank (h : Restricts k s s') {t : ℕ} {status : TimerStatus}
    (hclock : s.clock[t]? = some ⟨k, status⟩) : s'.clock[rank k s.clock t]? = some ⟨k, status⟩ := by
  rw [h.clock]
  exact getElem?_filter_countP hclock (by simp)

/-- Ranks depend on the keys of the timers only. -/
private theorem rank_set {clock : List (Timer K)} {t : ℕ} {k' : K} {status : TimerStatus}
    (hclock : clock[t]? = some ⟨k', status⟩) (status' : TimerStatus) :
    rank k (clock.set t ⟨k', status'⟩) = rank k clock := by
  have hrank : ∀ clock : List (Timer K), ∀ position,
      rank k clock position = ((clock.map Timer.key).take position).count k := by
    intro clock position
    rw [rank, ← List.map_take, List.count_eq_countP, List.countP_map]
    rfl
  have hkeys : (clock.set t ⟨k', status'⟩).map Timer.key = clock.map Timer.key := by
    apply List.ext_getElem?
    intro i
    rw [List.getElem?_map, List.getElem?_map, List.getElem?_set]
    split_ifs with heq hlt
    · rw [← heq, hclock]
      rfl
    · exact absurd (List.getElem?_eq_some_iff.1 hclock).1 hlt
    · rfl
  funext position
  rw [hrank, hrank, hkeys]

omit [DecidableEq K] in
private theorem modify_eq_set {clock : List (Timer K)} {t : ℕ} {timer : Timer K}
    (hclock : clock[t]? = some timer) (f : Timer K → Timer K) :
    clock.modify t f = clock.set t (f timer) := by
  apply List.ext_getElem?
  intro i
  rw [List.getElem?_modify, List.getElem?_set]
  split_ifs with heq hlt
  · rw [← heq, hclock]
    rfl
  · exact absurd (List.getElem?_eq_some_iff.1 hclock).1 hlt
  · simp

/-! ## Operations for the key -/

theorem Restricts.arm (h : Restricts k s s') : Restricts k (s.arm k) (s'.arm k) := by
  have htimers := h.timers
  cases hlookup : s.timers.lookup k with
  | some t =>
      rw [hlookup, Option.map_some] at htimers
      rw [arm_of_lookup hlookup, arm_of_lookup htimers]
      exact h
  | none =>
      rw [hlookup, Option.map_none] at htimers
      rw [arm_of_lookup_none hlookup, arm_of_lookup_none htimers]
      refine ⟨?_, ?_, h.count⟩
      · simp only [GoMap.lookup_insert_eq, if_true, Option.map_some]
        rw [rank, List.take_left, List.countP_eq_length_filter, h.clock]
      · rw [List.filter_append, h.clock]
        simp

/-- A timer of the key changes its status. -/
private theorem Restricts.set (h : Restricts k s s') {t : ℕ} {status : TimerStatus}
    (hclock : s.clock[t]? = some ⟨k, status⟩) (status' : TimerStatus) :
    Restricts k { s with clock := s.clock.set t ⟨k, status'⟩ }
      { s' with clock := s'.clock.set (rank k s.clock t) ⟨k, status'⟩ } where
  timers := h.timers.trans (by rw [rank_set hclock])
  clock := by
    rw [filter_set_of_pos hclock (by simp) (by simp), h.clock]
    rfl
  count := h.count

/-- A call for the key is started. -/
private theorem Restricts.push (h : Restricts k s s') :
    Restricts k { s with spawned := s.spawned ++ [k] }
      { s' with spawned := s'.spawned ++ [k] } where
  timers := h.timers
  clock := h.clock
  count := by rw [List.count_append, List.count_append, h.count]

theorem Restricts.spawn (h : Restricts k s s') (hwf : s.WellFormed) :
    Restricts k (s.spawn k) (s'.spawn k) := by
  have htimers := h.timers
  unfold Schedule.spawn
  cases hlookup : s.timers.lookup k with
  | none =>
      rw [hlookup, Option.map_none] at htimers
      rw [htimers]
      exact h.push
  | some t =>
      rw [hlookup, Option.map_some] at htimers
      rw [htimers]
      obtain ⟨status, hclock⟩ := hwf k t hlookup
      obtain ⟨after, hstop, -⟩ := Timer.exists_stop ⟨k, status⟩
      simp only [modify_eq_set hclock, modify_eq_set (h.getElem?_rank hclock), hstop]
      exact (h.set hclock after).push

theorem Restricts.fire (h : Restricts k s s') {t : ℕ} (hclock : s.clock[t]? = some ⟨k, .armed⟩) :
    Restricts k (s.fire t k) (s'.fire (rank k s.clock t) k) :=
  (h.set hclock .fired).push

theorem Restricts.run (h : Restricts k s s') : Restricts k (s.run k) (s'.run k) where
  timers := by
    rw [Schedule.run, Schedule.run, GoMap.lookup_erase_eq, GoMap.lookup_erase_eq, if_pos rfl,
      if_pos rfl, Option.map_none]
  clock := h.clock
  count := by rw [Schedule.run, Schedule.run, List.count_erase_self, List.count_erase_self, h.count]

/-! ## Operations for another key -/

variable {k' : K}

theorem Restricts.arm_of_ne (h : Restricts k s s') (hwf : s.WellFormed) (hne : k' ≠ k) :
    Restricts k (s.arm k') s' := by
  cases hlookup : s.timers.lookup k' with
  | some t =>
      rw [arm_of_lookup hlookup]
      exact h
  | none =>
      rw [arm_of_lookup_none hlookup]
      refine ⟨?_, ?_, h.count⟩
      · rw [h.timers]
        simp only [GoMap.lookup_insert_eq, if_neg hne.symm]
        cases hkey : s.timers.lookup k with
        | none => rfl
        | some t =>
            obtain ⟨status, hclock⟩ := hwf k t hkey
            have hle := (List.getElem?_eq_some_iff.1 hclock).1.le
            rw [Option.map_some, Option.map_some, rank, rank, List.take_append_of_le_length hle]
      · rw [List.filter_append, h.clock]
        simp [hne]

/-- A timer of another key changes its status. -/
private theorem Restricts.set_of_ne (h : Restricts k s s') {t : ℕ} {status : TimerStatus}
    (hclock : s.clock[t]? = some ⟨k', status⟩) (hne : k' ≠ k) (status' : TimerStatus) :
    Restricts k { s with clock := s.clock.set t ⟨k', status'⟩ } s' where
  timers := h.timers.trans (by rw [rank_set hclock])
  clock := by rw [filter_set_of_neg hclock (by simpa using hne) (by simpa using hne), h.clock]
  count := h.count

private theorem Restricts.push_of_ne (h : Restricts k s s') (hne : k' ≠ k) :
    Restricts k { s with spawned := s.spawned ++ [k'] } s' where
  timers := h.timers
  clock := h.clock
  count := by
    rw [List.count_append, List.count_singleton, h.count]
    simp [hne]

theorem Restricts.spawn_of_ne (h : Restricts k s s') (hwf : s.WellFormed) (hne : k' ≠ k) :
    Restricts k (s.spawn k') s' := by
  unfold Schedule.spawn
  cases hlookup : s.timers.lookup k' with
  | none => exact h.push_of_ne hne
  | some t =>
      obtain ⟨status, hclock⟩ := hwf k' t hlookup
      obtain ⟨after, hstop, -⟩ := Timer.exists_stop ⟨k', status⟩
      simp only [modify_eq_set hclock, hstop]
      exact (h.set_of_ne hclock hne after).push_of_ne hne

theorem Restricts.fire_of_ne (h : Restricts k s s') {t : ℕ}
    (hclock : s.clock[t]? = some ⟨k', .armed⟩) (hne : k' ≠ k) : Restricts k (s.fire t k') s' :=
  (h.set_of_ne hclock hne .fired).push_of_ne hne

theorem Restricts.run_of_ne (h : Restricts k s s') (hne : k' ≠ k) : Restricts k (s.run k') s' where
  timers := by
    rw [h.timers, Schedule.run, GoMap.lookup_erase_eq, if_neg hne.symm]
  clock := h.clock
  count := by rw [h.count, Schedule.run, List.count_erase_of_ne hne.symm]

end Schedule

end Foundation
