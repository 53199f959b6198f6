import Mathlib.Data.Finmap
import MeshCosi.Foundation.Run

/-!
# The parts of the Go runtime a model needs

Run-time panics, nil pointers and maps.  A Go map is a `Finmap`: `m[k]` is
`lookup` with the zero value as default, assignment is `insert`, `delete` is
`erase`.  A `range` loop visits the entries in an unspecified order, so a loop
is a `Finmap.foldl`, whose definition asks for the proof that the order does
not matter; `GoMap.exists_entries` turns it into a loop over a list.
-/

namespace Foundation

/-! ## Panics -/

/-- The run-time panics of Go, and `panic` called with a text. -/
inductive Panic where
  | nilDereference
  | nilMapWrite
  | indexOutOfRange
  | closeOfClosedChannel
  | sendOnClosedChannel
  | text (message : String)
  deriving DecidableEq, Repr

/-- A computation that returns or panics. -/
abbrev Go (α : Type*) := Except Panic α

/-- A computation as a step of a machine. -/
def Go.run {α : Type*} : Go α → Except (Halt Panic) α
  | .error cause => .error (.panic cause)
  | .ok a => .ok a

@[simp] theorem Go.run_ok {α : Type*} (a : α) : Go.run (.ok a : Go α) = .ok a := rfl

theorem Go.run_eq_ok {α : Type*} {x : Go α} {a : α} : x.run = .ok a ↔ x = .ok a := by
  cases x <;> simp [Go.run]

theorem Go.run_eq_panic {α : Type*} {x : Go α} {cause : Panic} :
    x.run = .error (.panic cause) ↔ x = .error cause := by
  cases x <;> simp [Go.run]

/-- Uses a pointer that may be nil. -/
def deref {α : Type*} : Option α → Go α
  | none => .error .nilDereference
  | some a => .ok a

@[simp] theorem deref_some {α : Type*} (a : α) : deref (some a) = .ok a := rfl

@[simp] theorem deref_none {α : Type*} : deref (none : Option α) = .error .nilDereference := rfl

theorem ok_bind.{u} {α β : Type u} (a : α) (f : α → Go β) : ((.ok a : Go α) >>= f) = f a := rfl

/-- A sequence of two computations returns when both do. -/
theorem bind_eq_ok.{u} {α β : Type u} {x : Go α} {f : α → Go β} {b : β} :
    x >>= f = .ok b ↔ ∃ a, x = .ok a ∧ f a = .ok b := by
  cases x with
  | error cause => simp [bind, Except.bind]
  | ok a => simp [bind, Except.bind]

/-- A loop whose body returns on every element returns all the results. -/
theorem mapM_eq_ok {α β : Type} {f : α → Go β} {g : α → β} {list : List α}
    (h : ∀ a ∈ list, f a = .ok (g a)) : list.mapM f = .ok (list.map g) := by
  induction list with
  | nil => rfl
  | cons a list ih =>
      rw [List.forall_mem_cons] at h
      rw [List.mapM_cons, h.1, ih h.2]
      rfl

/-! ## Maps -/

/-- A Go map. -/
abbrev GoMap (K V : Type*) := Finmap fun _ : K => V

namespace GoMap

variable {K V : Type*} [DecidableEq K]

theorem lookup_insert_eq (m : GoMap K V) (a k : K) (v : V) :
    (m.insert a v).lookup k = if k = a then some v else m.lookup k := by
  split_ifs with h
  · subst h
    exact Finmap.lookup_insert m
  · exact Finmap.lookup_insert_of_ne m h

theorem lookup_erase_eq (m : GoMap K V) (a k : K) :
    (m.erase a).lookup k = if k = a then none else m.lookup k := by
  split_ifs with h
  · subst h
    exact Finmap.lookup_erase k m
  · exact Finmap.lookup_erase_ne h

/-- What was stored under a key does not matter once the key is deleted. -/
theorem erase_insert (m : GoMap K V) (a : K) (v : V) : (m.insert a v).erase a = m.erase a := by
  refine Finmap.ext_lookup fun k => ?_
  rw [lookup_erase_eq, lookup_erase_eq, lookup_insert_eq]
  split_ifs <;> rfl

/-- A `range` loop is a loop over the entries, in some order. -/
theorem exists_entries.{u} (m : GoMap K V) :
    ∃ entries : List (K × V), (entries.map Prod.fst).Nodup ∧
      (∀ k v, (k, v) ∈ entries ↔ m.lookup k = some v) ∧
      ∀ {δ : Type u} (f : δ → K → V → δ) (comm) (d : δ),
        Finmap.foldl f comm d m = entries.foldl (fun d entry => f d entry.1 entry.2) d := by
  induction m using Finmap.induction_on with
  | H s =>
      refine ⟨s.entries.map fun entry => (entry.1, entry.2), ?_, ?_, ?_⟩
      · rw [List.map_map]
        exact s.keys_nodup
      · intro k v
        rw [Finmap.lookup_toFinmap, ← Option.mem_def, AList.mem_lookup_iff]
        constructor
        · intro h
          obtain ⟨⟨k', v'⟩, hmem, heq⟩ := List.mem_map.1 h
          simp only [Prod.mk.injEq] at heq
          obtain ⟨rfl, rfl⟩ := heq
          exact hmem
        · intro h
          exact List.mem_map.2 ⟨⟨k, v⟩, h, rfl⟩
      · intro δ f comm d
        rw [List.foldl_map]
        rfl

/-- The loop `for k := range m { if p(k) { delete(m, k) } }`. -/
def deleteIf (p : K → Bool) (m : GoMap K V) : GoMap K V :=
  m.foldl (fun rest k _ => if p k then rest.erase k else rest)
    (fun rest k _ k' _ => by
      split_ifs
      · exact Finmap.erase_erase
      all_goals rfl) m

private theorem lookup_foldl_erase (p : K → Bool) (k : K) (entries : List (K × V)) :
    ∀ rest : GoMap K V,
      (entries.foldl (fun rest entry =>
        if p entry.1 then rest.erase entry.1 else rest) rest).lookup k =
        if p k ∧ k ∈ entries.map Prod.fst then none else rest.lookup k := by
  induction entries with
  | nil => simp
  | cons entry entries ih =>
      intro rest
      rw [List.foldl_cons, ih]
      by_cases hk : k = entry.1
      · subst hk
        by_cases hp : p entry.1 <;> simp [hp]
      · have hrest : (if p entry.1 then rest.erase entry.1 else rest).lookup k = rest.lookup k := by
          split_ifs
          · exact Finmap.lookup_erase_ne hk
          · rfl
        rw [hrest, List.map_cons]
        simp only [List.mem_cons, hk, false_or]

theorem lookup_deleteIf (p : K → Bool) (m : GoMap K V) (k : K) :
    (m.deleteIf p).lookup k = if p k then none else m.lookup k := by
  obtain ⟨entries, -, hmem, hfold⟩ := exists_entries m
  rw [deleteIf, hfold, lookup_foldl_erase]
  by_cases hp : p k
  · by_cases hk : k ∈ entries.map Prod.fst
    · simp [hp, hk]
    · cases hlookup : m.lookup k with
      | none => simp
      | some v =>
          exact absurd (List.mem_map.2 ⟨(k, v), (hmem k v).2 hlookup, rfl⟩) hk
  · simp [hp]

end GoMap

end Foundation
