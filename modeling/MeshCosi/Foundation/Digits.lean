import Mathlib.Algebra.BigOperators.Intervals
import Mathlib.Algebra.Order.BigOperators.Group.Finset
import MeshCosi.Foundation.Limbs

/-!
# Digits of a number in an array of machine words

A recoding changes the digits of a number and keeps its value.  `Holds` relates the
array to the digits as integers, and `tailValue` is the value of the digits from a
position on, so that a loop that goes up only has to speak of what it has not yet
reached.
-/

namespace Foundation

/-- The words of `r` hold the digits `s`. -/
def Holds {w n : ℕ} (r : Limbs w n) (s : ℕ → ℤ) : Prop := r = toLimbs w fun i => s i

namespace Holds

variable {w n : ℕ} {r : Limbs w n} {s : ℕ → ℤ}

theorem get (h : Holds r s) {i : ℕ} (hi : i < n) : r.get ⟨i, hi⟩ = BitVec.ofInt w (s i) := by
  rw [h, get_toLimbs]

theorem getD (h : Holds r s) {i : ℕ} (hi : i < n) : r.toList.getD i 0 = BitVec.ofInt w (s i) := by
  have hi' : i < r.toList.length := r.toList_length.symm ▸ hi
  rw [← h.get hi, List.getD_eq_getElem?_getD, List.getElem?_eq_getElem hi']
  rfl

theorem set (h : Holds r s) {k : ℕ} (hk : k < n) (x : ℤ) :
    Holds (r.set ⟨k, hk⟩ (BitVec.ofInt w x)) (Function.update s k x) := by
  rw [Holds, h, ← toLimbs_update]
  congr 1
  funext i
  simp only [Function.update_apply, Fin.ext_iff]

end Holds

/-- What holds before a loop over the positions and is kept by each pass holds after it. -/
theorem foldl_finRange_induction {β : Type*} {n : ℕ} {motive : ℕ → β → Prop} {f : β → Fin n → β}
    {b : β} (hzero : motive 0 b) (hstep : ∀ (i : Fin n) b, motive i b → motive (i + 1) (f b i)) :
    motive n ((List.finRange n).foldl f b) := by
  induction n with
  | zero => exact hzero
  | succ n ih =>
      rw [List.finRange_succ_last, List.foldl_append, List.foldl_map]
      exact hstep (Fin.last n) _ (ih fun i b h => hstep i.castSucc b h)

/-- The value of the digits from position `i` on. -/
def tailValue (base : ℤ) (n : ℕ) (s : ℕ → ℤ) (i : ℕ) : ℤ := ∑ j ∈ Finset.Ico i n, s j * base ^ j

variable {base : ℤ} {n : ℕ} {s t : ℕ → ℤ} {i k : ℕ}

theorem tailValue_zero (base : ℤ) (n : ℕ) (s : ℕ → ℤ) :
    tailValue base n s 0 = ∑ j ∈ Finset.range n, s j * base ^ j := by
  rw [tailValue, Finset.range_eq_Ico]

theorem tailValue_self (base : ℤ) (n : ℕ) (s : ℕ → ℤ) : tailValue base n s n = 0 := by
  rw [tailValue, Finset.Ico_self, Finset.sum_empty]

theorem tailValue_eq_add (hi : i < n) :
    tailValue base n s i = s i * base ^ i + tailValue base n s (i + 1) :=
  Finset.sum_eq_sum_Ico_succ_bot hi _

theorem tailValue_congr (h : ∀ j, i ≤ j → j < n → s j = t j) :
    tailValue base n s i = tailValue base n t i := by
  refine Finset.sum_congr rfl fun j hj => ?_
  obtain ⟨hij, hjn⟩ := Finset.mem_Ico.1 hj
  rw [h j hij hjn]

/-- Digits that are zero can be skipped. -/
theorem tailValue_skip (hik : i ≤ k) (hkn : k ≤ n) (h : ∀ j, i ≤ j → j < k → s j = 0) :
    tailValue base n s i = tailValue base n s k := by
  rw [tailValue, ← Finset.sum_Ico_consecutive _ hik hkn, Finset.sum_eq_zero, zero_add, tailValue]
  intro j hj
  obtain ⟨hij, hjk⟩ := Finset.mem_Ico.1 hj
  rw [h j hij hjk, zero_mul]

/-- Digits below that stay as they are do not change whether the values agree. -/
theorem tailValue_zero_congr (hi : i ≤ n) (h : ∀ j < i, t j = s j)
    (htail : tailValue base n t i = tailValue base n s i) :
    tailValue base n t 0 = tailValue base n s 0 := by
  rw [tailValue, tailValue, ← Finset.sum_Ico_consecutive _ (Nat.zero_le i) hi,
    ← Finset.sum_Ico_consecutive _ (Nat.zero_le i) hi]
  refine congrArg₂ (· + ·) (Finset.sum_congr rfl fun j hj => ?_) htail
  rw [h j (Finset.mem_Ico.1 hj).2]

theorem tailValue_update_of_lt (hk : k < i) (x : ℤ) :
    tailValue base n (Function.update s k x) i = tailValue base n s i :=
  tailValue_congr fun _ hj _ => Function.update_of_ne (hk.trans_le hj).ne' _ _

theorem tailValue_update (hik : i ≤ k) (hkn : k < n) (x : ℤ) :
    tailValue base n (Function.update s k x) i =
      tailValue base n s i + (x - s k) * base ^ k := by
  have hmem : k ∈ Finset.Ico i n := Finset.mem_Ico.2 ⟨hik, hkn⟩
  have hrest : ∀ j ∈ (Finset.Ico i n).erase k,
      Function.update s k x j * base ^ j = s j * base ^ j := fun j hj => by
    rw [Function.update_of_ne (Finset.ne_of_mem_erase hj)]
  rw [tailValue, tailValue, ← Finset.add_sum_erase _ _ hmem, ← Finset.add_sum_erase _ _ hmem,
    Finset.sum_congr rfl hrest, Function.update_self]
  ring

/-- The even and the odd positions. -/
theorem sum_range_two_mul (f : ℕ → ℤ) (n : ℕ) :
    ∑ j ∈ Finset.range (2 * n), f j =
      ∑ k ∈ Finset.range n, f (2 * k) + ∑ k ∈ Finset.range n, f (2 * k + 1) := by
  induction n with
  | zero => rfl
  | succ n ih =>
      rw [Nat.mul_succ, Finset.sum_range_succ, Finset.sum_range_succ, ih, Finset.sum_range_succ,
        Finset.sum_range_succ]
      ring

theorem pow_dvd_tailValue (base : ℤ) (n : ℕ) (s : ℕ → ℤ) (i : ℕ) :
    base ^ i ∣ tailValue base n s i :=
  Finset.dvd_sum fun _ hj => Dvd.dvd.mul_left (pow_dvd_pow base (Finset.mem_Ico.1 hj).1) _

end Foundation
