import Mathlib.Algebra.BigOperators.Group.Finset.Basic
import Mathlib.Algebra.BigOperators.Group.Finset.Sigma
import Mathlib.Tactic.IntervalCases
import MeshCosi.Cosi.Cosigners

/-!
# The mask and the cached aggregate

Every mask operation is a sequence of `assign` steps, one bit each.  A step
changes exactly its own bit and moves the cached aggregate by the key of that
bit, so the aggregate stays the sum of the enabled keys (`Consistent`).
-/

namespace MeshCosi.Cosi

open Foundation

/-! ## Single bits -/

private theorem maskBitOf_toBitVec (i : ℕ) :
    (maskBitOf i).toBitVec = BitVec.twoPow 8 (i % 8) := by
  have hi : i % 8 < 8 := Nat.mod_lt i (by norm_num)
  unfold maskBitOf
  interval_cases i % 8 <;> rfl

/-- Testing a bit of a byte by masking. -/
private theorem and_maskBitOf (b : UInt8) (i : ℕ) :
    (b &&& maskBitOf i != 0) = b.toBitVec.getLsbD (i % 8) := by
  have hi : i % 8 < 8 := Nat.mod_lt i (by norm_num)
  have hand : (b &&& maskBitOf i = 0) ↔ b.toBitVec.getLsbD (i % 8) = false := by
    rw [← UInt8.toBitVec_inj, UInt8.toBitVec_and, maskBitOf_toBitVec, BitVec.and_twoPow]
    cases b.toBitVec.getLsbD (i % 8) with
    | false => simp
    | true =>
        simp only [if_true, Bool.true_eq_false, iff_false]
        interval_cases i % 8 <;> decide
  cases hbit : b.toBitVec.getLsbD (i % 8) with
  | false => simpa using hand.2 hbit
  | true =>
      rw [hbit] at hand
      simpa using hand

theorem isSet_eq (mask : Bytes) (i : ℕ) :
    isSet mask i = (mask.getD (i / 8) 0).toBitVec.getLsbD (i % 8) := and_maskBitOf _ i

private theorem getD_modify (mask : Bytes) (f : UInt8 → UInt8) (k j : ℕ) (hk : k < mask.length) :
    (mask.modify k f).getD j 0 = if j = k then f (mask.getD j 0) else mask.getD j 0 := by
  simp only [List.getD_eq_getElem?_getD, List.getElem?_modify]
  split_ifs with h h' h'
  · subst h
    simp [hk]
  · exact absurd h.symm h'
  · exact absurd h'.symm h
  · simp

/-- Two indices address the same bit when byte and position agree. -/
private theorem eq_of_div_mod {i j : ℕ} (hdiv : j / 8 = i / 8) (hmod : j % 8 = i % 8) : j = i := by
  omega

theorem isSet_disable (mask : Bytes) {i : ℕ} (hi : i / 8 < mask.length) (j : ℕ) :
    isSet (mask.modify (i / 8) (· ||| maskBitOf i)) j = (decide (j = i) || isSet mask j) := by
  rw [isSet_eq, isSet_eq, getD_modify _ _ _ _ hi]
  split_ifs with h
  · rw [UInt8.toBitVec_or, maskBitOf_toBitVec, BitVec.getLsbD_or, BitVec.getLsbD_twoPow]
    by_cases hj : j % 8 = i % 8
    · simp [eq_of_div_mod h hj, Nat.mod_lt]
    · have hne : j ≠ i := fun heq => hj (by rw [heq])
      simp [hne, Ne.symm hj]
  · have hne : j ≠ i := fun heq => h (by rw [heq])
    simp [hne]

theorem isSet_enable (mask : Bytes) {i : ℕ} (hi : i / 8 < mask.length) (j : ℕ) :
    isSet (mask.modify (i / 8) (· &&& ~~~maskBitOf i)) j = (!decide (j = i) && isSet mask j) := by
  rw [isSet_eq, isSet_eq, getD_modify _ _ _ _ hi]
  split_ifs with h
  · rw [UInt8.toBitVec_and, UInt8.toBitVec_not, maskBitOf_toBitVec, BitVec.getLsbD_and,
      BitVec.getLsbD_not, BitVec.getLsbD_twoPow]
    by_cases hj : j % 8 = i % 8
    · simp [eq_of_div_mod h hj, Nat.mod_lt]
    · have hne : j ≠ i := fun heq => hj (by rw [heq])
      simp [hne, Ne.symm hj, Nat.mod_lt]
  · have hne : j ≠ i := fun heq => h (by rw [heq])
    simp [hne]

theorem isSet_replicate_zero (n i : ℕ) : isSet (List.replicate n 0) i = false := by
  rw [isSet_eq]
  by_cases h : i / 8 < n <;> simp [List.getD_eq_getElem?_getD, h]

theorem isSet_of_length_le {mask : Bytes} {i : ℕ} (h : mask.length ≤ i / 8) :
    isSet mask i = false := by
  rw [isSet_eq, List.getD_eq_getElem?_getD, List.getElem?_eq_none h]
  simp

/-! ## The cached aggregate -/

/-- A list summed by index. -/
theorem sum_range_getD {G : Type} [AddCommGroup G] (keys : List G) :
    ∑ i ∈ Finset.range keys.length, keys.getD i 0 = keys.sum := by
  induction keys with
  | nil => simp
  | cons key keys ih =>
      rw [List.length_cons, Finset.sum_range_succ', List.sum_cons, ← ih, add_comm]
      simp

namespace Cosigners

variable {G : Type} [AddCommGroup G]

/-- The indices of the enabled cosigners. -/
def enabledIndices (cos : Cosigners G) : Finset ℕ :=
  (Finset.range cos.keys.length).filter fun i => isSet cos.mask i = false

/-- The sum of the keys of the enabled cosigners. -/
def enabledSum (cos : Cosigners G) : G := ∑ i ∈ cos.enabledIndices, cos.keys.getD i 0

/-- The mask has a bit for every key, and the cached aggregate is the sum of
the enabled keys. -/
structure Consistent (cos : Cosigners G) : Prop where
  mask_length : cos.mask.length = (cos.keys.length + 7) / 8
  aggr_eq : cos.aggr = cos.enabledSum

theorem Consistent.byte_lt {cos : Cosigners G} (h : cos.Consistent) {i : ℕ}
    (hi : i < cos.keys.length) : i / 8 < cos.mask.length := by
  rw [h.mask_length]
  omega

/-- The fields `assign` leaves alone. -/
theorem assign_frame (cos : Cosigners G) (i : ℕ) (key : G) (value : MaskBit) :
    (cos.assign i key value).keys = cos.keys ∧ (cos.assign i key value).policy = cos.policy ∧
      (cos.assign i key value).mask.length = cos.mask.length := by
  unfold assign
  split_ifs <;> simp

/-- Requesting the value a bit has changes nothing. -/
theorem assign_isSet (cos : Cosigners G) (i : ℕ) (key : G) :
    cos.assign i key (isSet cos.mask i) = cos := by
  unfold assign
  cases isSet cos.mask i with
  | true => rw [if_pos rfl, if_neg (by decide)]
  | false => rw [if_neg (by decide), if_neg (by decide)]

/-- `SetMask` with the object's own mask changes nothing. -/
theorem setMask_mask (cos : Cosigners G) : cos.setMask cos.mask = cos := by
  have hrequest : ∀ i, (decide (i / 8 < cos.mask.length) && isSet cos.mask i) =
      isSet cos.mask i := by
    intro i
    by_cases hbyte : i / 8 < cos.mask.length
    · rw [decide_eq_true hbyte, Bool.true_and]
    · rw [isSet_of_length_le (not_lt.1 hbyte), Bool.and_false]
  unfold setMask
  apply List.foldl_fixed'
  intro entry
  rw [hrequest]
  exact cos.assign_isSet entry.2 entry.1

theorem isSet_assign {cos : Cosigners G} {i : ℕ} (hi : i / 8 < cos.mask.length) (key : G)
    (value : MaskBit) (j : ℕ) :
    isSet (cos.assign i key value).mask j = if j = i then value else isSet cos.mask j := by
  unfold assign
  split_ifs with hvalue hbit hj hj hbit hj hj
  · rw [isSet_disable _ hi, hj, hvalue]
    simp
  · rw [isSet_disable _ hi]
    simp [hj]
  · rw [hj, hvalue]
    simpa using hbit
  · rfl
  · rw [isSet_enable _ hi, hj]
    simpa using hvalue
  · rw [isSet_enable _ hi]
    simp [hj]
  · rw [hj]
    simp only [Bool.not_eq_true] at hvalue hbit
    rw [hvalue, hbit]
  · rfl

theorem enabledIndices_assign {cos : Cosigners G} {i : ℕ} (hi : i / 8 < cos.mask.length)
    (hlt : i < cos.keys.length) (key : G) (value : MaskBit) :
    (cos.assign i key value).enabledIndices =
      if value = disabled then cos.enabledIndices.erase i else insert i cos.enabledIndices := by
  ext j
  simp only [enabledIndices, Finset.mem_filter, Finset.mem_range, (assign_frame cos i key value).1,
    isSet_assign hi]
  by_cases hj : j = i
  · subst hj
    cases value <;> simp [hlt]
  · cases value <;> simp [hj]

/-- One step keeps the aggregate equal to the sum of the enabled keys. -/
theorem Consistent.assign {cos : Cosigners G} (h : cos.Consistent) {i : ℕ} {key : G}
    (hkey : cos.keys[i]? = some key) (value : MaskBit) : (cos.assign i key value).Consistent := by
  have hlt : i < cos.keys.length := (List.getElem?_eq_some_iff.1 hkey).1
  have hbyte := h.byte_lt hlt
  have hget : cos.keys.getD i 0 = key := by simp [List.getD_eq_getElem?_getD, hkey]
  obtain ⟨hkeys, -, hlength⟩ := assign_frame cos i key value
  refine ⟨by rw [hlength, hkeys, h.mask_length], ?_⟩
  rw [enabledSum, enabledIndices_assign hbyte hlt, hkeys]
  have hmem : i ∈ cos.enabledIndices ↔ isSet cos.mask i = false := by
    simp [enabledIndices, hlt]
  -- the bit was already as requested, or the key moves across
  cases value with
  | true =>
      rw [if_pos rfl]
      unfold Cosigners.assign
      by_cases hbit : isSet cos.mask i = false
      · rw [if_pos rfl, if_pos hbit, Finset.sum_erase_eq_sub (hmem.2 hbit), hget]
        exact congrArg (· - key) h.aggr_eq
      · rw [if_pos rfl, if_neg hbit, Finset.erase_eq_of_notMem (mt hmem.1 hbit)]
        exact h.aggr_eq
  | false =>
      rw [if_neg (by decide)]
      unfold Cosigners.assign
      by_cases hbit : isSet cos.mask i = true
      · have hnot : i ∉ cos.enabledIndices := by simp [hmem, hbit]
        rw [if_neg (by decide), if_pos hbit, Finset.sum_insert hnot, hget]
        exact (congrArg (· + key) h.aggr_eq).trans (add_comm _ _)
      · have hin : i ∈ cos.enabledIndices := by simpa [hmem] using hbit
        rw [if_neg (by decide), if_neg hbit, Finset.insert_eq_of_mem hin]
        exact h.aggr_eq

/-- A loop of `assign` steps over some of the cosigners. -/
theorem Consistent.foldl_assign (request : ℕ → MaskBit) (entries : List (G × ℕ)) :
    ∀ {cos : Cosigners G}, cos.Consistent →
      (∀ entry ∈ entries, cos.keys[entry.2]? = some entry.1) →
      let result := entries.foldl
        (fun cos entry => cos.assign entry.2 entry.1 (request entry.2)) cos
      result.Consistent ∧ result.keys = cos.keys ∧ result.policy = cos.policy ∧
        ∀ j, isSet result.mask j =
          if j ∈ entries.map Prod.snd then request j else isSet cos.mask j := by
  induction entries with
  | nil =>
      intro cos h _
      simpa using h
  | cons entry entries ih =>
      intro cos h hentries
      have hkey := hentries entry List.mem_cons_self
      have hlt : entry.2 < cos.keys.length := (List.getElem?_eq_some_iff.1 hkey).1
      obtain ⟨hkeys, hpolicy, -⟩ := assign_frame cos entry.2 entry.1 (request entry.2)
      obtain ⟨hcons, hkeys', hpolicy', hbits⟩ := ih (h.assign hkey (request entry.2))
        (fun other hother => by rw [hkeys]; exact hentries other (List.mem_cons_of_mem _ hother))
      refine ⟨hcons, hkeys'.trans hkeys, hpolicy'.trans hpolicy, fun j => ?_⟩
      have hj := hbits j
      rw [isSet_assign (h.byte_lt hlt)] at hj
      rw [List.foldl_cons, hj, List.map_cons]
      by_cases hmem : j ∈ entries.map Prod.snd
      · rw [if_pos hmem, if_pos (List.mem_cons_of_mem _ hmem)]
      · by_cases heq : j = entry.2
        · subst heq
          simp
        · have hnot : j ∉ entry.2 :: entries.map Prod.snd := by
            rw [List.mem_cons, not_or]
            exact ⟨heq, hmem⟩
          rw [if_neg hmem, if_neg heq, if_neg hnot]

/-- `SetMask` copies the bits of the cosigners and leaves the padding alone. -/
theorem Consistent.setMask {cos : Cosigners G} (h : cos.Consistent) (mask : Bytes) :
    (cos.setMask mask).Consistent ∧ (cos.setMask mask).keys = cos.keys ∧
      (cos.setMask mask).policy = cos.policy ∧
      ∀ i, isSet (cos.setMask mask).mask i =
        if i < cos.keys.length then isSet mask i else isSet cos.mask i := by
  have hentries : ∀ entry ∈ cos.keys.zipIdx, cos.keys[entry.2]? = some entry.1 :=
    fun entry hentry => List.mk_mem_zipIdx_iff_getElem?.1 hentry
  -- a cosigner beyond the end of the given mask is enabled
  obtain ⟨hcons, hkeys, hpolicy, hbits⟩ := Consistent.foldl_assign
    (fun i => decide (i / 8 < mask.length) && isSet mask i) cos.keys.zipIdx h hentries
  refine ⟨hcons, hkeys, hpolicy, fun i => (hbits i).trans ?_⟩
  have hindices : i ∈ cos.keys.zipIdx.map Prod.snd ↔ i < cos.keys.length := by
    simp [List.zipIdx_map_snd]
  simp only [hindices]
  by_cases hbyte : i / 8 < mask.length
  · simp [hbyte]
  · simp [hbyte, isSet_of_length_le (not_lt.1 hbyte)]

theorem Consistent.setPolicy {cos : Cosigners G} (h : cos.Consistent) (policy : Option Policy) :
    (cos.setPolicy policy).Consistent ∧ (cos.setPolicy policy).keys = cos.keys := by
  cases policy <;> exact ⟨⟨h.mask_length, h.aggr_eq⟩, rfl⟩

/-- With everybody enabled the aggregate is the sum of all keys. -/
theorem Consistent.aggr_eq_sum {cos : Cosigners G} (h : cos.Consistent)
    (hall : ∀ i < cos.keys.length, isSet cos.mask i = false) : cos.aggr = cos.keys.sum := by
  have hindices : cos.enabledIndices = Finset.range cos.keys.length := by
    apply Finset.filter_true_of_mem
    intro i hi
    exact hall i (Finset.mem_range.1 hi)
  calc cos.aggr = ∑ i ∈ cos.enabledIndices, cos.keys.getD i 0 := h.aggr_eq
    _ = ∑ i ∈ Finset.range cos.keys.length, cos.keys.getD i 0 := by rw [hindices]
    _ = cos.keys.sum := sum_range_getD cos.keys

omit [AddCommGroup G] in
theorem countEnabled_eq_card (cos : Cosigners G) :
    cos.countEnabled = cos.enabledIndices.card := by
  rw [countEnabled, List.countP_eq_length_filter]
  rfl

omit [AddCommGroup G] in
theorem countEnabled_eq_length {cos : Cosigners G}
    (hall : ∀ i < cos.keys.length, isSet cos.mask i = false) :
    cos.countEnabled = cos.keys.length := by
  have hcount : cos.countEnabled = (List.range cos.keys.length).length := by
    rw [countEnabled, List.countP_eq_length]
    intro i hi
    simpa using hall i (List.mem_range.1 hi)
  rw [hcount, List.length_range]

end Cosigners

end MeshCosi.Cosi
