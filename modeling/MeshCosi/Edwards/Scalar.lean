import MeshCosi.Edwards25519
import MeshCosi.Foundation.Digits
import MeshCosi.Foundation.Packing

/-!
# Scalars modulo the order of the base point

`ScReduce` and `ScMulAdd` work on limbs of 21 bits in signed 64-bit words.  High
limbs are folded down with the digits of `2^252 - l`, and rounds of carries keep
the limbs small.  Both functions are proved equal to the arithmetic modulo `l` that
their comments promise, for all bytes.  The argument has four parts.

* The limbs that are read are the digits of the number in base `2^21`, the last one
  with all that is left (`wideLimbs_eq`, `scalarLimbs_eq`).
* The statements are run on ranges instead of numbers.  From the largest digits
  (`wideRanges`) and from the largest products (`productRanges`) every limb stays
  within 64 bits, so the words compute what the integers do.
* Every statement is balanced modulo `l`, so the value keeps its remainder.  It does
  not follow that the result is the remainder: before the last part the value may be
  off by a multiple of `l`.  The ranges say that limb 12 is then 0 or -1, and that
  the limbs below it are digits.  The last fold takes away limb 12 times `l`, which
  leaves a number from 0 to `l - 1` (`limbValue_lastSteps`).
* The limbs that are left are digits again.  Limb 11 could be -1 by its range, but not
  by the value (`digits_of_within_finalRanges`), and digits are written as the
  number they make up (`scBytes_toLimbs`).
-/

namespace MeshCosi.Edwards25519

open Foundation

/-! ## Reading limbs -/

/-- `load3`. -/
def load3 (bytes : Bytes) : BitVec 64 :=
  let r := (bytes.getD 0 0).toBitVec.setWidth 64
  let r := r ||| (bytes.getD 1 0).toBitVec.setWidth 64 <<< 8
  r ||| (bytes.getD 2 0).toBitVec.setWidth 64 <<< 16

/-- `load4`. -/
def load4 (bytes : Bytes) : BitVec 64 :=
  let r := (bytes.getD 0 0).toBitVec.setWidth 64
  let r := r ||| (bytes.getD 1 0).toBitVec.setWidth 64 <<< 8
  let r := r ||| (bytes.getD 2 0).toBitVec.setWidth 64 <<< 16
  r ||| (bytes.getD 3 0).toBitVec.setWidth 64 <<< 24

/-- `2097151 & (x >> bits)`. -/
def limb21 (x : BitVec 64) (bits : ℕ) : BitVec 64 := 2097151 &&& x.sshiftRight bits

/-- The limbs of the arguments of `ScMulAdd`. -/
def scalarLimbs (a : Bytes) : Limbs 64 12 :=
  ⟨[limb21 (load3 a) 0, limb21 (load4 (a.drop 2)) 5, limb21 (load3 (a.drop 5)) 2,
    limb21 (load4 (a.drop 7)) 7, limb21 (load4 (a.drop 10)) 4, limb21 (load3 (a.drop 13)) 1,
    limb21 (load4 (a.drop 15)) 6, limb21 (load3 (a.drop 18)) 3, limb21 (load3 (a.drop 21)) 0,
    limb21 (load4 (a.drop 23)) 5, limb21 (load3 (a.drop 26)) 2,
    (load4 (a.drop 28)).sshiftRight 7], rfl⟩

/-- The limbs of the argument of `ScReduce`. -/
def wideLimbs (s : Bytes) : Limbs 64 24 :=
  ⟨[limb21 (load3 s) 0, limb21 (load4 (s.drop 2)) 5, limb21 (load3 (s.drop 5)) 2,
    limb21 (load4 (s.drop 7)) 7, limb21 (load4 (s.drop 10)) 4, limb21 (load3 (s.drop 13)) 1,
    limb21 (load4 (s.drop 15)) 6, limb21 (load3 (s.drop 18)) 3, limb21 (load3 (s.drop 21)) 0,
    limb21 (load4 (s.drop 23)) 5, limb21 (load3 (s.drop 26)) 2, limb21 (load4 (s.drop 28)) 7,
    limb21 (load4 (s.drop 31)) 4, limb21 (load3 (s.drop 34)) 1, limb21 (load4 (s.drop 36)) 6,
    limb21 (load3 (s.drop 39)) 3, limb21 (load3 (s.drop 42)) 0, limb21 (load4 (s.drop 44)) 5,
    limb21 (load3 (s.drop 47)) 2, limb21 (load4 (s.drop 49)) 7, limb21 (load4 (s.drop 52)) 4,
    limb21 (load3 (s.drop 55)) 1, limb21 (load4 (s.drop 57)) 6,
    (load4 (s.drop 60)).sshiftRight 3], rfl⟩

/-! ## Reduction -/

/-- `carry[i] = (s[i] + (1 << 20)) >> 21; s[i+1] += carry[i]; s[i] -= carry[i] << 21`. -/
def carry (i : Fin 24) : LimbStep 24 := .carry i 21 (2 ^ 20) (i + 1) 1

/-- `carry[i] = s[i] >> 21; s[i+1] += carry[i]; s[i] -= carry[i] << 21`. -/
def floorCarry (i : Fin 24) : LimbStep 24 := .carry i 21 0 (i + 1) 1

/-- `s[i-12] += s[i] * 666643; ...; s[i] = 0`: the digits of `2^252 - l`. -/
def fold (i : Fin 24) : LimbStep 24 :=
  .fold i [(i - 12, 666643), (i - 11, 470296), (i - 10, 654183), (i - 9, -997805),
    (i - 8, 136657), (i - 7, -683901)]

/-- The carries of `ScMulAdd` after its products. -/
def productSteps : List (LimbStep 24) :=
  [0, 2, 4, 6, 8, 10, 12, 14, 16, 18, 20, 22].map carry ++
    [1, 3, 5, 7, 9, 11, 13, 15, 17, 19, 21].map carry

/-- The statements of `ScReduce` up to the first complete round of carries. -/
def reduceSteps : List (LimbStep 24) :=
  [23, 22, 21, 20, 19, 18].map fold ++
    [6, 8, 10, 12, 14, 16].map carry ++ [7, 9, 11, 13, 15].map carry ++
    [17, 16, 15, 14, 13, 12].map fold ++
    [0, 2, 4, 6, 8, 10].map carry ++ [1, 3, 5, 7, 9, 11].map carry ++
    [fold 12] ++ [0, 1, 2, 3, 4, 5, 6, 7, 8, 9, 10, 11].map floorCarry

/-- The last carries. -/
def lastCarries : List (LimbStep 24) := [0, 1, 2, 3, 4, 5, 6, 7, 8, 9, 10].map floorCarry

/-- The last fold and the last carries. -/
def lastSteps : List (LimbStep 24) := fold 12 :: lastCarries

/-- The bytes of the result. -/
def scBytes (s : Limbs 64 24) : Block 32 :=
  ⟨[toByte ((s.get 0).sshiftRight 0),
    toByte ((s.get 0).sshiftRight 8),
    toByte ((s.get 0).sshiftRight 16 ||| s.get 1 <<< 5),
    toByte ((s.get 1).sshiftRight 3),
    toByte ((s.get 1).sshiftRight 11),
    toByte ((s.get 1).sshiftRight 19 ||| s.get 2 <<< 2),
    toByte ((s.get 2).sshiftRight 6),
    toByte ((s.get 2).sshiftRight 14 ||| s.get 3 <<< 7),
    toByte ((s.get 3).sshiftRight 1),
    toByte ((s.get 3).sshiftRight 9),
    toByte ((s.get 3).sshiftRight 17 ||| s.get 4 <<< 4),
    toByte ((s.get 4).sshiftRight 4),
    toByte ((s.get 4).sshiftRight 12),
    toByte ((s.get 4).sshiftRight 20 ||| s.get 5 <<< 1),
    toByte ((s.get 5).sshiftRight 7),
    toByte ((s.get 5).sshiftRight 15 ||| s.get 6 <<< 6),
    toByte ((s.get 6).sshiftRight 2),
    toByte ((s.get 6).sshiftRight 10),
    toByte ((s.get 6).sshiftRight 18 ||| s.get 7 <<< 3),
    toByte ((s.get 7).sshiftRight 5),
    toByte ((s.get 7).sshiftRight 13),
    toByte ((s.get 8).sshiftRight 0),
    toByte ((s.get 8).sshiftRight 8),
    toByte ((s.get 8).sshiftRight 16 ||| s.get 9 <<< 5),
    toByte ((s.get 9).sshiftRight 3),
    toByte ((s.get 9).sshiftRight 11),
    toByte ((s.get 9).sshiftRight 19 ||| s.get 10 <<< 2),
    toByte ((s.get 10).sshiftRight 6),
    toByte ((s.get 10).sshiftRight 14 ||| s.get 11 <<< 7),
    toByte ((s.get 11).sshiftRight 1),
    toByte ((s.get 11).sshiftRight 9),
    toByte ((s.get 11).sshiftRight 17)], rfl⟩

/-- `ScReduce`. -/
def scReduce (s : Block 64) : Block 32 :=
  scBytes (runAll lastSteps (runAll reduceSteps (wideLimbs s.toList)))

/-- `s[k] = c[k] + a[0] * b[k] + ... + a[k] * b[0]`, where the arguments have
twelve limbs and the others are zero. -/
def mulAddLimb (a b c : Limbs 64 12) (k : ℕ) : BitVec 64 :=
  (List.range (k + 1)).foldl (fun s i => s + a.toList.getD i 0 * b.toList.getD (k - i) 0)
    (c.toList.getD k 0)

/-- `ScMulAdd`. -/
def scMulAdd (a b c : Block 32) : Block 32 :=
  let s : Limbs 64 24 := List.Vector.ofFn fun k =>
    mulAddLimb (scalarLimbs a.toList) (scalarLimbs b.toList) (scalarLimbs c.toList) k
  scBytes (runAll lastSteps (runAll (productSteps ++ reduceSteps) s))

/-! ## The limbs that are read -/

theorem load3_eq (bytes : Bytes) : load3 bytes = BitVec.ofNat 64 (leNat bytes % 2 ^ 24) := by
  have hsecond := load_next 64 bytes 1
  have hthird := load_next 64 bytes 2
  rw [load3, load_first]
  exact (congrArg (· ||| _) hsecond).trans hthird

theorem load4_eq (bytes : Bytes) : load4 bytes = BitVec.ofNat 64 (leNat bytes % 2 ^ 32) := by
  have hfourth := load_next 64 bytes 3
  rw [← hfourth, ← load3_eq]
  rfl

/-- The mask takes the low 21 bits. -/
theorem limb21_eq {v k bits : ℕ} (h : bits + 21 ≤ k) (hk : k ≤ 32) :
    limb21 (BitVec.ofNat 64 (v % 2 ^ k)) bits = BitVec.ofNat 64 (v / 2 ^ bits % 2 ^ 21) := by
  have hlt : v % 2 ^ k < 2 ^ k := Nat.mod_lt _ (by positivity)
  have hle : (2 : ℕ) ^ k ≤ 2 ^ 32 := Nat.pow_le_pow_right two_pos hk
  have hmod : v % 2 ^ k / 2 ^ bits % 2 ^ 21 = v / 2 ^ bits % 2 ^ 21 := by
    obtain ⟨j, rfl⟩ := Nat.exists_eq_add_of_le h
    rw [add_assoc, pow_add, Nat.mod_mul_right_div_self, pow_add, Nat.mod_mul_right_mod]
  rw [limb21, ofNat_sshiftRight (by omega), ← hmod, BitVec.and_comm]
  exact ofNat_and_mask 64 _ 21

theorem limb21_load3 (bytes : Bytes) (offset : ℕ) {bits : ℕ} (h : bits ≤ 3) :
    limb21 (load3 (bytes.drop offset)) bits =
      BitVec.ofNat 64 (leNat bytes / 2 ^ (8 * offset + bits) % 2 ^ 21) := by
  rw [load3_eq, limb21_eq (by omega) (by norm_num), leNat_drop_div]

theorem limb21_load4 (bytes : Bytes) (offset : ℕ) {bits : ℕ} (h : bits ≤ 11) :
    limb21 (load4 (bytes.drop offset)) bits =
      BitVec.ofNat 64 (leNat bytes / 2 ^ (8 * offset + bits) % 2 ^ 21) := by
  rw [load4_eq, limb21_eq (by omega) (by norm_num), leNat_drop_div]

/-- The last limb takes what is left. -/
theorem last_limb (bytes : Bytes) (offset bits : ℕ) (h : bytes.length = offset + 4) :
    (load4 (bytes.drop offset)).sshiftRight bits =
      BitVec.ofNat 64 (leNat bytes / 2 ^ (8 * offset + bits)) := by
  have hlt : leNat (bytes.drop offset) < 2 ^ 32 := by
    have hdrop := leNat_lt (bytes.drop offset)
    rw [List.length_drop, h, Nat.add_sub_cancel_left] at hdrop
    exact hdrop
  rw [load4_eq, Nat.mod_eq_of_lt hlt, ofNat_sshiftRight (by omega), leNat_drop_div]

/-- Digit `i` of a number in `n` limbs of 21 bits; the last one holds the rest. -/
def digit (n v i : ℕ) : ℕ :=
  if i + 1 < n then v / 2 ^ (21 * i) % 2 ^ 21 else v / 2 ^ (21 * i)

theorem limb21_load3_zero (bytes : Bytes) :
    limb21 (load3 bytes) 0 = BitVec.ofNat 64 (leNat bytes / 2 ^ (8 * 0 + 0) % 2 ^ 21) :=
  limb21_load3 bytes 0 (Nat.zero_le 3)

theorem scalarLimbs_eq (a : Block 32) :
    scalarLimbs a.toList = toLimbs 64 fun i => (digit 12 a.toNat i : ℤ) := by
  refine eq_toLimbs (x := fun i => (digit 12 a.toNat i : ℤ)) ?_
  simp only [BitVec.ofInt_natCast]
  rw [scalarLimbs, List.Vector.toList_mk, last_limb a.toList 28 7 a.toList_length,
    limb21_load3_zero]
  simp [limb21_load3, limb21_load4, List.range_succ, digit, Block.toNat, -Nat.reducePow]

theorem wideLimbs_eq (s : Block 64) :
    wideLimbs s.toList = toLimbs 64 fun i => (digit 24 s.toNat i : ℤ) := by
  refine eq_toLimbs (x := fun i => (digit 24 s.toNat i : ℤ)) ?_
  simp only [BitVec.ofInt_natCast]
  rw [wideLimbs, List.Vector.toList_mk, last_limb s.toList 60 3 s.toList_length,
    limb21_load3_zero]
  simp [limb21_load3, limb21_load4, List.range_succ, digit, Block.toNat, -Nat.reducePow]

/-! ## What the reduction leaves -/

/-- The weight of limb `i`. -/
def weight (i : ℕ) : ℤ := 2 ^ (21 * i)

theorem weight_succ (i : ℕ) : weight (i + 1) = weight i * 2 ^ 21 := by
  rw [weight, weight, ← pow_add, Nat.mul_succ]

theorem weight_pos (i : ℕ) : 0 < weight i := by
  rw [weight]
  positivity

/-- A digit of 21 bits. -/
def digitRange : Range 64 := ⟨0, 2 ^ 21 - 1, by decide⟩

/-- A limb that is not in use. -/
def zeroRange : Range 64 := ⟨0, 0, by decide⟩

/-- The ranges of `n` digits and a limb above them. -/
def digitRanges (n : ℕ) (top : Range 64) : List.Vector (Range 64) 24 :=
  List.Vector.ofFn fun i =>
    if i.val < n then digitRange else if i.val = n then top else zeroRange

/-- After the first complete round of carries. -/
def reducedRanges : List.Vector (Range 64) 24 := digitRanges 12 ⟨-1, 0, by decide⟩

/-- After the last carries.  That limb 11 is not negative does not follow from the
ranges, but from the value. -/
def finalRanges : List.Vector (Range 64) 24 := digitRanges 11 ⟨-1, 2 ^ 21, by decide⟩

theorem within_digitRanges {n : ℕ} {top : Range 64} {s : Fin 24 → ℤ}
    (h : Within (digitRanges n top) s) (hn : n < 24) :
    (∀ i < n, 0 ≤ limbAt s i ∧ limbAt s i ≤ 2 ^ 21 - 1) ∧ top.Has (limbAt s n) ∧
      limbValue weight s = ∑ i ∈ Finset.range (n + 1), limbAt s i * weight i := by
  have hrange : ∀ i < 24, Range.Has
      (if i < n then digitRange else if i = n then top else zeroRange) (limbAt s i) :=
    forall_limbAt fun i => by
      have hi := h i
      rwa [digitRanges, List.Vector.get_ofFn] at hi
  refine ⟨fun i hi => ?_, ?_, ?_⟩
  · have hi' := hrange i (by omega)
    rwa [if_pos hi] at hi'
  · have hn' := hrange n hn
    rwa [if_neg (lt_irrefl n), if_pos rfl] at hn'
  · rw [limbValue_eq_sum_range]
    refine (Finset.sum_subset (Finset.range_subset_range.2 hn) fun i hi hlow => ?_).symm
    rw [Finset.mem_range] at hi hlow
    have hi' := hrange i hi
    rw [if_neg (by omega), if_neg (by omega)] at hi'
    have hzero : limbAt s i = 0 := le_antisymm hi'.2 hi'.1
    rw [hzero, zero_mul]

theorem rangeAll_lastSteps : rangeAll lastSteps reducedRanges = some finalRanges := by
  decide

theorem balanced_reduceSteps : ∀ step ∈ reduceSteps, step.Balanced l weight := by
  decide

theorem balanced_productSteps : ∀ step ∈ productSteps, step.Balanced l weight := by
  decide

/-- Without its fold the last part keeps the value, not only its remainder. -/
theorem balanced_lastCarries : ∀ step ∈ lastCarries, step.Balanced 0 weight := by
  decide

theorem exact_fold_twelve_value (t : Fin 24 → ℤ) :
    limbValue weight ((fold 12).exact t) = limbValue weight t - t 12 * l := by
  have hterms : ([(12 - 12, 666643), (12 - 11, 470296), (12 - 10, 654183), (12 - 9, -997805),
      (12 - 8, 136657), (12 - 7, -683901)].map fun term : Fin 24 × ℤ =>
        term.2 * weight term.1).sum - weight (12 : Fin 24) = -l := by
    decide
  rw [fold, exact_fold_value weight t (by decide), hterms]
  ring

/-- The last steps take away the multiple of `l` that is left. -/
theorem limbValue_lastSteps {t : Fin 24 → ℤ} (h : Within reducedRanges t) :
    limbValue weight (exactAll lastSteps t) = limbValue weight t - t 12 * l ∧
      0 ≤ limbValue weight (exactAll lastSteps t) ∧
      limbValue weight (exactAll lastSteps t) < l := by
  have hvalue : limbValue weight (exactAll lastSteps t) = limbValue weight t - t 12 * l := by
    rw [← exact_fold_twelve_value, lastSteps, exactAll_cons]
    exact Int.modEq_zero_iff.1 (exactAll_value balanced_lastCarries _)
  obtain ⟨hlow, htop, hsplit⟩ := within_digitRanges h (by norm_num)
  have htop : -1 ≤ t 12 ∧ t 12 ≤ 0 := htop
  obtain ⟨hnonneg, hlt⟩ := sum_digits_bounds rfl weight_succ weight_pos hlow
  have hl : (l : ℤ) = 2 ^ 252 + 27742317777372353535851937790883648493 := by norm_num [l]
  rw [Finset.sum_range_succ, show limbAt t 12 = t 12 from rfl] at hsplit
  rw [show weight 12 = 2 ^ 252 from rfl] at hlt hsplit
  have hcases : t 12 = -1 ∨ t 12 = 0 := by omega
  refine ⟨hvalue, ?_⟩
  rw [hvalue, hsplit, hl]
  generalize ∑ i ∈ Finset.range 12, limbAt t i * weight i = r at hnonneg hlt
  -- a value below zero has -1 in limb 12, and then `l` is added
  rcases hcases with hone | hnone
  · rw [hone]
    constructor <;> linarith
  · rw [hnone]
    constructor <;> linarith

/-- The limbs that the last steps leave are digits. -/
theorem digits_of_within_finalRanges {u : Fin 24 → ℤ} (h : Within finalRanges u)
    (hvalue : 0 ≤ limbValue weight u) :
    (∀ i < 12, 0 ≤ limbAt u i) ∧ (∀ i < 11, limbAt u i < 2 ^ 21) ∧
      limbValue weight u = ∑ i ∈ Finset.range 12, limbAt u i * weight i := by
  obtain ⟨hlow, -, hsplit⟩ := within_digitRanges h (by norm_num)
  have htop : 0 ≤ limbAt u 11 := by
    obtain ⟨-, hsum⟩ := sum_digits_bounds rfl weight_succ weight_pos hlow
    rw [hsplit, Finset.sum_range_succ] at hvalue
    -- a negative top limb would outweigh all digits below it
    by_contra hneg
    have hle : limbAt u 11 * weight 11 ≤ -1 * weight 11 :=
      mul_le_mul_of_nonneg_right (by omega) (weight_pos 11).le
    linarith
  refine ⟨fun i hi => ?_, fun i hi => Int.lt_of_le_sub_one (hlow i hi).2, hsplit⟩
  rcases Nat.lt_succ_iff_lt_or_eq.1 hi with hi | rfl
  · exact (hlow i hi).1
  · exact htop

/-- The bytes of the limbs that the last steps leave. -/
theorem scBytes_toLimbs {u : Fin 24 → ℤ} (h : Within finalRanges u) {v : ℕ}
    (hv : limbValue weight u = v) : scBytes (toLimbs 64 u) = Block.ofNat 32 v := by
  obtain ⟨hnonneg, hlt, hsplit⟩ := digits_of_within_finalRanges h (hv ▸ Int.natCast_nonneg v)
  have hsum : ∑ i ∈ Finset.range 12,
      limbAt u i * 2 ^ ((List.replicate 12 21).take i).sum = (v : ℤ) := by
    rw [← hv, hsplit]
    refine Finset.sum_congr rfl fun i hi => ?_
    rw [List.take_replicate, List.sum_replicate, min_eq_left (Finset.mem_range.1 hi).le,
      smul_eq_mul, Nat.mul_comm, weight]
  -- nothing is written above limb 11, so it need not stay below `2^21`
  have hbytes := map_toByte_storeByte (w := 64) (by norm_num) (List.replicate 12 21)
    (limbAt u) (by simp) hnonneg
    (fun i hi => ?_) (fun i hi => ?_) hsum 32
  · simp only [limbAt, ← get_toLimbs] at hbytes
    exact Subtype.ext hbytes
  · rw [List.length_replicate] at hi
    have hwidth : (List.replicate 12 21).getD i 0 = 21 := by
      rw [List.getD_eq_getElem?_getD, List.getElem?_replicate, if_pos (by omega),
        Option.getD_some]
    rw [hwidth]
    exact hlt i (Nat.lt_of_succ_lt_succ hi)
  · obtain rfl : i = 11 := Nat.succ.inj hi
    have hle : u 11 ≤ 2 ^ 21 := (h 11).2
    rw [show limbAt u 11 = u 11 from rfl]
    linarith

/-- A program that ends in the reduction computes the remainder. -/
theorem scBytes_runAll {steps : List (LimbStep 24)} {ranges : List.Vector (Range 64) 24}
    (hranges : rangeAll steps ranges = some reducedRanges)
    (hsteps : ∀ step ∈ steps, step.Balanced l weight) {s : Fin 24 → ℤ} (hs : Within ranges s)
    {v : ℕ} (hv : limbValue weight s = v) :
    scBytes (runAll lastSteps (runAll steps (toLimbs 64 s))) = Block.ofNat 32 (v % l) := by
  obtain ⟨hrun, hwithin⟩ := rangeAll_sound hranges hs
  obtain ⟨hlast, hfinal⟩ := rangeAll_sound rangeAll_lastSteps hwithin
  obtain ⟨hvalue, hnonneg, hlt⟩ := limbValue_lastSteps hwithin
  have hmod : limbValue weight (exactAll steps s) ≡ v [ZMOD l] := hv ▸ exactAll_value hsteps s
  -- what the last fold takes away is a multiple of `l`
  have hresult : limbValue weight (exactAll lastSteps (exactAll steps s)) = (v % l : ℕ) := by
    rw [← Int.emod_eq_of_lt hnonneg hlt, hvalue, Int.sub_mul_emod_self_right, hmod]
    rfl
  rw [hrun, hlast]
  exact scBytes_toLimbs hfinal hresult

/-! ## The two functions -/

theorem sum_digit (n v : ℕ) :
    ∑ i ∈ Finset.range (n + 1), digit (n + 1) v i * (2 ^ 21) ^ i = v := by
  have hdigit : ∀ i ∈ Finset.range n, digit (n + 1) v i * (2 ^ 21) ^ i =
      v / (2 ^ 21) ^ i % 2 ^ 21 * (2 ^ 21) ^ i := fun i hi => by
    rw [digit, if_pos (Nat.succ_lt_succ (Finset.mem_range.1 hi)), pow_mul]
  rw [Finset.sum_range_succ, Finset.sum_congr rfl hdigit, digit, if_neg (lt_irrefl _), pow_mul]
  exact sum_digits (2 ^ 21) v n

/-- The largest digits of a number below `2 ^ bits`. -/
def maxDigit (n bits i : ℕ) : ℕ :=
  if i + 1 < n then 2 ^ 21 - 1 else 2 ^ (bits - 21 * i) - 1

theorem digit_le_maxDigit {m : ℕ} (block : Block m) {n i : ℕ} (hi : i < n)
    (hn : 21 * n ≤ 8 * m + 21) :
    digit n block.toNat i ≤ maxDigit n (8 * m) i := by
  have hlt : block.toNat < 2 ^ (8 * m) := by
    have h := leNat_lt block.toList
    rw [block.toList_length] at h
    rwa [pow_mul]
  unfold digit maxDigit
  split_ifs
  · exact Nat.le_sub_one_of_lt (Nat.mod_lt _ (by positivity))
  · refine Nat.le_sub_one_of_lt (Nat.div_lt_of_lt_mul ?_)
    rwa [← pow_add, Nat.add_sub_cancel' (by omega)]

/-- The number of limbs that are given by natural numbers. -/
theorem limbValue_weight (x : ℕ → ℕ) (n : ℕ) :
    limbValue weight (fun i : Fin n => (x i : ℤ)) =
      (∑ i ∈ Finset.range n, x i * (2 ^ 21) ^ i : ℕ) := by
  rw [limbValue_coe weight (fun i => (x i : ℤ)), Nat.cast_sum]
  refine Finset.sum_congr rfl fun i _ => ?_
  rw [weight, pow_mul]
  norm_cast

theorem fits_maxDigit : ∀ i : Fin 24, Fits 64 0 ∧ Fits 64 (maxDigit 24 (8 * 64) i) := by
  decide

/-- The ranges of the limbs of 64 bytes. -/
def wideRanges : List.Vector (Range 64) 24 :=
  List.Vector.ofFn fun i => ⟨0, maxDigit 24 (8 * 64) i, fits_maxDigit i⟩

theorem rangeAll_wideRanges : rangeAll reduceSteps wideRanges = some reducedRanges := by
  decide +kernel

theorem within_wideRanges (s : Block 64) :
    Within wideRanges fun i => (digit 24 s.toNat i : ℤ) := fun i => by
  rw [wideRanges, List.Vector.get_ofFn]
  exact ⟨Int.natCast_nonneg _, Int.ofNat_le.2 (digit_le_maxDigit s i.isLt (by norm_num))⟩

/-- The limb arithmetic computes the remainder of every 64-byte number. -/
theorem scReduce_eq_remainder (s : Block 64) : scReduce s = MeshCosi.scReduce s := by
  have hvalue := limbValue_weight (digit 24 s.toNat) 24
  rw [sum_digit 23] at hvalue
  rw [scReduce, wideLimbs_eq]
  exact scBytes_runAll rangeAll_wideRanges balanced_reduceSteps (within_wideRanges s) hvalue

/-- The first twelve limbs are the digits of the number, and the others are zero. -/
def scalarDigit (v i : ℕ) : ℕ := if i < 12 then digit 12 v i else 0

theorem getD_scalarLimbs (a : Block 32) (i : ℕ) :
    (scalarLimbs a.toList).toList.getD i 0 = BitVec.ofNat 64 (scalarDigit a.toNat i) := by
  rw [scalarDigit]
  split_ifs with hi
  · have hholds : Holds (scalarLimbs a.toList) fun i => (digit 12 a.toNat i : ℤ) :=
      scalarLimbs_eq a
    rw [hholds.getD hi, BitVec.ofInt_natCast]
  · rw [List.getD_eq_getElem?_getD, List.getElem?_eq_none (by simpa using hi)]
    rfl

theorem sum_scalarDigit {n : ℕ} (hn : 12 ≤ n) (v : ℕ) :
    ∑ i ∈ Finset.range n, scalarDigit v i * (2 ^ 21) ^ i = v := by
  rw [← Finset.sum_subset (Finset.range_subset_range.2 hn)]
  · refine (Finset.sum_congr rfl fun i hi => ?_).trans (sum_digit 11 v)
    rw [scalarDigit, if_pos (Finset.mem_range.1 hi)]
  · intro i _ hi
    rw [scalarDigit, if_neg (by simpa using hi), zero_mul]

/-- Limb `k` of the product with the addend, before any carry. -/
def productDigit (a b c : ℕ → ℕ) (k : ℕ) : ℕ := c k + column a b k

theorem mulAddLimb_eq (a b c : Block 32) (k : ℕ) :
    mulAddLimb (scalarLimbs a.toList) (scalarLimbs b.toList) (scalarLimbs c.toList) k =
      BitVec.ofInt 64
        (productDigit (scalarDigit a.toNat) (scalarDigit b.toNat) (scalarDigit c.toNat) k) := by
  have hterm : ∀ i ∈ List.range (k + 1),
      BitVec.ofNat 64 (scalarDigit a.toNat i) * BitVec.ofNat 64 (scalarDigit b.toNat (k - i)) =
        BitVec.ofInt 64 (scalarDigit a.toNat i * scalarDigit b.toNat (k - i) : ℕ) := fun i _ => by
    rw [BitVec.ofInt_natCast, BitVec.ofNat_mul]
  simp only [mulAddLimb, getD_scalarLimbs]
  rw [← BitVec.ofInt_natCast, foldl_add_ofInt hterm, productDigit, Nat.cast_add, column,
    Nat.cast_sum]
  rfl

theorem sum_productDigit (a b c : ℕ) :
    ∑ k ∈ Finset.range 24,
        productDigit (scalarDigit a) (scalarDigit b) (scalarDigit c) k * (2 ^ 21) ^ k =
      a * b + c := by
  have hzero : ∀ v i, 12 ≤ i → scalarDigit v i = 0 := fun v i hi => if_neg (not_lt.2 hi)
  have hcolumns := sum_column (hzero a) (hzero b) (2 ^ 21)
  rw [sum_scalarDigit le_rfl, sum_scalarDigit le_rfl] at hcolumns
  simp only [productDigit, add_mul]
  rw [Finset.sum_add_distrib, sum_scalarDigit (by norm_num), hcolumns, add_comm]

/-- The largest limbs of 32 bytes. -/
def maxScalarDigit (i : ℕ) : ℕ := if i < 12 then maxDigit 12 (8 * 32) i else 0

theorem scalarDigit_le (a : Block 32) (i : ℕ) : scalarDigit a.toNat i ≤ maxScalarDigit i := by
  unfold scalarDigit maxScalarDigit
  split_ifs with hi
  · exact digit_le_maxDigit a hi (by norm_num)
  · exact le_rfl

theorem fits_productDigit : ∀ k : Fin 24, Fits 64 0 ∧
    Fits 64 (productDigit maxScalarDigit maxScalarDigit maxScalarDigit k) := by
  decide

/-- The ranges of the limbs of the product. -/
def productRanges : List.Vector (Range 64) 24 := List.Vector.ofFn fun k =>
  ⟨0, productDigit maxScalarDigit maxScalarDigit maxScalarDigit k, fits_productDigit k⟩

theorem rangeAll_productRanges :
    rangeAll (productSteps ++ reduceSteps) productRanges = some reducedRanges := by
  decide +kernel

theorem within_productRanges (a b c : Block 32) :
    Within productRanges fun k => (productDigit (scalarDigit a.toNat) (scalarDigit b.toNat)
      (scalarDigit c.toNat) k : ℤ) := fun k => by
  rw [productRanges, List.Vector.get_ofFn]
  exact ⟨Int.natCast_nonneg _, Int.ofNat_le.2 <| Nat.add_le_add (scalarDigit_le c k)
    (column_le_column (scalarDigit_le a) (scalarDigit_le b) k)⟩

/-- The limb arithmetic computes `(ab + c) mod l` for all scalars, reduced or not. -/
theorem scMulAdd_eq_remainder (a b c : Block 32) : scMulAdd a b c = MeshCosi.scMulAdd a b c := by
  have hbalanced : ∀ step ∈ productSteps ++ reduceSteps, step.Balanced l weight :=
    List.forall_mem_append.2 ⟨balanced_productSteps, balanced_reduceSteps⟩
  have hvalue := limbValue_weight
    (productDigit (scalarDigit a.toNat) (scalarDigit b.toNat) (scalarDigit c.toNat)) 24
  rw [sum_productDigit] at hvalue
  simp only [scMulAdd, mulAddLimb_eq]
  exact scBytes_runAll rangeAll_productRanges hbalanced (within_productRanges a b c) hvalue

/-- `ScReduce` computes the remainder modulo `l`, and no limb overflows on the way. -/
theorem scReduce_value (s : Block 64) :
    (scReduce s).toNat = s.toNat % l ∧
      NoOverflow (reduceSteps ++ lastSteps) (wideLimbs s.toList) := by
  constructor
  · rw [scReduce_eq_remainder]
    exact Block.ofNat_toNat_of_lt (mod_l_lt _)
  · have hranges : rangeAll (reduceSteps ++ lastSteps) wideRanges = some finalRanges := by
      rw [rangeAll_append, rangeAll_wideRanges]
      exact rangeAll_lastSteps
    rw [wideLimbs_eq]
    exact noOverflow_of_rangeAll hranges (within_wideRanges s)

/-- `ScMulAdd` computes `ab + c` modulo `l`, also for scalars that are not reduced. -/
theorem scMulAdd_value (a b c : Block 32) :
    (scMulAdd a b c).toNat = (a.toNat * b.toNat + c.toNat) % l := by
  rw [scMulAdd_eq_remainder]
  exact Block.ofNat_toNat_of_lt (mod_l_lt _)

end MeshCosi.Edwards25519
