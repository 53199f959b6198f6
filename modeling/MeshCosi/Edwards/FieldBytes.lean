import MeshCosi.Edwards.FieldArith

/-!
# Field elements as bytes

`FeFromBytes` reads 255 bits and ignores the last.  `FeToBytes` writes the one
representative below `2^255 - 19`: it estimates the quotient from the top limb and
then carries once.  Its comment asks for limbs of about one unit, but decompression
calls it with three, and the estimate is right for these as well.  It also overwrites
its argument with the limbs it has reduced, which are as large as two units.

Reading is one step.  The bytes are cut into fields of 32, 24 or 23 bits and shifted
to the weights of the limbs (`readLimb_weight`), and `FeCombine` does the rest.

Writing has three.  Let `v` be the value of the limbs and `p` the prime.

* The quotient.  On integers the loop rounds down limb by limb, which is rounding
  down once (`quotientAfter_eq`): it computes `⌊(2^25 v + 19 h₉ + 2^24) / 2^280⌋`.
  The term `19 h₉` stands for `19 v / 2^230`, which is where `v / p` and `v / 2^255`
  differ, so the result is `⌊v / p⌋` (`quotientAfter_eq_div`).  On words it is the
  same, because every shift sees at most `30` beyond a limb (`feQuotient_eq`).
* The carries.  With `q` added 19 times the limbs are worth `v + 19 q`, that is
  `v % p + 2^255 q`.  Carrying upwards leaves digits of 26 and 25 bits and drops a
  multiple of `2^255`, so the digits make up `v % p` (`exists_written_limbs`).
* The bytes.  Digits that do not overlap are written as the number they make up
  (`feBytes_digits`).

`Denotes.feToBytes` puts them together; what is read off the bytes afterwards, the
sign and whether the element is zero, follows from it.
-/

namespace MeshCosi.Edwards25519

open Foundation

/-! ## Reading -/

/-- The bits that each limb is read from. -/
def readWidths : List ℕ := [32, 24, 24, 24, 24, 32, 24, 24, 24, 23]

/-- How far they are shifted. -/
def readShifts : List ℕ := [0, 6, 5, 3, 2, 0, 7, 5, 4, 2]

/-- The limb that is read from a number. -/
def readLimb (v i : ℕ) : ℕ :=
  v / 2 ^ (readWidths.take i).sum % 2 ^ readWidths.getD i 0 * 2 ^ readShifts.getD i 0

theorem load3_shift (bytes : Bytes) (offset bits : ℕ) :
    load3 (bytes.drop offset) <<< bits =
      BitVec.ofNat 64 (leNat bytes / 2 ^ (8 * offset) % 2 ^ 24 * 2 ^ bits) := by
  have hdrop := leNat_drop_div bytes offset 0
  rw [pow_zero, Nat.div_one, Nat.add_zero] at hdrop
  rw [load3_eq, ofNat_shiftLeft, hdrop]

theorem load4_drop (bytes : Bytes) (offset : ℕ) :
    load4 (bytes.drop offset) =
      BitVec.ofNat 64 (leNat bytes / 2 ^ (8 * offset) % 2 ^ 32 * 2 ^ 0) := by
  have hdrop := leNat_drop_div bytes offset 0
  rw [pow_zero, Nat.div_one, Nat.add_zero] at hdrop
  rw [load4_eq, hdrop, pow_zero, mul_one]

theorem load3_mask_shift (bytes : Bytes) (offset bits : ℕ) :
    (load3 (bytes.drop offset) &&& 8388607) <<< bits =
      BitVec.ofNat 64 (leNat bytes / 2 ^ (8 * offset) % 2 ^ 23 * 2 ^ bits) := by
  -- the mask removes the bit that the encoding of a point keeps its sign in
  have hmask := ofNat_and_mask 64 (leNat bytes / 2 ^ (8 * offset) % 2 ^ 24) 23
  rw [Nat.mod_mod_of_dvd _ (pow_dvd_pow 2 (by norm_num))] at hmask
  have hload := load3_shift bytes offset 0
  rw [pow_zero, mul_one, BitVec.shiftLeft_zero] at hload
  rw [hload, ← ofNat_shiftLeft, ← hmask]
  rfl

theorem feFromBytes_eq (src : Block 32) :
    feFromBytes src = feCombine (toLimbs 64 fun i => (readLimb src.toNat i : ℤ)) := by
  have hfirst := load4_drop src.toList 0
  rw [List.drop_zero] at hfirst
  rw [feFromBytes]
  refine congrArg feCombine (eq_toLimbs (x := fun i => (readLimb src.toNat i : ℤ)) ?_)
  simp only [load3_shift, load4_drop, load3_mask_shift, hfirst, BitVec.ofInt_natCast]
  rfl

theorem readLimb_weight : ∀ i < 10,
    (2 : ℤ) ^ readShifts.getD i 0 * feWeight i = 2 ^ (readWidths.take i).sum := by
  decide

theorem readLimb_le : ∀ i : Fin 10,
    (2 : ℤ) ^ readWidths.getD i 0 * 2 ^ readShifts.getD i 0 ≤ 18 * maxColumn i := by
  decide

/-- `FeFromBytes` reads the low 255 bits. -/
theorem denotes_feFromBytes (src : Block 32) :
    Denotes 1 (feFromBytes src) ((src.toNat % 2 ^ 255 : ℕ) : ZMod fieldPrime) := by
  have hvalue : feValue (fun i => (readLimb src.toNat i : ℤ)) = (src.toNat % 2 ^ 255 : ℕ) := by
    have hfields := packed_fields readWidths src.toNat
    rw [packed_eq_sum] at hfields
    rw [show 255 = readWidths.sum from rfl, ← hfields, Nat.cast_sum, feValue,
      limbValue_coe feWeight fun i => (readLimb src.toNat i : ℤ)]
    refine Finset.sum_congr rfl fun i hi => ?_
    have hweight := readLimb_weight i (Finset.mem_range.1 hi)
    simp only [readLimb]
    push_cast
    rw [mul_assoc, hweight]
  rw [feFromBytes_eq, ← Int.cast_natCast, ← hvalue]
  refine denotes_feCombine fun i => ?_
  have hlt : readLimb src.toNat i ≤ 2 ^ readWidths.getD i 0 * 2 ^ readShifts.getD i 0 :=
    Nat.mul_le_mul_right _ (Nat.mod_lt _ (by positivity)).le
  rw [abs_of_nonneg (Int.natCast_nonneg _)]
  exact le_trans (by exact_mod_cast hlt) (readLimb_le i)

/-! ## The quotient -/

/-- The quotient after the first `n` limbs, on integers. -/
def quotientAfter (s : ℕ → ℤ) : ℕ → ℤ
  | 0 => (19 * s 9 + 2 ^ 24) >>> (25 : ℕ)
  | n + 1 => (s n + quotientAfter s n) >>> limbBits n

theorem feWeight_succ (i : ℕ) : feWeight (i + 1) = feWeight i * 2 ^ limbBits i := by
  rw [feWeight, feWeight, ← pow_add, limbBits]
  congr 1
  split_ifs <;> omega

theorem feWeight_pos (i : ℕ) : 0 < feWeight i := by
  rw [feWeight]
  positivity

/-- Rounding down limb by limb is rounding down once. -/
theorem quotientAfter_eq (s : ℕ → ℤ) (n : ℕ) :
    quotientAfter s n =
      (2 ^ 25 * (∑ i ∈ Finset.range n, s i * feWeight i) + (19 * s 9 + 2 ^ 24)) /
        (2 ^ 25 * feWeight n) := by
  induction n with
  | zero =>
      rw [quotientAfter, Int.shiftRight_eq_div_pow, Finset.sum_range_zero, mul_zero, zero_add]
      rfl
  | succ n ih =>
      have hpos : (0 : ℤ) < 2 ^ 25 * feWeight n := mul_pos (by norm_num) (feWeight_pos n)
      -- `(s n + x / y) / z = (s n * y + x) / (y * z)`
      rw [quotientAfter, Int.shiftRight_eq_div_pow, ih, add_comm (s n),
        ← Int.add_mul_ediv_right _ _ hpos.ne', Int.ediv_ediv_of_nonneg hpos.le,
        Finset.sum_range_succ, feWeight_succ]
      push_cast
      congr 1 <;> ring

theorem abs_quotientAfter_le {s : Fin 10 → ℤ} (hs : ∀ i, |s i| ≤ 3 * limbUnit i) (n : ℕ) :
    |quotientAfter (limbAt s) n| ≤ 30 := by
  induction n with
  | zero =>
      have h9 := abs_le.1 (hs 9)
      rw [show limbUnit (9 : Fin 10) = 16778240 from rfl] at h9
      rw [quotientAfter, show limbAt s 9 = s 9 from rfl, Int.shiftRight_eq_div_pow, abs_le]
      omega
  | succ n ih =>
      have hn : -(3 * limbUnit (n % 10)) ≤ limbAt s n ∧ limbAt s n ≤ 3 * limbUnit (n % 10) :=
        abs_le.1 (hs (Fin.ofNat 10 n))
      have hq := abs_le.1 ih
      rw [quotientAfter, Int.shiftRight_eq_div_pow, abs_le]
      unfold limbUnit at hn
      unfold limbBits
      split_ifs at hn ⊢ <;> omega

/-- The words compute the quotient that the integers give. -/
theorem feQuotient_eq {h : FieldElement} {s : Fin 10 → ℤ} (hs : HoldsLimbs 3 h s) :
    feQuotient h = BitVec.ofInt 32 (quotientAfter (limbAt s) 10) := by
  have hsmall : ∀ {x : ℤ}, |x| ≤ 2 ^ 30 → Fits 32 x := Fits.of_abs_le (by decide) (by decide)
  refine foldl_finRange_induction
    (motive := fun n q => q = BitVec.ofInt 32 (quotientAfter (limbAt s) n)) ?_ fun i q hq => ?_
  · have h9 := abs_le.1 (hs.bound 9)
    rw [show limbUnit (9 : Fin 10) = 16778240 from rfl] at h9
    have hfits : Fits 32 (19 * s 9 + 2 ^ 24) := hsmall (abs_le.2 (by omega))
    rw [quotientAfter, show limbAt s 9 = s 9 from rfl, ← hfits.ofInt_sshiftRight,
      BitVec.ofInt_add, BitVec.ofInt_mul, ← hs.get]
    rfl
  · have hfits : Fits 32 (s i + quotientAfter (limbAt s) i) := hsmall <| by
      have hi := abs_le.1 ((hs.bound i).trans
        (mul_le_mul_of_nonneg_left (limbUnit_le i) (by norm_num)))
      have hq := abs_le.1 (abs_quotientAfter_le hs.bound i)
      push_cast at hi
      exact abs_le.2 ⟨by linarith, by linarith⟩
    rw [hq, hs.get, ← BitVec.ofInt_add, hfits.ofInt_sshiftRight, quotientAfter, limbAt_val]

theorem emod_fieldPrime (v : ℤ) :
    v % fieldPrime + (2 ^ 255 - 19) * (v / fieldPrime) = v ∧
      0 ≤ v % fieldPrime ∧ v % fieldPrime < 2 ^ 255 - 19 := by
  have hprime : (fieldPrime : ℤ) = 2 ^ 255 - 19 := by norm_num [fieldPrime]
  have hpos : (0 : ℤ) < 2 ^ 255 - 19 := by norm_num
  rw [hprime]
  exact ⟨Int.emod_add_mul_ediv v _, Int.emod_nonneg v hpos.ne', Int.emod_lt_of_pos v hpos⟩

/-- The estimate of the quotient is exact. -/
theorem quotientAfter_eq_div {s : Fin 10 → ℤ} (hs : ∀ i, |s i| ≤ 3 * limbUnit i) :
    quotientAfter (limbAt s) 10 = feValue s / fieldPrime := by
  have hsum := limbValue_eq_sum_range feWeight s
  -- what lies below the top limb is too small to matter
  have hlow : |∑ i ∈ Finset.range 9, limbAt s i * feWeight i| ≤ 2 ^ 233 := by
    calc |∑ i ∈ Finset.range 9, limbAt s i * feWeight i|
        ≤ ∑ i ∈ Finset.range 9, 3 * limbUnit (Fin.ofNat 10 i) * feWeight i := by
          refine (Finset.abs_sum_le_sum_abs _ _).trans (Finset.sum_le_sum fun i _ => ?_)
          rw [abs_mul, abs_of_pos (feWeight_pos i)]
          exact mul_le_mul_of_nonneg_right (hs (Fin.ofNat 10 i)) (feWeight_pos i).le
      _ ≤ 2 ^ 233 := by decide
  have hsplit : feValue s =
      ∑ i ∈ Finset.range 9, limbAt s i * feWeight i + s 9 * 2 ^ 230 :=
    hsum.trans (Finset.sum_range_succ _ 9)
  have htop := abs_le.1 (hs 9)
  obtain ⟨hdiv, hnonneg, hlt⟩ := emod_fieldPrime (feValue s)
  rw [quotientAfter_eq, ← hsum, ← feValue, show limbAt s 9 = s 9 from rfl,
    show feWeight 10 = 2 ^ 255 from rfl]
  rw [show limbUnit (9 : Fin 10) = 16778240 from rfl] at htop
  obtain ⟨hlow, hlow'⟩ := abs_le.1 hlow
  obtain ⟨htop, htop'⟩ := htop
  clear hsum
  generalize ∑ i ∈ Finset.range 9, limbAt s i * feWeight i = low at *
  generalize feValue s = v at *
  generalize v / fieldPrime = q at *
  generalize v % fieldPrime = r at *
  -- both bounds are linear in the remainder, the low part and the top limb
  rw [Int.ediv_eq_iff_of_pos (by norm_num)]
  constructor <;> linarith

/-! ## Writing -/

theorem fits_quotientAdded : ∀ i : Fin 10,
    Fits 32 (-(3 * limbUnit i + 570)) ∧ Fits 32 (3 * limbUnit i + 570) := by
  decide

theorem fits_written : ∀ i : Fin 10, Fits 32 0 ∧ Fits 32 (2 ^ limbBits i - 1) := by
  decide

/-- The ranges of the limbs when the quotient has been added 19 times. -/
def quotientAddedRanges : List.Vector (Range 32) 10 :=
  List.Vector.ofFn fun i => ⟨-(3 * limbUnit i + 570), 3 * limbUnit i + 570, fits_quotientAdded i⟩

/-- The ranges of the limbs that are written. -/
def writtenRanges : List.Vector (Range 32) 10 :=
  List.Vector.ofFn fun i => ⟨0, 2 ^ limbBits i - 1, fits_written i⟩

theorem rangeAll_toBytesSteps : rangeAll toBytesSteps quotientAddedRanges = some writtenRanges := by
  decide

/-- Only the last carry is lost. -/
theorem balanced_toBytesSteps : ∀ step ∈ toBytesSteps, step.Balanced (2 ^ 255) feWeight := by
  decide

theorem within_quotientAddedRanges {s : Fin 10 → ℤ} (hs : ∀ i, |s i| ≤ 3 * limbUnit i) {q : ℤ}
    (hq : |q| ≤ 30) : Within quotientAddedRanges (Function.update s 0 (s 0 + 19 * q)) := by
  intro i
  have hi := abs_le.1 (hs i)
  have hq := abs_le.1 hq
  rw [quotientAddedRanges, List.Vector.get_ofFn, Function.update_apply]
  split_ifs with hzero
  · subst hzero
    constructor <;> dsimp only <;> linarith [hi.1, hi.2, hq.1, hq.2]
  · constructor <;> dsimp only <;> linarith [hi.1, hi.2]

/-- Digits that agree with `v + 19 (v / p)` modulo `2^255` make up the remainder. -/
theorem eq_emod_of_modEq {v d : ℤ} (hnonneg : 0 ≤ d) (hlt : d < 2 ^ 255)
    (h : d ≡ v + 19 * (v / fieldPrime) [ZMOD 2 ^ 255]) : d = v % fieldPrime := by
  obtain ⟨hdiv, hmod, hmod'⟩ := emod_fieldPrime v
  have hsum : v + 19 * (v / fieldPrime) = v % fieldPrime + v / fieldPrime * 2 ^ 255 := by
    linarith
  rw [hsum, Int.ModEq, Int.add_mul_emod_self_right, Int.emod_eq_of_lt hnonneg hlt,
    Int.emod_eq_of_lt hmod (by linarith)] at h
  exact h

/-- What `FeToBytes` leaves: the digits of the remainder. -/
theorem exists_written_limbs {h : FieldElement} {s : Fin 10 → ℤ} (hs : HoldsLimbs 3 h s) :
    ∃ t : Fin 10 → ℤ,
      runAll toBytesSteps (h.set 0 (h.get 0 + 19 * feQuotient h)) = toLimbs 32 t ∧
      (∀ i, 0 ≤ t i ∧ t i ≤ 2 ^ limbBits i - 1) ∧ feValue t = feValue s % fieldPrime := by
  have hadded : h.set 0 (h.get 0 + 19 * feQuotient h) =
      toLimbs 32 (Function.update s 0 (s 0 + 19 * quotientAfter (limbAt s) 10)) := by
    rw [toLimbs_update, BitVec.ofInt_add, BitVec.ofInt_mul, ← feQuotient_eq hs, ← hs.get, ← hs.eq]
    rfl
  have hvalue := exactAll_value balanced_toBytesSteps
    (Function.update s 0 (s 0 + 19 * quotientAfter (limbAt s) 10))
  obtain ⟨hrun, hwritten⟩ := rangeAll_sound rangeAll_toBytesSteps
    (within_quotientAddedRanges hs.bound (abs_quotientAfter_le hs.bound 10))
  rw [limbValue_update, add_sub_cancel_left] at hvalue
  rw [hadded]
  generalize exactAll toBytesSteps _ = t at hrun hwritten hvalue
  rw [quotientAfter_eq_div hs.bound, show feWeight (0 : Fin 10) = 1 from rfl, mul_one] at hvalue
  have hdigits : ∀ i, 0 ≤ t i ∧ t i ≤ 2 ^ limbBits i - 1 := fun i => by
    have hrange := hwritten i
    rwa [writtenRanges, List.Vector.get_ofFn] at hrange
  refine ⟨t, hrun, hdigits, ?_⟩
  have hbits : ∀ i < 10, 0 ≤ limbAt t i ∧ limbAt t i ≤ 2 ^ limbBits i - 1 :=
    forall_limbAt (P := fun i x => 0 ≤ x ∧ x ≤ 2 ^ limbBits i - 1) hdigits
  obtain ⟨hnonneg, hlt⟩ := sum_digits_bounds rfl feWeight_succ feWeight_pos hbits
  rw [← limbValue_eq_sum_range] at hnonneg hlt
  exact eq_emod_of_modEq hnonneg hlt hvalue

/-- The widths of the limbs. -/
def limbWidths : List ℕ := [26, 25, 26, 25, 26, 25, 26, 25, 26, 25]

theorem toList_feBytes (h : FieldElement) :
    (feBytes h).toList = (List.range 32).map fun k =>
      toByte (storeByte (fun i => h.get (Fin.ofNat 10 i)) limbWidths 0 (8 * k)) := rfl

theorem limbWidths_spec : ∀ i < 10,
    limbWidths.getD i 0 = limbBits (Fin.ofNat 10 i) ∧
      (2 : ℤ) ^ (limbWidths.take i).sum = feWeight i := by
  decide

/-- Digits are written as the number they make up. -/
theorem feBytes_digits {t : Fin 10 → ℤ} (ht : ∀ i, 0 ≤ t i ∧ t i ≤ 2 ^ limbBits i - 1) {v : ℕ}
    (hv : feValue t = v) : feBytes (toLimbs 32 t) = Block.ofNat 32 v := by
  apply Subtype.ext
  refine (toList_feBytes _).trans ?_
  simp only [get_toLimbs]
  refine map_toByte_storeByte (by norm_num) limbWidths (limbAt t) (by decide)
    (fun i _ => (ht _).1) (fun i hi => ?_) (fun i hi => ?_) ?_ 32
  · rw [(limbWidths_spec i (Nat.lt_of_succ_lt hi)).1]
    exact Int.lt_of_le_sub_one (ht _).2
  · obtain rfl : i = 9 := Nat.succ.inj hi
    have hle : limbAt t 9 ≤ 2 ^ 25 - 1 := (ht 9).2
    linarith
  · rw [← hv, feValue, limbValue_eq_sum_range]
    refine Finset.sum_congr rfl fun i hi => ?_
    rw [(limbWidths_spec i (Finset.mem_range.1 hi)).2]

instance : NeZero fieldPrime := ⟨by norm_num [fieldPrime]⟩

/-- `FeToBytes` writes the smallest representative, for arguments of three units, and
leaves the same element in its argument. -/
theorem Denotes.feToBytes {f : FieldElement} {x : ZMod fieldPrime} (hf : Denotes 3 f x) :
    (feToBytes f).1 = Block.ofNat 32 x.val ∧ Denotes 2 (feToBytes f).2 x := by
  obtain ⟨s, hs, rfl⟩ := hf
  obtain ⟨t, hrun, hdigits, hvalue⟩ := exists_written_limbs hs
  have hmod : ((feValue s : ZMod fieldPrime).val : ℤ) = feValue t := by
    rw [hvalue, ZMod.val_intCast]
  rw [Edwards25519.feToBytes, hrun]
  -- the argument is left with the digits, which are larger than one unit
  refine ⟨feBytes_digits hdigits hmod.symm, t, ⟨rfl, fun i => ?_⟩, ?_⟩
  · obtain ⟨hnonneg, hle⟩ := hdigits i
    rw [abs_of_nonneg hnonneg]
    refine hle.trans ?_
    unfold limbBits limbUnit
    split_ifs <;> norm_num
  · rw [← hmod, Int.cast_natCast, ZMod.natCast_zmod_val]

theorem val_lt_two_pow (x : ZMod fieldPrime) : x.val < 2 ^ 255 :=
  (ZMod.val_lt x).trans (by norm_num [fieldPrime])

/-- Reading bytes and writing them again reduces the low 255 bits. -/
theorem feToBytes_feFromBytes (src : Block 32) :
    (feToBytes (feFromBytes src)).1 =
      Block.ofNat 32 (src.toNat % 2 ^ 255 % fieldPrime) := by
  have hbytes := ((denotes_feFromBytes src).mono (by norm_num : 1 ≤ 3)).feToBytes.1
  rwa [ZMod.val_natCast] at hbytes

/-- The field element that bytes are read as. -/
def fieldValue (src : Block 32) : ZMod fieldPrime := ((src.toNat % 2 ^ 255 : ℕ) : ZMod fieldPrime)

/-- Elements are read, combined and written as in the field, whatever the bytes. -/
theorem field_operations_on_bytes (a b : Block 32) :
    (feToBytes (feAdd (feFromBytes a) (feFromBytes b))).1 =
        Block.ofNat 32 (fieldValue a + fieldValue b).val ∧
      (feToBytes (feSub (feFromBytes a) (feFromBytes b))).1 =
        Block.ofNat 32 (fieldValue a - fieldValue b).val ∧
      (feToBytes (feMul (feFromBytes a) (feFromBytes b))).1 =
        Block.ofNat 32 (fieldValue a * fieldValue b).val ∧
      (feToBytes (feNeg (feFromBytes a))).1 = Block.ofNat 32 (-fieldValue a).val := by
  have ha := denotes_feFromBytes a
  have hb := denotes_feFromBytes b
  have hproduct := (ha.mono (by norm_num : 1 ≤ 3)).feMul (hb.mono (by norm_num : 1 ≤ 3))
  refine ⟨?_, ?_, ?_, ?_⟩
  · exact ((ha.feAdd hb).mono (by norm_num)).feToBytes.1
  · exact ((ha.feSub hb).mono (by norm_num)).feToBytes.1
  · exact (hproduct.mono (by norm_num)).feToBytes.1
  · exact (ha.feNeg.mono (by norm_num)).feToBytes.1

/-! ## Sign and zero -/

/-- The sign that an encoding keeps: the parity of the smallest representative. -/
def signBit (x : ZMod fieldPrime) : UInt8 := UInt8.ofNat (x.val % 2)

private theorem and_one_eq_mod : ∀ n < 256, UInt8.ofNat n &&& 1 = UInt8.ofNat (n % 2) := by
  decide +kernel

theorem Denotes.feIsNegative {f : FieldElement} {x : ZMod fieldPrime} (hf : Denotes 3 f x) :
    (feIsNegative f).1 = signBit x ∧ Denotes 2 (feIsNegative f).2 x := by
  obtain ⟨hbytes, hrest⟩ := hf.feToBytes
  have hlow : UInt8.ofNat x.val = UInt8.ofNat (x.val % 256) := by
    apply UInt8.toNat_inj.1
    rw [UInt8.toNat_ofNat', UInt8.toNat_ofNat', Nat.mod_mod]
  have hsign : (Block.ofNat 32 x.val).toList.getD 0 0 &&& 1 = signBit x := by
    change UInt8.ofNat x.val &&& 1 = signBit x
    rw [hlow, and_one_eq_mod _ (Nat.mod_lt _ (by norm_num)), Nat.mod_mod_of_dvd _ (by norm_num)]
    rfl
  simp only [Edwards25519.feIsNegative, hbytes, hsign, true_and]
  exact hrest

private theorem fold_bits : ∀ n < 256,
    let x := UInt8.ofNat n
    let x := x ||| x >>> 4
    let x := x ||| x >>> 2
    let x := x ||| x >>> 1
    (x &&& 1).toBitVec.setWidth 32 = if n = 0 then 0#32 else 1#32 := by
  decide +kernel

theorem foldl_or_eq_zero_iff (bytes : Bytes) (x : UInt8) :
    bytes.foldl (fun x b => x ||| b) x = 0 ↔ x = 0 ∧ leNat bytes = 0 := by
  induction bytes generalizing x with
  | nil => simp [leNat]
  | cons b bytes ih =>
      have hbyte : b = 0 ↔ b.toNat = 0 := UInt8.toNat_inj.symm
      rw [List.foldl_cons, ih, leNat_cons, UInt8.or_eq_zero_iff, hbyte, and_assoc]
      refine and_congr_right fun _ => ?_
      omega

/-- `FeIsNonZero` tests whether the element is zero, for arguments of three units. -/
theorem Denotes.feIsNonZero {f : FieldElement} {x : ZMod fieldPrime} (hf : Denotes 3 f x) :
    (feIsNonZero f).1 = if x = 0 then 0#32 else 1#32 := by
  have hbytes := hf.feToBytes.1
  have hzero := foldl_or_eq_zero_iff (Block.ofNat 32 x.val).toList 0
  have hval : leNat (Block.ofNat 32 x.val).toList = x.val :=
    Block.ofNat_toNat_of_lt ((val_lt_two_pow x).trans (by norm_num))
  rw [hval, ZMod.val_eq_zero] at hzero
  rw [Edwards25519.feIsNonZero, hbytes]
  generalize (Block.ofNat 32 x.val).toList.foldl (fun x b => x ||| b) 0 = y at hzero
  have hfold := fold_bits y.toNat y.toNat_lt
  rw [UInt8.ofNat_toNat] at hfold
  have hiff : y.toNat = 0 ↔ x = 0 := by
    rw [← UInt8.toNat_zero, UInt8.toNat_inj, hzero]
    simp
  simp only [hiff] at hfold
  exact hfold

end MeshCosi.Edwards25519
