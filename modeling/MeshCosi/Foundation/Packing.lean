import MeshCosi.Foundation.Bytes
import MeshCosi.Foundation.Limbs

/-!
# Limbs packed into bytes

A number is stored byte by byte although its limbs are not byte-sized: a byte
comes from one limb, or from the end of one and the start of the next.  `packed`
is the number whose consecutive bit fields are the limbs, and `storeByte` the
expression that such code writes for the byte at a position.
-/

namespace Foundation

/-! ## Parts of a little-endian number -/

theorem leNat_drop (bytes : Bytes) (k : ℕ) : leNat (bytes.drop k) = leNat bytes / 256 ^ k := by
  rw [leNat, leNat, List.map_drop, Nat.ofDigits_div_pow_eq_ofDigits_drop k (by norm_num)]
  exact List.forall_mem_map.2 fun b _ => b.toNat_lt

theorem leNat_take (bytes : Bytes) (k : ℕ) : leNat (bytes.take k) = leNat bytes % 256 ^ k := by
  rw [leNat, leNat, List.map_take, Nat.ofDigits_mod_pow_eq_ofDigits_take k (by norm_num)]
  exact List.forall_mem_map.2 fun b _ => b.toNat_lt

theorem leNat_cons (b : UInt8) (bytes : Bytes) :
    leNat (b :: bytes) = b.toNat + 256 * leNat bytes := by
  rw [leNat, List.map_cons, Nat.ofDigits_cons]
  rfl

theorem leNat_lt (bytes : Bytes) : leNat bytes < 256 ^ bytes.length := by
  have hdigits : ∀ digit ∈ bytes.map UInt8.toNat, digit < 256 :=
    List.forall_mem_map.2 fun b _ => b.toNat_lt
  have hlt := Nat.ofDigits_lt_base_pow_length (by norm_num) hdigits
  rwa [List.length_map] at hlt

theorem leBytes_eq_map (n v : ℕ) :
    leBytes n v = (List.range n).map fun k => UInt8.ofNat (v / 256 ^ k) := by
  refine List.ext_getElem? fun k => ?_
  by_cases hk : k < n
  · rw [getElem?_leBytes v hk, List.getElem?_map, List.getElem?_range hk, Option.map_some]
  · have hrange : (List.range n)[k]? = none :=
      List.getElem?_eq_none (by rw [List.length_range]; exact not_lt.1 hk)
    rw [List.getElem?_map, hrange, List.getElem?_eq_none (by simpa using hk), Option.map_none]

/-- The digits of a number in some base make up the number. -/
theorem sum_digits (base v n : ℕ) :
    ∑ i ∈ Finset.range n, v / base ^ i % base * base ^ i + v / base ^ n * base ^ n = v := by
  induction n with
  | zero => simp
  | succ n ih =>
      rw [Finset.sum_range_succ]
      have hsplit := Nat.mod_add_div (v / base ^ n) base
      rw [Nat.div_div_eq_div_mul, ← pow_succ] at hsplit
      calc ∑ i ∈ Finset.range n, v / base ^ i % base * base ^ i +
            v / base ^ n % base * base ^ n + v / base ^ (n + 1) * base ^ (n + 1)
          = ∑ i ∈ Finset.range n, v / base ^ i % base * base ^ i +
            (v / base ^ n % base + base * (v / base ^ (n + 1))) * base ^ n := by ring
        _ = v := by rw [hsplit, ih]

theorem sum_digits_of_lt {base v n : ℕ} (hv : v < base ^ n) :
    ∑ i ∈ Finset.range n, v / base ^ i % base * base ^ i = v := by
  have h := sum_digits base v n
  rwa [Nat.div_eq_of_lt hv, zero_mul, add_zero] at h

/-- Digits in their range make up a number in its range. -/
theorem sum_digits_bounds {n : ℕ} {weight base x : ℕ → ℤ} (hone : weight 0 = 1)
    (hweight : ∀ i, weight (i + 1) = weight i * base i) (hpos : ∀ i, 0 < weight i)
    (h : ∀ i < n, 0 ≤ x i ∧ x i ≤ base i - 1) :
    0 ≤ ∑ i ∈ Finset.range n, x i * weight i ∧
      ∑ i ∈ Finset.range n, x i * weight i < weight n := by
  induction n with
  | zero => simp [hone]
  | succ n ih =>
      obtain ⟨hlow, hhigh⟩ := ih fun i hi => h i (Nat.lt_succ_of_lt hi)
      obtain ⟨hx, hx'⟩ := h n (Nat.lt_succ_self n)
      have hn := hpos n
      rw [Finset.sum_range_succ, hweight]
      constructor
      · positivity
      · nlinarith

/-! ## Words that hold small numbers -/

/-- `byte(x)`: the low eight bits of a word. -/
def toByte {w : ℕ} (x : BitVec w) : UInt8 := UInt8.ofBitVec (x.setWidth 8)

theorem toByte_ofNat {w : ℕ} (hw : 8 ≤ w) (n : ℕ) : toByte (BitVec.ofNat w n) = UInt8.ofNat n := by
  apply UInt8.toNat_inj.1
  change ((BitVec.ofNat w n).setWidth 8).toNat = (UInt8.ofNat n).toNat
  rw [BitVec.toNat_setWidth, BitVec.toNat_ofNat, UInt8.toNat_ofNat',
    Nat.mod_mod_of_dvd n (pow_dvd_pow 2 hw)]

theorem ofNat_sshiftRight {w n : ℕ} (h : 2 * n < 2 ^ w) (bits : ℕ) :
    (BitVec.ofNat w n).sshiftRight bits = BitVec.ofNat w (n / 2 ^ bits) := by
  have hfits : Fits w n := ⟨by linarith [pow_pos (two_pos (α := ℤ)) w], by exact_mod_cast by omega⟩
  rw [← BitVec.ofInt_natCast, hfits.ofInt_sshiftRight, Int.shiftRight_eq_div_pow,
    ← BitVec.ofInt_natCast]
  congr 1

theorem ofNat_shiftLeft (w n bits : ℕ) :
    BitVec.ofNat w n <<< bits = BitVec.ofNat w (n * 2 ^ bits) := by
  rw [← BitVec.ofInt_natCast, ofInt_shiftLeft, ← BitVec.ofInt_natCast]
  congr 1

/-- Two numbers whose bits do not overlap are joined by an or. -/
theorem ofNat_or_mul (w : ℕ) {low bits : ℕ} (h : low < 2 ^ bits) (high : ℕ) :
    BitVec.ofNat w low ||| BitVec.ofNat w (high * 2 ^ bits) =
      BitVec.ofNat w (low + high * 2 ^ bits) := by
  rw [← BitVec.ofNat_or, Nat.or_comm, mul_comm, ← Nat.two_pow_add_eq_or_of_lt h, Nat.add_comm]

theorem ofNat_and_mask (w n k : ℕ) :
    BitVec.ofNat w n &&& BitVec.ofNat w (2 ^ k - 1) = BitVec.ofNat w (n % 2 ^ k) := by
  rw [← BitVec.ofNat_and, Nat.and_two_pow_sub_one_eq_mod]

/-- Skipping bytes and shifting by bits. -/
theorem leNat_drop_div (bytes : Bytes) (offset bits : ℕ) :
    leNat (bytes.drop offset) / 2 ^ bits = leNat bytes / 2 ^ (8 * offset + bits) := by
  rw [leNat_drop, Nat.div_div_eq_div_mul, pow_add, pow_mul]
  norm_num

/-- A digit of a digit. -/
theorem mod_div_mod (x : ℕ) {b d c : ℕ} (h : d * c ∣ b) : x % b / d % c = x / d % c := by
  obtain ⟨m, rfl⟩ := h
  rw [mul_assoc, Nat.mod_mul_right_div_self, Nat.mod_mod_of_dvd _ (Dvd.intro m rfl)]

/-- One byte of a little-endian number. -/
theorem leNat_div_mod (bytes : Bytes) (n : ℕ) :
    leNat bytes / 256 ^ n % 256 = (bytes.getD n 0).toNat := by
  rw [← leNat_drop, List.getD_eq_getElem?_getD, ← List.head?_drop]
  cases bytes.drop n with
  | nil => rfl
  | cons b rest =>
      rw [leNat_cons, Nat.add_mul_mod_self_left, Nat.mod_eq_of_lt b.toNat_lt]
      rfl

/-- One byte more of a little-endian number. -/
theorem leNat_mod_succ (bytes : Bytes) (n : ℕ) :
    leNat bytes % 256 ^ (n + 1) = leNat bytes % 256 ^ n + (bytes.getD n 0).toNat * 256 ^ n := by
  rw [pow_succ, Nat.mod_mul, leNat_div_mod, mul_comm]

/-- The number that an array holds, split at its last byte. -/
theorem toNat_eq_last {n : ℕ} (block : Block (n + 1)) :
    block.toNat = block.toNat % 256 ^ n + (block.toList.getD n 0).toNat * 256 ^ n := by
  have hlt : block.toNat < 256 ^ (n + 1) := by
    have h := leNat_lt block.toList
    rwa [block.toList_length] at h
  exact (Nat.mod_eq_of_lt hlt).symm.trans (leNat_mod_succ block.toList n)

theorem getD_modify_last {n : ℕ} (block : Block (n + 1)) (f : UInt8 → UInt8) :
    (block.modify n f).toList.getD n 0 = f (block.toList.getD n 0) := by
  have hn : n < block.toList.length := by rw [block.toList_length]; exact n.lt_succ_self
  change (block.toList.modify n f).getD n 0 = _
  rw [List.getD_eq_getElem?_getD, List.getD_eq_getElem?_getD, List.getElem?_modify_eq,
    List.getElem?_eq_getElem hn]
  rfl

/-- Changing the last byte leaves the low ones as they are. -/
theorem toNat_modify_last {n : ℕ} (block : Block (n + 1)) (f : UInt8 → UInt8) :
    (block.modify n f).toNat =
      block.toNat % 256 ^ n + (f (block.toList.getD n 0)).toNat * 256 ^ n := by
  have hlow : (block.modify n f).toNat % 256 ^ n = block.toNat % 256 ^ n := by
    rw [Block.toNat, Block.toNat, ← leNat_take, ← leNat_take]
    change leNat ((block.toList.modify n f).take n) = _
    rw [List.take_modify, List.modify_eq_self (by simp)]
  rw [toNat_eq_last, hlow, getD_modify_last]

theorem setWidth_byte (w : ℕ) (b : UInt8) : b.toBitVec.setWidth w = BitVec.ofNat w b.toNat := by
  apply BitVec.eq_of_toNat_eq
  rw [BitVec.toNat_setWidth, BitVec.toNat_ofNat]
  rfl

/-- The first byte of a number that is loaded. -/
theorem load_first (w : ℕ) (bytes : Bytes) :
    (bytes.getD 0 0).toBitVec.setWidth w = BitVec.ofNat w (leNat bytes % 2 ^ 8) := by
  have hfirst : leNat bytes % 2 ^ 8 = 0 + (bytes.getD 0 0).toNat * 1 :=
    (leNat_mod_succ bytes 0).trans (by rw [pow_zero, Nat.mod_one])
  rw [setWidth_byte, hfirst, Nat.zero_add, mul_one]

/-- `r |= int64(in[n]) << (8 * n)`, when the bytes below have been loaded. -/
theorem load_next (w : ℕ) (bytes : Bytes) (n : ℕ) :
    BitVec.ofNat w (leNat bytes % 2 ^ (8 * n)) |||
        (bytes.getD n 0).toBitVec.setWidth w <<< (8 * n) =
      BitVec.ofNat w (leNat bytes % 2 ^ (8 * (n + 1))) := by
  have hpow : ∀ k, (2 : ℕ) ^ (8 * k) = 256 ^ k := fun k => by rw [pow_mul]; norm_num
  rw [setWidth_byte, ofNat_shiftLeft, ofNat_or_mul w (Nat.mod_lt _ (by positivity)), hpow, hpow,
    leNat_mod_succ]

/-! ## Storing -/

/-- The number whose consecutive bit fields have these widths, the low ones first. -/
def packed : List ℕ → (ℕ → ℕ) → ℕ
  | [], _ => 0
  | width :: widths, field => field 0 + 2 ^ width * packed widths fun i => field (i + 1)

theorem packed_eq_sum (widths : List ℕ) (field : ℕ → ℕ) :
    packed widths field =
      ∑ i ∈ Finset.range widths.length, field i * 2 ^ (widths.take i).sum := by
  induction widths generalizing field with
  | nil => rfl
  | cons width widths ih =>
      rw [packed, ih, List.length_cons, Finset.sum_range_succ', Finset.mul_sum, Nat.add_comm]
      simp only [List.take_zero, List.sum_nil, pow_zero, mul_one, List.take_succ_cons,
        List.sum_cons, pow_add]
      congr 1
      exact Finset.sum_congr rfl fun i _ => by ring

/-- Consecutive bit fields of a number. -/
theorem packed_fields (widths : List ℕ) (v : ℕ) :
    packed widths (fun i => v / 2 ^ (widths.take i).sum % 2 ^ widths.getD i 0) =
      v % 2 ^ widths.sum := by
  induction widths generalizing v with
  | nil => simp [packed, Nat.mod_one]
  | cons width widths ih =>
      have htail : (fun i => v / 2 ^ ((width :: widths).take (i + 1)).sum %
          2 ^ (width :: widths).getD (i + 1) 0) =
            fun i => v / 2 ^ width / 2 ^ (widths.take i).sum % 2 ^ widths.getD i 0 := by
        funext i
        rw [List.take_succ_cons, List.sum_cons, pow_add, Nat.div_div_eq_div_mul]
        rfl
      rw [packed, htail, ih, List.sum_cons, pow_add, Nat.mod_mul]
      simp

/-- The word whose low byte is the byte at a position of a number of bit fields, of
which limb `k` is the first: a part of one field, or of two neighbours. -/
def storeByte {w : ℕ} (s : ℕ → BitVec w) : List ℕ → ℕ → ℕ → BitVec w
  | [], _, _ => 0
  | [_], k, bit => (s k).sshiftRight bit
  | width :: next :: widths, k, bit =>
      if bit < width then
        if bit + 8 ≤ width then (s k).sshiftRight bit
        else (s k).sshiftRight bit ||| s (k + 1) <<< (width - bit)
      else storeByte s (next :: widths) (k + 1) (bit - width)

/-- The fields fit, except perhaps the last, and no byte meets more than two. -/
def Packable (w : ℕ) : List ℕ → (ℕ → ℕ) → Prop
  | [], _ => True
  | [_], field => 2 * field 0 < 2 ^ w
  | width :: next :: widths, field =>
      field 0 < 2 ^ width ∧ width < w ∧ 8 ≤ next ∧
        Packable w (next :: widths) fun i => field (i + 1)

theorem packed_div_of_le {width : ℕ} {widths : List ℕ} {field : ℕ → ℕ}
    (hfield : field 0 < 2 ^ width) {bit : ℕ} (h : width ≤ bit) :
    packed (width :: widths) field / 2 ^ bit =
      packed widths (fun i => field (i + 1)) / 2 ^ (bit - width) := by
  obtain ⟨k, rfl⟩ := Nat.exists_eq_add_of_le h
  rw [packed, pow_add, ← Nat.div_div_eq_div_mul, Nat.add_mul_div_left _ _ (by positivity),
    Nat.div_eq_of_lt hfield, Nat.zero_add, Nat.add_sub_cancel_left]

/-- Eight bits inside a field. -/
theorem packed_byte_inside {width bit : ℕ} (h : bit + 8 ≤ width) (widths : List ℕ)
    (field : ℕ → ℕ) :
    packed (width :: widths) field / 2 ^ bit % 256 = field 0 / 2 ^ bit % 256 := by
  obtain ⟨k, rfl⟩ := Nat.exists_eq_add_of_le h
  have hsplit : packed ((bit + 8 + k) :: widths) field =
      field 0 + 2 ^ bit * (256 * (2 ^ k * packed widths fun i => field (i + 1))) := by
    rw [packed]
    ring
  rw [hsplit, Nat.add_mul_div_left _ _ (by positivity), Nat.add_mul_mod_self_left]

/-- Eight bits that begin in one field and end in the next. -/
theorem packed_byte_across {width next bit : ℕ} (hbit : bit ≤ width) (h : 8 ≤ width - bit + next)
    (widths : List ℕ) (field : ℕ → ℕ) :
    packed (width :: next :: widths) field / 2 ^ bit % 256 =
      (field 0 / 2 ^ bit + field 1 * 2 ^ (width - bit)) % 256 := by
  obtain ⟨k, rfl⟩ := Nat.exists_eq_add_of_le hbit
  rw [Nat.add_sub_cancel_left] at h ⊢
  obtain ⟨j, hj⟩ := Nat.exists_eq_add_of_le h
  have hpow : (2 : ℕ) ^ k * 2 ^ next = 256 * 2 ^ j := by
    rw [← pow_add, hj, pow_add]
    rfl
  have hsplit : packed ((bit + k) :: next :: widths) field =
      field 0 + 2 ^ bit * (field 1 * 2 ^ k +
        2 ^ k * 2 ^ next * packed widths fun i => field (i + 1 + 1)) := by
    rw [packed, packed]
    ring
  rw [hsplit, hpow, Nat.add_mul_div_left _ _ (by positivity), ← Nat.add_assoc, Nat.mul_assoc,
    Nat.add_mul_mod_self_left]

theorem toByte_storeByte {w : ℕ} (hw : 8 ≤ w) {widths : List ℕ} {field : ℕ → ℕ}
    (h : Packable w widths field) {s : ℕ → BitVec w} {k : ℕ}
    (hs : ∀ i < widths.length, s (k + i) = BitVec.ofNat w (field i)) (bit : ℕ) :
    toByte (storeByte s widths k bit) = UInt8.ofNat (packed widths field / 2 ^ bit) := by
  have hmod : ∀ {x y : ℕ}, x % 256 = y % 256 → UInt8.ofNat x = UInt8.ofNat y := fun hxy => by
    apply UInt8.toNat_inj.1
    rw [UInt8.toNat_ofNat', UInt8.toNat_ofNat']
    exact hxy
  -- on the fields; the position is counted from the first of those that are left
  induction widths generalizing field k bit with
  | nil => simp [storeByte, packed, toByte]
  | cons width widths ih =>
      have hfirst : s k = BitVec.ofNat w (field 0) := hs 0 (Nat.succ_pos _)
      cases widths with
      | nil =>
          rw [storeByte, hfirst, ofNat_sshiftRight h, toByte_ofNat hw, packed, packed]
          rfl
      | cons next widths =>
          obtain ⟨hfield, hwidth, hnext, hrest⟩ := h
          have hfits : 2 * field 0 < 2 ^ w := by
            have hpow : (2 : ℕ) ^ (width + 1) ≤ 2 ^ w := Nat.pow_le_pow_right two_pos hwidth
            rw [pow_succ] at hpow
            omega
          unfold storeByte
          split_ifs with hbit hinside
          · rw [hfirst, ofNat_sshiftRight hfits, toByte_ofNat hw]
            exact hmod (packed_byte_inside hinside _ _).symm
          · have hlow : field 0 / 2 ^ bit < 2 ^ (width - bit) := by
              apply Nat.div_lt_of_lt_mul
              rwa [← pow_add, Nat.add_sub_cancel' hbit.le]
            rw [hfirst, hs 1 (by simp), ofNat_sshiftRight hfits, ofNat_shiftLeft,
              ofNat_or_mul w hlow, toByte_ofNat hw]
            exact hmod (packed_byte_across hbit.le (by omega) _ _).symm
          · have hlater : ∀ i < (next :: widths).length,
                s (k + 1 + i) = BitVec.ofNat w (field (i + 1)) := by
              intro i hi
              rw [Nat.add_right_comm]
              exact hs (i + 1) (Nat.succ_lt_succ hi)
            rw [ih hrest hlater (bit - width), packed_div_of_le hfield (not_lt.1 hbit)]

theorem packable_of_lt {w : ℕ} {widths : List ℕ} {field : ℕ → ℕ}
    (hwidths : ∀ width ∈ widths, 8 ≤ width ∧ width < w)
    (hfield : ∀ i, i + 1 < widths.length → field i < 2 ^ widths.getD i 0)
    (hlast : ∀ i, i + 1 = widths.length → 2 * field i < 2 ^ w) : Packable w widths field := by
  induction widths generalizing field with
  | nil => trivial
  | cons width widths ih =>
      rw [List.forall_mem_cons] at hwidths
      cases widths with
      | nil => exact hlast 0 rfl
      | cons next widths =>
          refine ⟨hfield 0 (by simp), hwidths.1.2, (hwidths.2 next (by simp)).1, ?_⟩
          exact ih hwidths.2 (fun i hi => hfield (i + 1) (Nat.succ_lt_succ hi))
            fun i hi => hlast (i + 1) (congrArg (· + 1) hi)

/-- The bytes of a number in limbs. -/
theorem map_toByte_storeByte {w : ℕ} (hw : 8 ≤ w) (widths : List ℕ) (u : ℕ → ℤ)
    (hwidths : ∀ width ∈ widths, 8 ≤ width ∧ width < w)
    (hnonneg : ∀ i < widths.length, 0 ≤ u i)
    (hlt : ∀ i, i + 1 < widths.length → u i < 2 ^ widths.getD i 0)
    (hlast : ∀ i, i + 1 = widths.length → 2 * u i < 2 ^ w) {v : ℕ}
    (hv : ∑ i ∈ Finset.range widths.length, u i * 2 ^ (widths.take i).sum = (v : ℤ)) (n : ℕ) :
    (List.range n).map (fun k =>
        toByte (storeByte (fun i => BitVec.ofInt w (u i)) widths 0 (8 * k))) = leBytes n v := by
  have hfield : ∀ i < widths.length, ((u i).toNat : ℤ) = u i := fun i hi =>
    Int.toNat_of_nonneg (hnonneg i hi)
  have hpacked : packed widths (fun i => (u i).toNat) = v := by
    rw [packed_eq_sum]
    zify
    rw [← hv]
    exact Finset.sum_congr rfl fun i hi => by rw [hfield i (Finset.mem_range.1 hi)]
  have hpackable : Packable w widths fun i => (u i).toNat := by
    refine packable_of_lt hwidths (fun i hi => ?_) fun i hi => ?_
    · have hi' := hlt i hi
      rw [← hfield i (by omega)] at hi'
      exact_mod_cast hi'
    · have hi' := hlast i hi
      rw [← hfield i (by omega)] at hi'
      exact_mod_cast hi'
  have hlimb : ∀ i < widths.length,
      BitVec.ofInt w (u (0 + i)) = BitVec.ofNat w (u i).toNat := fun i hi => by
    rw [Nat.zero_add, ← hfield i hi, BitVec.ofInt_natCast, Int.toNat_natCast]
  rw [leBytes_eq_map]
  refine List.map_congr_left fun k _ => ?_
  rw [toByte_storeByte hw hpackable hlimb, hpacked, pow_mul]
  rfl

end Foundation
