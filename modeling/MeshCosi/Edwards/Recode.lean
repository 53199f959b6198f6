import MeshCosi.Edwards.Field
import MeshCosi.Foundation.Digits

/-!
# Recoding scalars

The two scalar multiplications first rewrite the scalar with signed digits, in arrays
of `int8`.  `slide` goes up the bits and collects them into odd digits of absolute
value at most 15; where a digit would become too large it borrows from above, and the
loop that pays back may run to the end of the array.  `GeScalarMultBase` takes the
scalar in base 16 and moves the digits into the range from -8 to 8.  Both keep the
value as long as the scalar has no more than 255 bits.

`slide` is three loops in each other, and each has its own invariant.  In the
middle of the loop over `b` the array is divided like this:

```text
position   0 … i-1            i            i+1 … i+b-1   i+b … 255
digits     zero or odd, ≤ 15  odd, ≤ 15    zero          bits
           `Slid`             `Recoding`   `Collected`   `Bits`
```

* The loop over `k` (`slideCarry_spec`) adds `2^k` to the bits.  It loses the carry
  when all of them are set.
* The loop over `b` (`slideWindow_spec`) moves the bit at `i + b` into digit `i`:
  by adding it (`Recoding.add`), or by subtracting it and adding twice as much above
  (`Recoding.sub`).  Each keeps the value of the digits from `i` on.  That the carry
  is not lost is `Recoding.carry_le`: a digit that borrows is positive, so the
  digits above it are worth less than `2^255`, and they are a multiple of `2^(i+b)`.
* The loop over `i` (`Slid.step`) needs that the rest is at most `2^255` for this.

The second recoding has one loop: `Carried` holds before each digit, and since the
top digit is at most 7 the last carry still fits (`radixSigned_spec`).
-/

namespace MeshCosi.Edwards25519

open Foundation

/-! ## The sliding window -/

/-- The bits of a scalar, at the start of `slide`. -/
def slideBits (a : Block 32) : Limbs 8 256 :=
  List.Vector.ofFn fun i =>
    ((1 : UInt8) &&& (a.toList.getD (i.val >>> 3) 0 >>> UInt8.ofNat (i.val &&& 7))).toBitVec

/-- The loop over `k` in `slide`, at the positions that are left. -/
def slideCarry : List (Fin 256) → Limbs 8 256 → Limbs 8 256
  | [], r => r
  | k :: later, r => if r.get k = 0 then r.set k 1 else slideCarry later (r.set k 0)

/-- The loop over `b` in `slide`, from `b` on and for `n` more values. -/
def slideWindow (i : Fin 256) : ℕ → ℕ → Limbs 8 256 → Limbs 8 256
  | _, 0, r => r
  | b, n + 1, r =>
      if h : i + b < 256 then
        if r.get ⟨i + b, h⟩ ≠ 0 then
          let shifted := r.get ⟨i + b, h⟩ <<< b
          if (r.get i + shifted).sle 15 then
            slideWindow i (b + 1) n ((r.set i (r.get i + shifted)).set ⟨i + b, h⟩ 0)
          else if (-15#8).sle (r.get i - shifted) then
            slideWindow i (b + 1) n
              (slideCarry ((List.finRange 256).drop (i + b)) (r.set i (r.get i - shifted)))
          else r
        else slideWindow i (b + 1) n r
      else r

/-- `slide`. -/
def slide (a : Block 32) : Limbs 8 256 :=
  (List.finRange 256).foldl (fun r i => if r.get i ≠ 0 then slideWindow i 1 6 r else r)
    (slideBits a)

/-- The value of the digits from position `i` on. -/
abbrev slideTail (s : ℕ → ℤ) (i : ℕ) : ℤ := tailValue 2 256 s i

private theorem bit_of_byte : ∀ n < 256, ∀ i < 8,
    ((1 : UInt8) &&& (UInt8.ofNat n >>> UInt8.ofNat i)).toBitVec =
      BitVec.ofInt 8 (n / 2 ^ i % 2 : ℕ) := by
  decide +kernel

theorem holds_slideBits (a : Block 32) :
    Holds (slideBits a) fun i => (a.toNat / 2 ^ i % 2 : ℕ) := by
  rw [Holds, slideBits, toLimbs]
  congr 1
  funext k
  obtain ⟨i, -⟩ := k
  have hbit := bit_of_byte _ (a.toList.getD (i / 8) 0).toNat_lt (i % 8) (Nat.mod_lt _ (by norm_num))
  have hindex : i >>> 3 = i / 8 := Nat.shiftRight_eq_div_pow i 3
  have hrest : i &&& 7 = i % 8 := Nat.and_two_pow_sub_one_eq_mod i 3
  have hpow : 256 ^ (i / 8) * 2 ^ (i % 8) = 2 ^ i := by
    rw [show 256 = 2 ^ 8 by norm_num, ← pow_mul, ← pow_add, Nat.div_add_mod]
  have hdvd : 2 ^ (i % 8) * 2 ∣ 256 := by
    rw [← pow_succ]
    exact pow_dvd_pow 2 (Nat.mod_lt i (by norm_num))
  rw [UInt8.ofNat_toNat, ← leNat_div_mod, mod_div_mod _ hdvd, Nat.div_div_eq_div_mul, hpow] at hbit
  rw [hindex, hrest, hbit]
  rfl

/-- From position `k` on the digits are bits. -/
def Bits (s : ℕ → ℤ) (k : ℕ) : Prop := ∀ j, k ≤ j → j < 256 → s j = 0 ∨ s j = 1

theorem drop_finRange {k : ℕ} (hk : k < 256) :
    (List.finRange 256).drop k = ⟨k, hk⟩ :: (List.finRange 256).drop (k + 1) := by
  rw [List.drop_eq_getElem_cons (by simpa using hk), List.getElem_finRange]
  rfl

/-- The loop over `k` adds one, unless all bits are set. -/
theorem slideCarry_spec {k n : ℕ} (hkn : k + n = 256) {r : Limbs 8 256} {s : ℕ → ℤ}
    (hr : Holds r s) (hbits : Bits s k) (hfull : slideTail s k + 2 ^ k < 2 ^ 256) :
    ∃ t, Holds (slideCarry ((List.finRange 256).drop k) r) t ∧ (∀ j < k, t j = s j) ∧ Bits t k ∧
      (s k = 1 → t k = 0) ∧ slideTail t k = slideTail s k + 2 ^ k := by
  induction n generalizing k r s with
  | zero =>
      -- the end of the array is reached only if all bits are set
      obtain rfl : k = 256 := hkn
      rw [slideTail, tailValue_self] at hfull
      norm_num at hfull
  | succ n ih =>
      have hk : k < 256 := by omega
      rw [drop_finRange hk, slideCarry, hr.get hk]
      rcases hbits k le_rfl hk with hzero | hone
      · rw [hzero, if_pos (by decide)]
        refine ⟨_, hr.set hk 1, fun j hj => Function.update_of_ne hj.ne _ _, fun j hj hj' => ?_,
          fun hone => absurd hone (by norm_num), ?_⟩
        · rcases eq_or_ne j k with rfl | hne
          · exact Or.inr (Function.update_self _ _ _)
          · rw [Function.update_of_ne hne]
            exact hbits j hj hj'
        · rw [slideTail, tailValue_update le_rfl hk, hzero]
          ring
      · -- a one becomes a zero, and `2^k + 2^k` is carried to the next position
        rw [hone, if_neg (by decide)]
        have hset := hr.set hk 0
        have hsum : slideTail s k = 2 ^ k + slideTail s (k + 1) := by
          rw [slideTail, tailValue_eq_add hk, hone, one_mul]
        have hrest : slideTail (Function.update s k 0) (k + 1) = slideTail s (k + 1) :=
          tailValue_update_of_lt k.lt_succ_self 0
        have habove : Bits (Function.update s k 0) (k + 1) := fun j hj hj' => by
          rw [Function.update_of_ne (by omega)]
          exact hbits j (by omega) hj'
        obtain ⟨t, ht, hsame, hbits', -, hvalue⟩ :=
          ih (k := k + 1) (by omega) hset habove (by rw [hrest, pow_succ]; linarith)
        have htk : t k = 0 := (hsame k k.lt_succ_self).trans (Function.update_self _ _ _)
        refine ⟨t, ht, fun j hj => ?_, fun j hj hj' => ?_, fun _ => htk, ?_⟩
        · rw [hsame j (by omega), Function.update_of_ne hj.ne]
        · rcases eq_or_lt_of_le hj with rfl | hlt
          · exact Or.inl htk
          · exact hbits' j hlt hj'
        · rw [slideTail, tailValue_eq_add hk, htk]
          rw [slideTail, hrest] at hvalue
          rw [hvalue, hsum, pow_succ]
          ring

/-- Digit `i` has collected bits from above, where the digits still are bits. -/
structure Recoding (i : ℕ) (s : ℕ → ℤ) : Prop where
  odd : Odd (s i)
  bound : |s i| ≤ 15
  bits : Bits s (i + 1)
  value_le : slideTail s i ≤ 2 ^ 255
  rest_le : slideTail s (i + 1) ≤ 2 ^ 255

/-- The digits below `i` are the same, and the digits from `i` on have the same value. -/
def SameValue (i : ℕ) (s t : ℕ → ℤ) : Prop :=
  (∀ j < i, t j = s j) ∧ slideTail t i = slideTail s i

theorem SameValue.trans {i : ℕ} {s t u : ℕ → ℤ} (h : SameValue i s t) (h' : SameValue i t u) :
    SameValue i s u :=
  ⟨fun j hj => (h'.1 j hj).trans (h.1 j hj), h'.2.trans h.2⟩

/-- All digits between `i` and `i + b` have been collected. -/
def Collected (i b : ℕ) (s : ℕ → ℤ) : Prop := ∀ j, i < j → j < i + b → s j = 0

theorem Collected.tail_eq {i b : ℕ} {s : ℕ → ℤ} (hzero : Collected i b s) (hb : 1 ≤ b)
    (hib : i + b < 256) : slideTail s (i + 1) = slideTail s (i + b) :=
  tailValue_skip (by omega) hib.le fun j hj hj' => hzero j hj hj'

/-- A digit stays odd when it collects or borrows a bit from above. -/
theorem Recoding.odd_of_eq {i b : ℕ} {s : ℕ → ℤ} (hs : Recoding i s) (hb : 1 ≤ b) {x : ℤ}
    (hx : x = s i + 2 ^ b ∨ x = s i - 2 ^ b) : Odd x := by
  have heven : Even ((2 : ℤ) ^ b) := even_two.pow_of_ne_zero (by omega)
  rcases hx with rfl | rfl
  · exact hs.odd.add_even heven
  · exact hs.odd.sub_even heven

section Window

variable {i b : ℕ} {s : ℕ → ℤ} (hs : Recoding i s) (hzero : Collected i b s) (hb : 1 ≤ b)
  (hib : i + b < 256)

include hs hzero hb hib

/-- What the digit collects is taken from the digits above. -/
theorem Recoding.step {t : ℕ → ℤ} (hodd : Odd (t i)) (hbound : |t i| ≤ 15)
    (hsame : ∀ j < i + b, j ≠ i → t j = s j) (hbits : Bits t (i + b)) (htb : t (i + b) = 0)
    (hvalue : slideTail t (i + b) = slideTail s (i + b) + (s i - t i) * 2 ^ i)
    (hle : slideTail t (i + b) ≤ 2 ^ 255) :
    Recoding i t ∧ Collected i (b + 1) t ∧ SameValue i s t := by
  have hcollected : Collected i (b + 1) t := fun j hj hj' => by
    rcases Nat.lt_succ_iff_lt_or_eq.1 hj' with hlt | rfl
    · rw [hsame j hlt hj.ne']
      exact hzero j hj hlt
    · exact htb
  have htail : slideTail t (i + 1) = slideTail t (i + b) :=
    tailValue_skip (by omega) hib.le fun j hj hj' => hcollected j hj (by omega)
  have htotal : slideTail t i = slideTail s i := by
    have ht : slideTail t i = t i * 2 ^ i + slideTail t (i + 1) := tailValue_eq_add (by omega)
    have hs' : slideTail s i = s i * 2 ^ i + slideTail s (i + 1) := tailValue_eq_add (by omega)
    rw [ht, hs', htail, hvalue, hzero.tail_eq hb hib]
    ring
  refine ⟨⟨hodd, hbound, fun j hj hj' => ?_, htotal.trans_le hs.value_le, htail.trans_le hle⟩,
    hcollected, fun j hj => hsame j (by omega) hj.ne, htotal⟩
  rcases lt_or_ge j (i + b) with hlt | hge
  · exact Or.inl (hcollected j hj (by omega))
  · exact hbits j hge hj'

/-- A bit is collected. -/
theorem Recoding.add (hone : s (i + b) = 1) (hle : s i + 2 ^ b ≤ 15) :
    let t := Function.update (Function.update s i (s i + 2 ^ b)) (i + b) 0
    Recoding i t ∧ Collected i (b + 1) t ∧ SameValue i s t := by
  intro t
  have hne : i + b ≠ i := by omega
  have hti : t i = s i + 2 ^ b :=
    (Function.update_of_ne hne.symm _ _).trans (Function.update_self _ _ _)
  have hother : ∀ j, j ≠ i → j ≠ i + b → t j = s j := fun j hj hj' =>
    (Function.update_of_ne hj' _ _).trans (Function.update_of_ne hj _ _)
  have hvalue : slideTail t (i + b) = slideTail s (i + b) - 2 ^ (i + b) := by
    rw [slideTail, tailValue_update le_rfl hib, tailValue_update_of_lt (by omega),
      Function.update_of_ne hne, hone]
    ring
  have hpos : (0 : ℤ) < 2 ^ b := by positivity
  refine hs.step hzero hb hib (hs.odd_of_eq hb (Or.inl hti)) ?_
    (fun j hj hj' => hother j hj' hj.ne) (fun j hj hj' => ?_) (Function.update_self _ _ _) ?_ ?_
  · rw [hti]
    exact abs_le.2 ⟨by linarith [(abs_le.1 hs.bound).1], hle⟩
  · rcases eq_or_ne j (i + b) with rfl | hj''
    · exact Or.inl (Function.update_self _ _ _)
    · rw [hother j (by omega) hj'']
      exact hs.bits j (by omega) hj'
  · rw [hvalue, hti, pow_add]
    ring
  · have hpow : (0 : ℤ) < 2 ^ (i + b) := by positivity
    rw [hvalue, ← hzero.tail_eq hb hib]
    linarith [hs.rest_le]

/-- There is room for the carry of a borrowed bit. -/
theorem Recoding.carry_le (hle : -15 ≤ s i - 2 ^ b) (hlarge : 15 < s i + 2 ^ b) :
    slideTail s (i + b) + 2 ^ (i + b) ≤ 2 ^ 255 := by
  have hpos : 1 ≤ s i := by linarith
  have hlt : slideTail s (i + b) < 2 ^ 255 := by
    have hvalue := hs.value_le
    rw [slideTail, tailValue_eq_add (by omega), ← slideTail,
      hzero.tail_eq hb hib] at hvalue
    have hpow : (0 : ℤ) < 2 ^ i := by positivity
    nlinarith
  -- both sides are multiples of the power
  obtain ⟨m, hm⟩ := pow_dvd_tailValue 2 256 s (i + b)
  have hsplit : (2 : ℤ) ^ 255 = 2 ^ (i + b) * 2 ^ (255 - (i + b)) := by
    rw [← pow_add, Nat.add_sub_cancel' (by omega)]
  have hpow : (0 : ℤ) < 2 ^ (i + b) := by positivity
  rw [slideTail, hm] at hlt ⊢
  rw [hsplit] at hlt ⊢
  have hm' := lt_of_mul_lt_mul_left hlt hpow.le
  nlinarith

/-- A bit is borrowed. -/
theorem Recoding.sub (hone : s (i + b) = 1) (hle : -15 ≤ s i - 2 ^ b)
    (hlarge : 15 < s i + 2 ^ b) {r : Limbs 8 256} (hr : Holds r s) (hi : i < 256) :
    ∃ t, Holds (slideCarry ((List.finRange 256).drop (i + b))
        (r.set ⟨i, hi⟩ (BitVec.ofInt 8 (s i - 2 ^ b)))) t ∧
      Recoding i t ∧ Collected i (b + 1) t ∧ SameValue i s t := by
  have hroom := hs.carry_le hzero hb hib hle hlarge
  have hunchanged : slideTail (Function.update s i (s i - 2 ^ b)) (i + b) = slideTail s (i + b) :=
    tailValue_update_of_lt (by omega) _
  obtain ⟨t, ht, hsame, hbits, htb, hcarry⟩ := slideCarry_spec (k := i + b) (n := 256 - (i + b))
    (by omega) (hr.set hi (s i - 2 ^ b)) (fun j hj hj' => by
      rw [Function.update_of_ne (by omega)]
      exact hs.bits j (by omega) hj') (by rw [hunchanged]; exact hroom.trans_lt (by norm_num))
  rw [Function.update_of_ne (by omega)] at htb
  rw [hunchanged] at hcarry
  have hti : t i = s i - 2 ^ b := (hsame i (by omega)).trans (Function.update_self _ _ _)
  have hpos : (0 : ℤ) < 2 ^ b := by positivity
  refine ⟨t, ht, hs.step hzero hb hib (hs.odd_of_eq hb (Or.inr hti)) ?_
    (fun j hj hj' => (hsame j hj).trans (Function.update_of_ne hj' _ _)) hbits (htb hone) ?_
    (hcarry.trans_le hroom)⟩
  · rw [hti]
    exact abs_le.2 ⟨hle, by linarith [(abs_le.1 hs.bound).2]⟩
  · rw [hcarry, hti, pow_add]
    ring

end Window

/-- The loop over `b` keeps the value, whether it ends or breaks. -/
theorem slideWindow_spec {i b n : ℕ} (hb : 1 ≤ b) (hbn : b + n = 7) (hi : i < 256)
    {r : Limbs 8 256} {s : ℕ → ℤ} (hr : Holds r s) (hs : Recoding i s) (hzero : Collected i b s) :
    ∃ t, Holds (slideWindow ⟨i, hi⟩ b n r) t ∧ Recoding i t ∧ SameValue i s t := by
  induction n generalizing b r s with
  | zero => exact ⟨s, hr, hs, fun _ _ => rfl, rfl⟩
  | succ n ih =>
      have hstop : ∃ t, Holds r t ∧ Recoding i t ∧ SameValue i s t :=
        ⟨s, hr, hs, fun _ _ => rfl, rfl⟩
      have hnext : ∀ {r' : Limbs 8 256} {t : ℕ → ℤ}, Holds r' t →
          Recoding i t ∧ Collected i (b + 1) t ∧ SameValue i s t →
            ∃ u, Holds (slideWindow ⟨i, hi⟩ (b + 1) n r') u ∧ Recoding i u ∧ SameValue i s u := by
        rintro r' t hr' ⟨ht, hcollected, hsame⟩
        obtain ⟨u, hu, hrecoding, hsame'⟩ := ih (b := b + 1) (by omega) (by omega) hr' ht hcollected
        exact ⟨u, hu, hrecoding, hsame.trans hsame'⟩
      rw [slideWindow]
      by_cases hib : i + b < 256
      · rw [dif_pos hib, hr.get hib, hr.get hi]
        rcases hs.bits (i + b) (by omega) hib with hbit | hbit
        · rw [hbit, if_neg (by decide)]
          exact hnext hr <| hs.step hzero hb hib hs.odd hs.bound (fun _ _ _ => rfl)
            (fun j hj hj' => hs.bits j (by omega) hj') hbit (by ring)
            (by rw [← hzero.tail_eq hb hib]; exact hs.rest_le)
        · have hpow : (1 : ℤ) ≤ 2 ^ b ∧ (2 : ℤ) ^ b ≤ 2 ^ 6 :=
            ⟨one_le_pow₀ (by norm_num), pow_le_pow_right₀ (by norm_num) (by omega)⟩
          have hbound := abs_le.1 hs.bound
          -- a digit of at most 15 and a shifted bit of at most 64 fit into eight bits
          have hfits : ∀ x : ℤ, -79 ≤ x → x ≤ 79 → Fits 8 x := fun x hx hx' =>
            Fits.of_le (by decide) (by decide) hx hx'
          have hadd : (BitVec.ofInt 8 (s i + 2 ^ b)).sle 15 ↔ s i + 2 ^ b ≤ 15 :=
            (hfits _ (by linarith) (by linarith)).sle_ofInt (y := 15) (by decide)
          have hsub : (-15#8).sle (BitVec.ofInt 8 (s i - 2 ^ b)) ↔ -15 ≤ s i - 2 ^ b := by
            rw [show -15#8 = BitVec.ofInt 8 (-15) by decide]
            exact Fits.sle_ofInt (by decide) (hfits _ (by linarith) (by linarith))
          rw [hbit, if_pos (by decide)]
          simp only [ofInt_shiftLeft, one_mul, ← BitVec.ofInt_add, ← ofInt_sub, hadd, hsub]
          split_ifs with hle hle'
          · exact hnext ((hr.set hi _).set hib 0) (hs.add hzero hb hib hbit hle)
          · obtain ⟨t, ht, hrest⟩ := hs.sub hzero hb hib hbit hle' (not_le.1 hle) hr hi
            exact hnext ht hrest
          · -- `break`: the bits that are left are digits of their own
            exact hstop
      · rw [dif_neg hib]
        exact hstop

/-- What `slide` has reached when it comes to digit `i`. -/
structure Slid (v : ℤ) (i : ℕ) (s : ℕ → ℤ) : Prop where
  digits : ∀ j < i, s j = 0 ∨ Odd (s j) ∧ |s j| ≤ 15
  bits : Bits s i
  value : slideTail s 0 = v
  rest_le : slideTail s i ≤ 2 ^ 255

theorem Slid.step {v : ℤ} {i : ℕ} (hi : i < 256) {r : Limbs 8 256} {s : ℕ → ℤ} (hr : Holds r s)
    (hs : Slid v i s) :
    ∃ t, Holds (if r.get ⟨i, hi⟩ ≠ 0 then slideWindow ⟨i, hi⟩ 1 6 r else r) t ∧
      Slid v (i + 1) t := by
  have hhead : slideTail s i = s i * 2 ^ i + slideTail s (i + 1) := tailValue_eq_add hi
  have habove : Bits s (i + 1) := fun j hj => hs.bits j (by omega)
  have hrest := hs.rest_le
  rw [hr.get hi]
  rcases hs.bits i le_rfl hi with hbit | hbit
  · rw [hbit, if_neg (by decide)]
    rw [hhead, hbit, zero_mul, zero_add] at hrest
    refine ⟨s, hr, fun j hj => ?_, habove, hs.value, hrest⟩
    rcases Nat.lt_succ_iff_lt_or_eq.1 hj with hlt | rfl
    · exact hs.digits j hlt
    · exact Or.inl hbit
  · have hpow : (0 : ℤ) < 2 ^ i := by positivity
    rw [hbit, if_pos (by decide)]
    -- the window opens with the bit itself as its digit
    have hstart : Recoding i s := by
      refine ⟨by rw [hbit]; exact odd_one, by rw [hbit]; norm_num, habove, hrest, ?_⟩
      rw [hhead, hbit] at hrest
      linarith
    obtain ⟨t, ht, hrecoding, hsame, hvalue⟩ :=
      slideWindow_spec (n := 6) le_rfl rfl hi hr hstart fun j hj hj' => absurd hj (by omega)
    refine ⟨t, ht, fun j hj => ?_, hrecoding.bits, ?_, hrecoding.rest_le⟩
    · rcases Nat.lt_succ_iff_lt_or_eq.1 hj with hlt | rfl
      · rw [hsame j hlt]
        exact hs.digits j hlt
      · exact Or.inr ⟨hrecoding.odd, hrecoding.bound⟩
    · rw [← hs.value]
      exact tailValue_zero_congr hi.le hsame hvalue

/-- `slide` rewrites a scalar of 255 bits with digits that are zero or odd and at most 15
in absolute value, and keeps its value.  The carry of a larger scalar may be lost. -/
theorem slide_spec {a : Block 32} (ha : a.toNat ≤ 2 ^ 255) :
    ∃ s, Holds (slide a) s ∧ (∀ j < 256, s j = 0 ∨ Odd (s j) ∧ |s j| ≤ 15) ∧
      ∑ j ∈ Finset.range 256, s j * 2 ^ j = a.toNat := by
  have hvalue : slideTail (fun i => (a.toNat / 2 ^ i % 2 : ℕ)) 0 = a.toNat := by
    rw [slideTail, tailValue_zero]
    have hlt : a.toNat < 2 ^ 256 := ha.trans_lt (by norm_num)
    exact_mod_cast sum_digits_of_lt hlt
  have hstart : Slid a.toNat 0 fun i => (a.toNat / 2 ^ i % 2 : ℕ) := by
    refine ⟨fun j hj => absurd hj (Nat.not_lt_zero j), fun j _ _ => ?_, hvalue, ?_⟩
    · exact_mod_cast Nat.mod_two_eq_zero_or_one (a.toNat / 2 ^ j)
    · rw [hvalue]
      exact_mod_cast ha
  obtain ⟨s, hr, hs⟩ : ∃ s, Holds (slide a) s ∧ Slid a.toNat 256 s :=
    foldl_finRange_induction (motive := fun i r => ∃ s, Holds r s ∧ Slid a.toNat i s)
      ⟨_, holds_slideBits a, hstart⟩ fun i _ ⟨_, hr, hs⟩ => hs.step i.isLt hr
  exact ⟨s, hr, hs.digits, (tailValue_zero 2 256 s).symm.trans hs.value⟩

/-! ## Signed digits in base 16 -/

/-- The digits of a scalar in base 16, at the start of `GeScalarMultBase`: `e[2*i]` and
`e[2*i+1]` come from byte `i`. -/
def radixDigits (a : Block 32) : Limbs 8 64 :=
  List.Vector.ofFn fun k =>
    let v := a.toList.getD (k.val / 2) 0
    if k.val % 2 = 0 then (v &&& 15).toBitVec else ((v >>> 4) &&& 15).toBitVec

/-- One round of the loop over the carry. -/
def radixStep (state : Limbs 8 64 × BitVec 8) (i : Fin 64) : Limbs 8 64 × BitVec 8 :=
  let e := state.1.set i (state.1.get i + state.2)
  let carry := (e.get i + 8).sshiftRight 4
  (e.set i (e.get i - carry <<< 4), carry)

/-- The digits that `GeScalarMultBase` works with. -/
def radixSigned (a : Block 32) : Limbs 8 64 :=
  let state := (List.finRange 63).foldl (fun state i => radixStep state i.castSucc)
    (radixDigits a, 0)
  state.1.set 63 (state.1.get 63 + state.2)

private theorem digits_of_byte : ∀ n < 256,
    (UInt8.ofNat n &&& 15).toBitVec = BitVec.ofInt 8 (n % 16 : ℕ) ∧
      ((UInt8.ofNat n >>> 4) &&& 15).toBitVec = BitVec.ofInt 8 (n / 16 % 16 : ℕ) := by
  decide +kernel

theorem holds_radixDigits (a : Block 32) :
    Holds (radixDigits a) fun k => (a.toNat / 16 ^ k % 16 : ℕ) := by
  rw [Holds, radixDigits, toLimbs]
  congr 1
  funext i
  obtain ⟨k, -⟩ := i
  obtain ⟨hlow, hhigh⟩ := digits_of_byte _ (a.toList.getD (k / 2) 0).toNat_lt
  rw [UInt8.ofNat_toNat, ← leNat_div_mod] at hlow hhigh
  rw [Nat.mod_mod_of_dvd _ (by norm_num)] at hlow
  rw [mod_div_mod _ (by norm_num), Nat.div_div_eq_div_mul] at hhigh
  have hpow : 256 ^ (k / 2) = 16 ^ (2 * (k / 2)) := by
    rw [pow_mul]
    norm_num
  rw [hpow] at hlow hhigh
  rw [← pow_succ] at hhigh
  dsimp only
  split_ifs with hparity
  · rw [hlow, show 2 * (k / 2) = k by omega]
    rfl
  · rw [hhigh, show 2 * (k / 2) + 1 = k by omega]
    rfl

/-- What the loop over the carry has reached when it comes to digit `i`. -/
structure Carried (v : ℤ) (i : ℕ) (s : ℕ → ℤ) (c : ℤ) : Prop where
  carry : 0 ≤ c ∧ c ≤ 1
  signed : ∀ j < i, -8 ≤ s j ∧ s j ≤ 8
  rest : ∀ j, i ≤ j → 0 ≤ s j ∧ s j ≤ 15
  top : s 63 ≤ 7
  value : tailValue 16 64 s 0 + c * 16 ^ i = v

theorem Carried.step {v : ℤ} {i : ℕ} (hi : i < 63) (hi' : i < 64)
    {state : Limbs 8 64 × BitVec 8} {s : ℕ → ℤ} {c : ℤ} (hr : Holds state.1 s)
    (hcarry : state.2 = BitVec.ofInt 8 c) (hs : Carried v i s c) :
    ∃ t c', Holds (radixStep state ⟨i, hi'⟩).1 t ∧
      (radixStep state ⟨i, hi'⟩).2 = BitVec.ofInt 8 c' ∧ Carried v (i + 1) t c' := by
  obtain ⟨hlow, hhigh⟩ := hs.rest i le_rfl
  obtain ⟨hc, hc'⟩ := hs.carry
  have hsum := hr.set hi' (s i + c)
  rw [BitVec.ofInt_add, ← hr.get hi', ← hcarry] at hsum
  have hdigit := hsum.get hi'
  rw [Function.update_self] at hdigit
  have hnext : ((state.1.set ⟨i, hi'⟩ (state.1.get ⟨i, hi'⟩ + state.2)).get ⟨i, hi'⟩ +
      8).sshiftRight 4 = BitVec.ofInt 8 ((s i + c + 8) >>> (4 : ℕ)) := by
    have hfits : Fits 8 (s i + c + 8) :=
      Fits.of_le (by decide : Fits 8 8) (by decide : Fits 8 24) (by linarith) (by linarith)
    rw [← hfits.ofInt_sshiftRight, BitVec.ofInt_add, hdigit]
    rfl
  have hshift : (s i + c + 8) >>> (4 : ℕ) = (s i + c + 8) / 16 := Int.shiftRight_eq_div_pow _ 4
  have hset := hsum.set hi' (s i + c - (s i + c + 8) / 16 * 2 ^ 4)
  rw [ofInt_sub, ← hdigit, ← ofInt_shiftLeft, ← hshift, ← hnext, Function.update_idem,
    hshift] at hset
  refine ⟨_, _, hset, hnext.trans (congrArg _ hshift), ⟨by omega, by omega⟩, fun j hj => ?_,
    fun j hj => ?_, ?_, ?_⟩
  · rcases Nat.lt_succ_iff_lt_or_eq.1 hj with hlt | rfl
    · rw [Function.update_of_ne hlt.ne]
      exact hs.signed j hlt
    · rw [Function.update_self]
      omega
  · rw [Function.update_of_ne (by omega)]
    exact hs.rest j (by omega)
  · rw [Function.update_of_ne (by omega)]
    exact hs.top
  · rw [tailValue_update (Nat.zero_le i) hi', ← hs.value, pow_succ]
    ring

/-- The digits of a scalar of 255 bits are between -8 and 8, and keep its value. -/
theorem radixSigned_spec {a : Block 32} (ha : a.toNat < 2 ^ 255) :
    ∃ s, Holds (radixSigned a) s ∧ (∀ j < 64, -8 ≤ s j ∧ s j ≤ 8) ∧
      ∑ j ∈ Finset.range 64, s j * 16 ^ j = a.toNat := by
  have hstart : Carried a.toNat 0 (fun k => (a.toNat / 16 ^ k % 16 : ℕ)) 0 := by
    refine ⟨by norm_num, fun j hj => absurd hj (Nat.not_lt_zero j), fun j _ => ?_, ?_, ?_⟩
    · omega
    · have htop : a.toNat / 16 ^ 63 < 8 := Nat.div_lt_of_lt_mul (ha.trans_eq (by norm_num))
      omega
    · have hlt : a.toNat < 16 ^ 64 := ha.trans (by norm_num)
      rw [zero_mul, add_zero, tailValue_zero]
      exact_mod_cast sum_digits_of_lt hlt
  obtain ⟨s, c, hr, hc, hs⟩ := foldl_finRange_induction (motive := fun i state => ∃ s c,
      Holds state.1 s ∧ state.2 = BitVec.ofInt 8 c ∧ Carried a.toNat i s c)
    (f := fun state (i : Fin 63) => radixStep state i.castSucc) (b := (radixDigits a, 0))
    ⟨_, _, holds_radixDigits a, rfl, hstart⟩
    fun i _ ⟨_, _, hr, hc, hs⟩ => hs.step i.isLt i.castSucc.isLt hr hc
  -- the last carry is added to the top digit, without another carry
  have hlast := hr.set (by norm_num : 63 < 64) (s 63 + c)
  rw [BitVec.ofInt_add, ← hr.get (by norm_num), ← hc] at hlast
  refine ⟨_, hlast, fun j hj => ?_, ?_⟩
  · rcases Nat.lt_succ_iff_lt_or_eq.1 hj with hlt | rfl
    · rw [Function.update_of_ne hlt.ne]
      exact hs.signed j hlt
    · have hcarry := hs.carry
      have hdigit := (hs.rest 63 le_rfl).1
      have htop := hs.top
      rw [Function.update_self]
      omega
  · rw [← tailValue_zero, tailValue_update (Nat.zero_le 63) (by norm_num), ← hs.value]
    ring

end MeshCosi.Edwards25519
