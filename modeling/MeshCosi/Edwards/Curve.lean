import Mathlib.NumberTheory.LegendreSymbol.Basic
import MeshCosi.Edwards.Field
import MeshCosi.Foundation.EdwardsEval
import MeshCosi.Foundation.Primality

/-!
# The curve of Ed25519

The orders of the field and of the base point are prime, `d` is not a square, and the
base point has order `l`.  All of this is checked by evaluation.
-/

namespace MeshCosi.Edwards25519

open Foundation

/-! ## The two primes -/

/-- The primes from which the certificates start. -/
def smallPrimes : List ℕ :=
  [2, 3, 5, 7, 11, 13, 19, 23, 31, 41, 43, 47, 59, 73, 79, 97, 103, 107, 127, 131, 223, 269, 307,
    353, 419, 487, 991, 1361, 1723, 2437, 2551, 2851, 3727, 3797, 4153, 5879, 9463, 17231, 22111,
    30703, 32573]

theorem prime_of_mem_smallPrimes : ∀ q ∈ smallPrimes, q.Prime := by
  simp only [smallPrimes, List.forall_mem_cons]
  norm_num

/-- The last two certificates are those of `l` and of the order of the field. -/
def certificates : List Certificate :=
  [⟨34123, 2, [(2, 1), (3, 1), (11, 2), (47, 1)]⟩,
    ⟨37853, 2, [(2, 2), (9463, 1)]⟩,
    ⟨41081, 3, [(2, 3), (5, 1), (13, 1), (79, 1)]⟩,
    ⟨57467, 2, [(2, 1), (59, 1), (487, 1)]⟩,
    ⟨65147, 2, [(2, 1), (32573, 1)]⟩,
    ⟨75707, 2, [(2, 1), (37853, 1)]⟩,
    ⟨82163, 2, [(2, 1), (41081, 1)]⟩,
    ⟨132049, 26, [(2, 4), (3, 2), (7, 1), (131, 1)]⟩,
    ⟨132667, 5, [(2, 1), (3, 1), (22111, 1)]⟩,
    ⟨137849, 3, [(2, 3), (17231, 1)]⟩,
    ⟨409477, 2, [(2, 2), (3, 1), (34123, 1)]⟩,
    ⟨430751, 17, [(2, 1), (5, 3), (1723, 1)]⟩,
    ⟨531581, 2, [(2, 2), (5, 1), (7, 1), (3797, 1)]⟩,
    ⟨569003, 2, [(2, 1), (7, 1), (97, 1), (419, 1)]⟩,
    ⟨1224481, 13, [(2, 5), (3, 1), (5, 1), (2551, 1)]⟩,
    ⟨1923133, 2, [(2, 2), (3, 1), (43, 1), (3727, 1)]⟩,
    ⟨8574133, 2, [(2, 2), (3, 1), (7, 1), (103, 1), (991, 1)]⟩,
    ⟨14741173, 2, [(2, 2), (3, 2), (409477, 1)]⟩,
    ⟨58964693, 2, [(2, 2), (14741173, 1)]⟩,
    ⟨292386187, 2, [(2, 1), (3, 4), (307, 1), (5879, 1)]⟩,
    ⟨2773320623, 5, [(2, 1), (2437, 1), (569003, 1)]⟩,
    ⟨72106336199, 7, [(2, 1), (13, 1), (2773320623, 1)]⟩,
    ⟨213441916511, 13, [(2, 1), (5, 1), (73, 1), (292386187, 1)]⟩,
    ⟨1257559732178653, 2, [(2, 2), (3, 1), (7, 1), (23, 1), (531581, 1), (1224481, 1)]⟩,
    ⟨1919519569386763, 2,
      [(2, 1), (3, 1), (7, 1), (19, 1), (47, 2), (127, 1), (8574133, 1)]⟩,
    ⟨31757755568855353, 10,
      [(2, 3), (3, 1), (31, 1), (107, 1), (223, 1), (4153, 1), (430751, 1)]⟩,
    ⟨4434155615661930479, 17, [(2, 1), (41, 1), (43, 1), (1257559732178653, 1)]⟩,
    ⟨3044861653679985063343, 5,
      [(2, 1), (3, 1), (11, 1), (30703, 1), (82163, 1), (132667, 1), (137849, 1)]⟩,
    ⟨172054593956031949258510691, 2,
      [(2, 1), (5, 1), (1361, 1), (2851, 1), (4434155615661930479, 1)]⟩,
    ⟨198211423230930754013084525763697, 5,
      [(2, 4), (3, 1), (23, 1), (58964693, 1), (3044861653679985063343, 1)]⟩,
    ⟨75445702479781427272750846543864801, 7,
      [(2, 5), (3, 2), (5, 2), (75707, 1), (72106336199, 1), (1919519569386763, 1)]⟩,
    ⟨19757330305831588566944191468367130476339, 2,
      [(2, 1), (269, 1), (213441916511, 1), (172054593956031949258510691, 1)]⟩,
    ⟨276602624281642239937218680557139826668747, 2,
      [(2, 1), (7, 1), (19757330305831588566944191468367130476339, 1)]⟩,
    ⟨74058212732561358302231226437062788676166966415465897661863160754340907, 2,
      [(2, 1), (3, 1), (353, 1), (57467, 1), (132049, 1), (1923133, 1), (31757755568855353, 1),
        (75445702479781427272750846543864801, 1)]⟩,
    ⟨l, 2,
      [(2, 2), (3, 1), (11, 1), (198211423230930754013084525763697, 1),
        (276602624281642239937218680557139826668747, 1)]⟩,
    ⟨fieldPrime, 2,
      [(2, 2), (3, 1), (65147, 1),
        (74058212732561358302231226437062788676166966415465897661863160754340907, 1)]⟩]

theorem checksAll_certificates : Certificate.ChecksAll 255 smallPrimes certificates := by
  decide +kernel

theorem prime_l : l.Prime :=
  checksAll_certificates.prime prime_of_mem_smallPrimes l (by decide +kernel)

theorem prime_fieldPrime : fieldPrime.Prime :=
  checksAll_certificates.prime prime_of_mem_smallPrimes fieldPrime (by decide)

instance : Fact fieldPrime.Prime := ⟨prime_fieldPrime⟩

/-! ## The curve -/

/-- `d = -121665 / 121666`, as a number. -/
def dNat : ℕ := 37095705934669439343138083508754565189542113879843219016388785533085940283555

/-- A square root of -1, as a number. -/
def sqrtM1Nat : ℕ :=
  19681161376707505956807079304988542015446066515923890162744021073123829784752

theorem natCast_eq_iff (m n : ℕ) :
    (m : ZMod fieldPrime) = n ↔ m % fieldPrime = n % fieldPrime :=
  ZMod.natCast_eq_natCast_iff' m n fieldPrime

theorem sqrtM1Nat_sq : (sqrtM1Nat : ZMod fieldPrime) ^ 2 = -1 := by
  have h : ((sqrtM1Nat ^ 2 + 1 : ℕ) : ZMod fieldPrime) = (0 : ℕ) :=
    (natCast_eq_iff _ _).2 (by decide)
  push_cast at h
  linear_combination h

/-- The criterion of Euler, evaluated. -/
theorem not_isSquare_dNat : ¬IsSquare (dNat : ZMod fieldPrime) := by
  have hpow : powMod fieldPrime 255 dNat (fieldPrime / 2) ≠ 1 % fieldPrime := by decide +kernel
  rw [powMod_eq _ (by norm_num [fieldPrime])] at hpow
  have hne : (dNat : ZMod fieldPrime) ≠ 0 := by
    rw [← Nat.cast_zero, Ne, natCast_eq_iff]
    decide
  rw [ZMod.euler_criterion fieldPrime hne, ← Nat.cast_pow, ← Nat.cast_one, natCast_eq_iff]
  exact hpow

/-- The curve `-x^2 + y^2 = 1 + d x^2 y^2`. -/
def curve : EdwardsCurve (ZMod fieldPrime) where
  d := dNat
  i := sqrtM1Nat
  i_sq := sqrtM1Nat_sq
  not_isSquare_d := not_isSquare_dNat
  two_ne_zero := by
    rw [← Nat.cast_two, ← Nat.cast_zero, Ne, natCast_eq_iff]
    decide

/-- The points that the program computes with. -/
abbrev CurvePoint := curve.Point

/-! ## The base point -/

def baseX : ℕ := 15112221349535400772501151409588531511454012693041857206046113283949847762202

def baseY : ℕ := 46316835694926478169428394003475163141307993866256225615783033603165251855960

/-- The base point `(x, 4/5)` with `x` positive. -/
def basePoint : CurvePoint where
  x := baseX
  y := baseY
  onCurve := by
    have h : ((baseY ^ 2 : ℕ) : ZMod fieldPrime) =
        (1 + dNat * baseX ^ 2 * baseY ^ 2 + baseX ^ 2 : ℕ) :=
      (natCast_eq_iff _ _).2 (by decide)
    push_cast at h
    unfold EdwardsCurve.OnCurve
    change (baseY : ZMod fieldPrime) ^ 2 - (baseX : ZMod fieldPrime) ^ 2 =
      1 + (dNat : ZMod fieldPrime) * (baseX : ZMod fieldPrime) ^ 2 * (baseY : ZMod fieldPrime) ^ 2
    linear_combination h

theorem basePoint_evaluates : basePoint.Evaluates ⟨baseX, 1, baseY, 1⟩ := by
  refine ⟨?_, ?_, ?_, ?_⟩ <;> simp [basePoint]

/-- The order of the base point, evaluated with about 380 additions. -/
theorem addOrderOf_basePoint : addOrderOf basePoint = l := by
  have : Fact l.Prime := ⟨prime_l⟩
  have hfraction : (Fraction.mul fieldPrime dNat 253 l ⟨baseX, 1, baseY, 1⟩).a = 0 ∧
      (Fraction.mul fieldPrime dNat 253 l ⟨baseX, 1, baseY, 1⟩).b =
        (Fraction.mul fieldPrime dNat 253 l ⟨baseX, 1, baseY, 1⟩).w := by
    decide +kernel
  have hmul := basePoint_evaluates.mul rfl l_lt_two_pow
  refine addOrderOf_eq_prime (hmul.eq_zero ?_ ?_) ?_
  · rw [hfraction.1, Nat.cast_zero]
  · rw [hfraction.2]
  · intro hzero
    have hx : (baseX : ZMod fieldPrime) = (0 : ℕ) := by
      rw [Nat.cast_zero]
      exact congrArg EdwardsCurve.Point.x hzero
    rw [natCast_eq_iff] at hx
    revert hx
    decide

end MeshCosi.Edwards25519
