import Mathlib.Algebra.Field.ZMod
import MeshCosi.Foundation.Edwards

/-!
# Evaluating multiples of a point

On a curve over `ZMod p` points are computed as fractions of natural numbers, without
any division, so that statements about particular multiples can be evaluated.
-/

namespace Foundation

/-- Two fractions `a / z` and `b / w` of remainders. -/
structure Fraction where
  a : ℕ
  z : ℕ
  b : ℕ
  w : ℕ
  deriving DecidableEq, Repr

namespace Fraction

/-- The addition law on a curve modulo `p`. -/
def add (p d : ℕ) (s t : Fraction) : Fraction :=
  let zw := s.z * s.w % p * (t.z * t.w % p) % p
  let dab := d * (s.a * t.a % p) % p * (s.b * t.b % p) % p
  { a := (s.a * t.b % p * (s.w * t.z % p) + t.a * s.b % p * (s.z * t.w % p)) % p
    z := (zw + dab) % p
    b := (s.b * t.b % p * (s.z * t.z % p) + s.a * t.a % p * (s.w * t.w % p)) % p
    w := (zw + (p - dab)) % p }

/-- `n` times a point, for `n` below `2 ^ bits`. -/
def mul (p d : ℕ) : ℕ → ℕ → Fraction → Fraction
  | 0, _, _ => ⟨0, 1, 1, 1⟩
  | bits + 1, n, s =>
      let double := mul p d bits (n / 2) (add p d s s)
      if n % 2 = 0 then double else add p d s double

end Fraction

namespace EdwardsCurve.Point

variable {p d : ℕ} [Fact p.Prime] {E : EdwardsCurve (ZMod p)}

/-- The fractions are the coordinates of a point. -/
def Evaluates (P : E.Point) (s : Fraction) : Prop :=
  P.IsFraction (s.a : ZMod p) (s.z : ZMod p) (s.b : ZMod p) (s.w : ZMod p)

theorem evaluates_zero : (0 : E.Point).Evaluates ⟨0, 1, 1, 1⟩ := by
  refine ⟨?_, ?_, ?_, ?_⟩ <;> simp

theorem Evaluates.add (hd : (d : ZMod p) = E.d) {P Q : E.Point} {s t : Fraction}
    (hP : P.Evaluates s) (hQ : Q.Evaluates t) : (P + Q).Evaluates (s.add p d t) := by
  have hsum := IsFraction.add hP hQ
  have hdab : d * (s.a * t.a % p) % p * (s.b * t.b % p) % p ≤ p :=
    (Nat.mod_lt _ (NeZero.pos p)).le
  unfold Evaluates Fraction.add
  dsimp only
  convert hsum using 1
  · push_cast [ZMod.natCast_mod]
    ring
  · push_cast [ZMod.natCast_mod]
    rw [hd]
    ring
  · push_cast [ZMod.natCast_mod]
    ring
  · push_cast [ZMod.natCast_mod, Nat.cast_sub hdab]
    rw [ZMod.natCast_self, hd]
    ring

theorem Evaluates.mul (hd : (d : ZMod p) = E.d) {P : E.Point} {s : Fraction} (hP : P.Evaluates s)
    {bits n : ℕ} (hn : n < 2 ^ bits) : (n • P).Evaluates (Fraction.mul p d bits n s) := by
  induction bits generalizing n P s with
  | zero =>
      obtain rfl : n = 0 := by simpa using hn
      rw [zero_smul]
      exact evaluates_zero
  | succ bits ih =>
      have hhalf := ih (hP.add hd hP) (n := n / 2) (by omega)
      rw [← two_nsmul, ← mul_nsmul, mul_comm] at hhalf
      unfold Fraction.mul
      dsimp only
      split_ifs with hparity
      · rwa [show n / 2 * 2 = n by omega] at hhalf
      · have hodd : n • P = P + (n / 2 * 2) • P := by
          rw [← succ_nsmul', show n / 2 * 2 + 1 = n by omega]
        rw [hodd]
        exact hP.add hd hhalf

/-- A multiple vanishes if its fractions say so. -/
theorem Evaluates.eq_zero {P : E.Point} {s : Fraction} (hP : P.Evaluates s)
    (hx : (s.a : ZMod p) = 0) (hy : (s.b : ZMod p) = s.w) : P = 0 :=
  IsFraction.ext hP evaluates_zero (by simp [hx]) (by simp [hy])

end EdwardsCurve.Point

end Foundation
