import Mathlib.NumberTheory.LucasPrimality
import Mathlib.Tactic.NormNum.Prime

/-!
# Certified primes

A number is prime if some `a` has order `n - 1` modulo `n`, which is checked with the
prime factors of `n - 1`.  A certificate lists numbers in such an order that the
factors of each have been certified before, and is checked by evaluation.
-/

namespace Foundation

/-- `a ^ e % m` for exponents below `2 ^ bits`. -/
def powMod (m : ℕ) : ℕ → ℕ → ℕ → ℕ
  | 0, _, _ => 1 % m
  | bits + 1, a, e =>
      let square := powMod m bits (a * a % m) (e / 2)
      if e % 2 = 0 then square else a * square % m

theorem powMod_eq (m : ℕ) {bits e : ℕ} (h : e < 2 ^ bits) (a : ℕ) :
    powMod m bits a e = a ^ e % m := by
  induction bits generalizing a e with
  | zero =>
      obtain rfl : e = 0 := by simpa using h
      rw [powMod, pow_zero]
  | succ bits ih =>
      have hhalf : (a * a % m) ^ (e / 2) % m = a ^ (2 * (e / 2)) % m := by
        rw [← Nat.pow_mod, pow_mul, pow_two]
      have he := Nat.div_add_mod e 2
      rw [powMod, ih (by omega), hhalf]
      split_ifs with hparity
      · rw [hparity, Nat.add_zero] at he
        rw [he]
      · rw [Nat.mod_two_ne_zero.1 hparity] at he
        rw [Nat.mul_mod_mod, ← pow_succ', he]

/-- A number, an element of order `number - 1`, and the factors of `number - 1` with
their exponents. -/
structure Certificate where
  number : ℕ
  witness : ℕ
  factors : List (ℕ × ℕ)

namespace Certificate

/-- The check of one number when the primes in `known` have been certified. -/
def Checks (bits : ℕ) (known : List ℕ) (c : Certificate) : Prop :=
  1 < c.number ∧ c.number ≤ 2 ^ bits ∧
    (c.factors.map fun f => f.1 ^ f.2).prod = c.number - 1 ∧
    powMod c.number bits c.witness (c.number - 1) = 1 ∧
    ∀ f ∈ c.factors, f.1 ∈ known ∧ powMod c.number bits c.witness ((c.number - 1) / f.1) ≠ 1

instance (bits : ℕ) (known : List ℕ) (c : Certificate) : Decidable (c.Checks bits known) :=
  inferInstanceAs (Decidable (_ ∧ _ ∧ _ ∧ _ ∧ _))

theorem Checks.prime {bits : ℕ} {known : List ℕ} {c : Certificate} (h : c.Checks bits known)
    (hknown : ∀ q ∈ known, q.Prime) : c.number.Prime := by
  obtain ⟨hone, hbits, hprod, hfull, hfactors⟩ := h
  have hcast : ∀ e ≤ c.number - 1,
      ((c.witness : ZMod c.number) ^ e = 1 ↔ powMod c.number bits c.witness e = 1) := by
    intro e he
    rw [powMod_eq _ (by omega), ← Nat.cast_pow, ← Nat.cast_one, ZMod.natCast_eq_natCast_iff',
      Nat.mod_eq_of_lt hone]
  refine lucas_primality c.number c.witness ((hcast _ le_rfl).2 hfull) fun q hq hdvd => ?_
  -- a prime that divides the product is one of the factors
  rw [← hprod, hq.prime.dvd_prod_iff] at hdvd
  obtain ⟨power, hpower, hdvd⟩ := hdvd
  obtain ⟨f, hf, rfl⟩ := List.mem_map.1 hpower
  obtain ⟨hmem, hne⟩ := hfactors f hf
  obtain rfl : q = f.1 := (Nat.prime_dvd_prime_iff_eq hq (hknown _ hmem)).1 (hq.dvd_of_dvd_pow hdvd)
  rw [Ne, hcast _ (Nat.div_le_self _ _)]
  exact hne

/-- Each certificate is checked with the primes before it. -/
def ChecksAll (bits : ℕ) : List ℕ → List Certificate → Prop
  | _, [] => True
  | known, c :: certificates =>
      c.Checks bits known ∧ ChecksAll bits (c.number :: known) certificates

instance ChecksAll.decidable (bits : ℕ) :
    (known : List ℕ) → (certificates : List Certificate) →
      Decidable (ChecksAll bits known certificates)
  | _, [] => .isTrue trivial
  | known, c :: certificates =>
      have := ChecksAll.decidable bits (c.number :: known) certificates
      inferInstanceAs (Decidable (_ ∧ _))

theorem ChecksAll.prime {bits : ℕ} {known : List ℕ} {certificates : List Certificate}
    (h : ChecksAll bits known certificates) (hknown : ∀ q ∈ known, q.Prime) :
    ∀ n ∈ certificates.map number, n.Prime := by
  induction certificates generalizing known with
  | nil => simp
  | cons c certificates ih =>
      have hprime := h.1.prime hknown
      exact List.forall_mem_cons.2 ⟨hprime, ih h.2 (List.forall_mem_cons.2 ⟨hprime, hknown⟩)⟩

end Certificate

end Foundation
