import Mathlib.Algebra.BigOperators.Group.List.Basic
import Mathlib.Algebra.BigOperators.Ring.List
import Mathlib.Algebra.Module.Basic
import Mathlib.GroupTheory.OrderOfElement
import Mathlib.Tactic.Abel

/-!
# The algebra of Schnorr multisignatures

Signers with secret keys `x i` and one-time nonces `y i` answer one challenge
`h` with `h * x i + y i`.  Over a base point `B` the sum of the answers is
`h` times the sum of the public keys plus the sum of the commitments, and
reducing answers modulo the order of `B` changes nothing.
-/

namespace Foundation

variable {ι G : Type*} [AddCommGroup G]

/-- The summed responses open the summed commitments. -/
theorem sum_responses_nsmul (signers : List ι) (x y : ι → ℕ) (h : ℕ) (B : G) :
    (signers.map fun i => h * x i + y i).sum • B =
      h • (signers.map fun i => x i • B).sum + (signers.map fun i => y i • B).sum := by
  induction signers with
  | nil => simp
  | cons i signers ih =>
      simp only [List.map_cons, List.sum_cons]
      calc (h * x i + y i + (signers.map fun i => h * x i + y i).sum) • B
          = h • x i • B + y i • B + (h • (signers.map fun i => x i • B).sum +
              (signers.map fun i => y i • B).sum) := by
            rw [add_nsmul, add_nsmul, ih, mul_nsmul']
        _ = h • (x i • B + (signers.map fun i => x i • B).sum) +
              (y i • B + (signers.map fun i => y i • B).sum) := by
            rw [nsmul_add]
            abel

/-- Parts checked one by one add up: the points that each response leaves
after taking away the challenged key sum to what the summed response leaves. -/
theorem sum_openings (signers : List ι) (s : ι → ℕ) (K : ι → G) (h : ℕ) (B : G) :
    (signers.map fun i => s i • B - h • K i).sum =
      (signers.map s).sum • B - h • (signers.map K).sum := by
  induction signers with
  | nil => simp
  | cons i signers ih =>
      simp only [List.map_cons, List.sum_cons]
      rw [ih, add_nsmul, nsmul_add]
      abel

/-- Reducing every summand modulo `q` does not change the sum modulo `q`. -/
theorem sum_map_mod (q : ℕ) (parts : List ι) (f : ι → ℕ) :
    (parts.map fun i => f i % q).sum % q = (parts.map f).sum % q := by
  induction parts with
  | nil => rfl
  | cons i parts ih =>
      rw [List.map_cons, List.sum_cons, List.map_cons, List.sum_cons]
      calc (f i % q + (parts.map fun i => f i % q).sum) % q
          = (f i % q + (parts.map fun i => f i % q).sum % q) % q := by
            rw [Nat.mod_add_mod, Nat.add_mod]
        _ = (f i + (parts.map f).sum) % q := by rw [ih, ← Nat.add_mod]

end Foundation
