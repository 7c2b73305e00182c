import Mathlib
import AdaptiveStep.Number.Root

/-!
# The integer square root

`integerRoot n` is the greatest natural number whose square is at most `n`.
-/

namespace AdaptiveStep

theorem rootBelow_spec (k n : Nat) (h : n < 4 ^ k) :
    rootBelow k n * rootBelow k n ≤ n ∧ n < (rootBelow k n + 1) * (rootBelow k n + 1) := by
  induction k generalizing n with
  | zero => simp [rootBelow]; simpa using h
  | succ k ih =>
    have hn : n / 4 < 4 ^ k := by
      rw [Nat.div_lt_iff_lt_mul (by decide)]
      simpa [Nat.pow_succ] using h
    obtain ⟨lower, upper⟩ := ih (n / 4) hn
    simp only [rootBelow]
    generalize rootBelow k (n / 4) = r at lower upper
    have square (m : Nat) : (2 * m) * (2 * m) = 4 * (m * m) := by
      rw [Nat.mul_mul_mul_comm]
    have successor (m : Nat) : (m + 1) * (m + 1) = m * m + 2 * m + 1 := by
      rw [Nat.add_mul, Nat.mul_add]; omega
    have lower' : (2 * r) * (2 * r) ≤ n := by rw [square]; omega
    have upper' : n < (2 * r + 2) * (2 * r + 2) := by
      rw [show 2 * r + 2 = 2 * (r + 1) by omega, square]; omega
    split
    · rename_i hle
      exact ⟨hle, upper'⟩
    · rename_i hlt
      exact ⟨lower', by omega⟩

theorem integerRoot_spec (n : Nat) :
    integerRoot n * integerRoot n ≤ n ∧ n < (integerRoot n + 1) * (integerRoot n + 1) := by
  apply rootBelow_spec
  calc
    n < 2 ^ (n.log2 + 1) := Nat.lt_log2_self
    _ ≤ 2 ^ (2 * (n.log2 / 2 + 1)) := Nat.pow_le_pow_right (by decide) (by omega)
    _ = 4 ^ (n.log2 / 2 + 1) := by rw [Nat.pow_mul]

end AdaptiveStep
