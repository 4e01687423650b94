/-!
# Digits of a natural number

The decimal of a natural number has digits only, and starts with a zero only if the number is zero.
-/

namespace SensorHost

theorem isDigit_toDigits (n : Nat) : ∀ c ∈ Nat.toDigits 10 n, c.isDigit :=
  fun _ mem => Nat.isDigit_of_mem_toDigits (by decide) (by decide) mem

/-- The digits of a positive number do not start with a zero. -/
theorem head?_toDigits {n : Nat} (pos : 0 < n) : (Nat.toDigits 10 n).head? ≠ some '0' := by
  induction n using Nat.strongRecOn with
  | ind n ih =>
      by_cases small : n < 10
      · rw [Nat.toDigits_of_lt_base small]
        have digits : ∀ d < 10, 0 < d → [Nat.digitChar d].head? ≠ some '0' := by decide
        exact digits n small pos
      · have above : 10 ≤ n := Nat.le_of_not_lt small
        have next := ih (n / 10) (by omega) (by omega)
        rw [Nat.toDigits_of_base_le (by decide) above]
        cases digits : Nat.toDigits 10 (n / 10) with
        | nil => exact absurd digits Nat.toDigits_ne_nil
        | cons d ds =>
            rw [digits] at next
            exact next

end SensorHost
