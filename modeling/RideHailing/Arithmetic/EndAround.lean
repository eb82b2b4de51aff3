import Mathlib.Data.Nat.ModEq
import Mathlib.Tactic.Ring

/-!
# Sums with end-around carry

Let `m + 1` be the base in which a sum is kept.  Adding the carry of a sum back
into its low digit does not change the sum modulo `m`, so that repeating it
replaces the sum by a representative modulo `m`: zero for the sum zero, a number
from `1` to `m` for every other one.
-/

namespace RideHailing.Arithmetic

variable {m n : Nat}

/-- The representative of a sum modulo `m`. -/
def representative (m n : Nat) : Nat :=
  if n = 0 then 0 else (n - 1) % m + 1

@[simp]
theorem representative_zero (m : Nat) : representative m 0 = 0 :=
  rfl

theorem representative_of_ne_zero (nonzero : n ≠ 0) :
    representative m n = (n - 1) % m + 1 :=
  if_neg nonzero

theorem representative_le (positive : 0 < m) (n : Nat) : representative m n ≤ m := by
  by_cases zero : n = 0
  · rw [zero, representative_zero]
    exact Nat.zero_le m
  · rw [representative_of_ne_zero zero]
    exact Nat.mod_lt (n - 1) positive

/-- A sum without carry represents itself. -/
theorem representative_of_le (small : n ≤ m) : representative m n = n := by
  by_cases zero : n = 0
  · rw [zero, representative_zero]
  · rw [representative_of_ne_zero zero, Nat.mod_eq_of_lt (by omega)]
    omega

theorem representative_add_mul (nonzero : n ≠ 0) (k : Nat) :
    representative m (n + m * k) = representative m n := by
  have shifted : n + m * k - 1 = n - 1 + m * k := by omega
  rw [representative_of_ne_zero nonzero, representative_of_ne_zero (by omega), shifted,
    Nat.add_mul_mod_self_left]

/-- Adding the carry back keeps the representative. -/
theorem representative_carry (m n : Nat) :
    representative m (n % (m + 1) + n / (m + 1)) = representative m n := by
  have division : n = (n % (m + 1) + n / (m + 1)) + m * (n / (m + 1)) := by
    conv_lhs => rw [← Nat.mod_add_div n (m + 1)]
    ring
  by_cases zero : n % (m + 1) + n / (m + 1) = 0
  · have quotient : n / (m + 1) = 0 := (Nat.add_eq_zero_iff.mp zero).2
    rw [zero, quotient, Nat.mul_zero] at division
    rw [zero, division]
  · conv_rhs => rw [division]
    rw [representative_add_mul zero]

/-- Two sums whose distance is positive and below `m` have different
representatives, also when one of them is zero. -/
theorem representative_ne {distance : Nat} (positive : 0 < distance) (small : distance < m) :
    representative m n ≠ representative m (n + distance) := by
  intro same
  by_cases zero : n = 0
  · rw [zero, representative_zero, representative_of_ne_zero (by omega)] at same
    omega
  · rw [representative_of_ne_zero zero, representative_of_ne_zero (by omega)] at same
    have congruent : n - 1 ≡ n - 1 + distance [MOD m] := by
      have shifted : n + distance - 1 = n - 1 + distance := by omega
      rw [shifted] at same
      exact Nat.succ.inj same
    have divides : m ∣ distance := by
      have difference := (Nat.modEq_iff_dvd' (Nat.le_add_right _ _)).mp congruent
      rwa [Nat.add_sub_cancel_left] at difference
    exact absurd (Nat.le_of_dvd positive divides) (Nat.not_le.mpr small)

end RideHailing.Arithmetic
