import Mathlib.Data.Int.ModEq
import Mathlib.Algebra.Order.Ring.Int
import Mathlib.Algebra.Order.Ring.Abs
import Mathlib.Tactic.Linarith

/-!
# Machine integers over `Int`

Signed machine arithmetic is arithmetic over `Int` followed by a wrap into the
signed range, and C's remainder truncates toward zero.
-/

namespace RideHailing.Arithmetic

/-- The value of an integer kept in a signed 32-bit object. -/
def wrap32 (value : Int) : Int :=
  value.bmod (2 ^ 32)

/-- The value of an integer kept in a signed 64-bit object. -/
def wrap64 (value : Int) : Int :=
  value.bmod (2 ^ 64)

theorem wrap32_eq_self {value : Int} (lower : -2 ^ 31 ≤ value) (upper : value < 2 ^ 31) :
    wrap32 value = value :=
  Int.bmod_eq_of_le (by norm_num; exact lower) (by norm_num; exact upper)

theorem wrap64_eq_self {value : Int} (lower : -2 ^ 63 ≤ value) (upper : value < 2 ^ 63) :
    wrap64 value = value :=
  Int.bmod_eq_of_le (by norm_num; exact lower) (by norm_num; exact upper)

/-- Wrapping once at the end is enough. -/
theorem wrap32_wrap32_add (first second : Int) :
    wrap32 (wrap32 first + second) = wrap32 (first + second) :=
  Int.bmod_add_bmod

theorem wrap64_wrap64_add (first second : Int) :
    wrap64 (wrap64 first + second) = wrap64 (first + second) :=
  Int.bmod_add_bmod

/-- Incrementing a 32-bit object always changes it, also when it wraps. -/
theorem wrap32_add_one_ne (value : Int) : wrap32 (value + 1) ≠ value := by
  intro fixed
  have congruent : ((value + 1).bmod (2 ^ 32)) % (2 ^ 32 : Nat) = (value + 1) % (2 ^ 32 : Nat) :=
    Int.bmod_emod
  rw [wrap32] at fixed
  rw [fixed] at congruent
  norm_num at congruent
  omega

/-- C's remainder is congruent to its dividend. -/
theorem tmod_modEq (value modulus : Int) : value.tmod modulus ≡ value [ZMOD modulus] := by
  rw [Int.modEq_iff_dvd]
  exact ⟨value.tdiv modulus, by have := Int.tmod_add_mul_tdiv value modulus; linarith⟩

theorem abs_tmod_lt (value : Int) {modulus : Int} (positive : 0 < modulus) :
    |value.tmod modulus| < modulus := by
  rw [abs_lt]
  exact ⟨Int.lt_tmod_of_pos value positive, Int.tmod_lt_of_pos value positive⟩

/-- A product of two numbers below a modulus whose predecessor squared fits 64
bits fits them as well. -/
theorem mul_bounds {first second modulus : Int} (firstSmall : |first| < modulus)
    (secondSmall : |second| < modulus) (fits : (modulus - 1) ^ 2 < 2 ^ 63) :
    -2 ^ 63 ≤ first * second ∧ first * second < 2 ^ 63 := by
  have product : |first * second| ≤ (modulus - 1) ^ 2 := by
    rw [abs_mul, pow_two]
    exact mul_le_mul (by omega) (by omega) (abs_nonneg second) (by
      have := abs_nonneg first
      omega)
  have bounds := abs_le.mp product
  exact ⟨by omega, by omega⟩

/-- Such a product is computed without overflow. -/
theorem wrap64_mul {first second modulus : Int} (firstSmall : |first| < modulus)
    (secondSmall : |second| < modulus) (fits : (modulus - 1) ^ 2 < 2 ^ 63) :
    wrap64 (first * second) = first * second := by
  obtain ⟨lower, upper⟩ := mul_bounds firstSmall secondSmall fits
  exact wrap64_eq_self lower upper

end RideHailing.Arithmetic
