import RideHailing.Arithmetic.Operands
import RideHailing.Common.Crypto

/-!
# The products of `power_mod`

The loop of `power_mod` multiplies in `long long`.  Here it is repeated with a
log of the operands, and everything that is known about the function is put
together: no product overflows, and the result is the power modulo the modulus.
-/

namespace RideHailing.Common

open RideHailing.Arithmetic
open RideHailing.Transition

variable {modulus : Int}

/-- `power_mod` with the operands of its multiplications logged. -/
def loggedPowerMod (base exp modulus : Int) : Logged (Int × Int) Int :=
  loggedSquareMultiply (fun first second => (wrap64 (first * second)).tmod modulus) exp.toNat
    1 (base.tmod modulus) exp.toNat

@[simp]
theorem loggedPowerMod_value (base exp modulus : Int) :
    (loggedPowerMod base exp modulus).value = powerMod base exp modulus :=
  loggedSquareMultiply_value _ _ _ _ _

/-- The log holds the operands of every product: for each bit of the exponent those of
`base * base`, and for a bit that is set those of `res * base` before them. -/
theorem loggedPowerMod_events (base exp modulus : Int) :
    (loggedPowerMod base exp modulus).events =
      (List.range exp.toNat.size).flatMap
        (roundOperands (fun first second => (wrap64 (first * second)).tmod modulus) 1
          (base.tmod modulus) exp.toNat) :=
  loggedSquareMultiply_events _ (Nat.le_refl _) 1 (base.tmod modulus)

/-- All operands are smaller than the modulus in absolute value. -/
theorem loggedPowerMod_operands (base exp : Int) (two_le : 2 ≤ modulus) :
    ∀ operands ∈ (loggedPowerMod base exp modulus).events,
      |operands.1| < modulus ∧ |operands.2| < modulus := by
  have positive : 0 < modulus := by omega
  have one : |(1 : Int)| < modulus := by
    rw [abs_one]
    omega
  have closed : ∀ first second : Int, |first| < modulus → |second| < modulus →
      |(wrap64 (first * second)).tmod modulus| < modulus :=
    fun _ _ _ _ => abs_tmod_lt _ positive
  have logged := loggedSquareMultiply_satisfies (P := fun value : Int => |value| < modulus)
    closed exp.toNat exp.toNat one (abs_tmod_lt base positive)
  exact logged.events

/-- For every base and every exponent, negative bases included: each product that
`power_mod` computes fits 64 bits, the result is congruent to the power and
strictly between the negative modulus and the modulus, and it is the canonical
residue when the base is not negative. -/
theorem powerMod_exact (base : Int) (exp : Nat) (two_le : 2 ≤ modulus)
    (fits : (modulus - 1) ^ 2 < 2 ^ 63) :
    ((loggedPowerMod base exp modulus).value = powerMod base exp modulus ∧
      ∀ operands ∈ (loggedPowerMod base exp modulus).events,
        -2 ^ 63 ≤ operands.1 * operands.2 ∧ operands.1 * operands.2 < 2 ^ 63) ∧
    powerMod base exp modulus ≡ base ^ exp [ZMOD modulus] ∧
    (-modulus < powerMod base exp modulus ∧ powerMod base exp modulus < modulus) ∧
    (0 ≤ base → 0 ≤ powerMod base exp modulus ∧ powerMod base exp modulus ≤ modulus - 1 ∧
      powerMod base exp modulus = base ^ exp % modulus) := by
  obtain ⟨small, congruent⟩ := powerMod_modEq base exp two_le fits
  have bounds := abs_lt.mp small
  refine ⟨⟨loggedPowerMod_value base exp modulus, ?_⟩, congruent, bounds, ?_⟩
  · intro operands member
    obtain ⟨first, second⟩ := loggedPowerMod_operands base exp two_le operands member
    exact mul_bounds first second fits
  · intro nonneg
    exact ⟨powerMod_nonneg exp two_le fits nonneg, Int.le_sub_one_of_lt bounds.2,
      powerMod_eq_emod exp two_le fits nonneg⟩

/-- The prime of the key exchange, with a negative base. -/
theorem powerMod_exact_dhPrime :
    powerMod (-5) (3 : Nat) dhPrime ≡ (-5) ^ 3 [ZMOD dhPrime] ∧
      -dhPrime < powerMod (-5) (3 : Nat) dhPrime := by
  obtain ⟨_, congruent, bounds, _⟩ :=
    powerMod_exact (-5) 3 (by decide : 2 ≤ dhPrime) (by decide)
  exact ⟨congruent, bounds.1⟩

end RideHailing.Common
