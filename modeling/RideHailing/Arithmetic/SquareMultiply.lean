import Mathlib.Algebra.Group.Basic
import Mathlib.Tactic.Ring

/-!
# Right-to-left square-and-multiply

The loop computes with an arbitrary multiplication on a carrier.  Its meaning
is stated by refinement: when the carrier multiplication tracks the
multiplication of a monoid through a relation, the loop tracks the power.
-/

namespace RideHailing.Arithmetic

universe u v

variable {α : Type u} {M : Type v}

/-- The square-and-multiply loop.  The first argument bounds the number of
iterations; the exponent itself is always a sufficient bound. -/
def squareMultiply (mul : α → α → α) : Nat → α → α → Nat → α
  | 0, result, _, _ => result
  | fuel + 1, result, base, exponent =>
      if exponent = 0 then result
      else
        squareMultiply mul fuel
          (if exponent % 2 = 1 then mul result base else result)
          (mul base base) (exponent / 2)

theorem squareMultiply_zero (mul : α → α → α) (fuel : Nat) (result base : α) :
    squareMultiply mul fuel result base 0 = result := by
  cases fuel with
  | zero => rfl
  | succ fuel => exact if_pos rfl

/-- Every sufficient bound gives the same result. -/
theorem squareMultiply_enough {mul : α → α → α} {fuel exponent : Nat} (enough : exponent ≤ fuel)
    (result base : α) :
    squareMultiply mul fuel result base exponent =
      squareMultiply mul exponent result base exponent := by
  induction exponent using Nat.strong_induction_on generalizing fuel result base with
  | _ exponent ih =>
      cases exponent with
      | zero => rw [squareMultiply_zero, squareMultiply_zero]
      | succ exponent =>
          obtain ⟨fuel, rfl⟩ : ∃ before, fuel = before + 1 := ⟨fuel - 1, by omega⟩
          have smaller : (exponent + 1) / 2 < exponent + 1 := by omega
          rw [squareMultiply, squareMultiply, if_neg (Nat.succ_ne_zero _),
            if_neg (Nat.succ_ne_zero _),
            ih _ smaller (show (exponent + 1) / 2 ≤ fuel by omega),
            ih _ smaller (show (exponent + 1) / 2 ≤ exponent by omega)]

/-- One round. -/
theorem squareMultiply_round (mul : α → α → α) (result base : α) (exponent : Nat) :
    squareMultiply mul exponent result base exponent =
      squareMultiply mul (exponent / 2) (if exponent % 2 = 1 then mul result base else result)
        (mul base base) (exponent / 2) := by
  cases exponent with
  | zero => rfl
  | succ exponent =>
      rw [squareMultiply, if_neg (Nat.succ_ne_zero _), squareMultiply_enough (by omega)]

theorem mul_pow_halve [Monoid M] (result base : M) (exponent : Nat) :
    (if exponent % 2 = 1 then result * base else result) *
        (base * base) ^ (exponent / 2) =
      result * base ^ exponent := by
  rw [← pow_two, ← pow_mul]
  rcases Nat.mod_two_eq_zero_or_one exponent with even | odd
  · rw [if_neg (by omega), Nat.mul_div_cancel' (Nat.dvd_of_mod_eq_zero even)]
  · rw [if_pos odd, mul_assoc, ← pow_succ']
    congr 2
    omega

/-- Square-and-multiply refines exponentiation: every relation respected by
the two multiplications relates the loop's result to the power. -/
theorem squareMultiply_refines [Monoid M] {mul : α → α → α} {R : α → M → Prop}
    (respects : ∀ x y a b, R x a → R y b → R (mul x y) (a * b))
    {fuel exponent : Nat} (enough : exponent ≤ fuel) {result base : α} {r b : M}
    (resultRel : R result r) (baseRel : R base b) :
    R (squareMultiply mul fuel result base exponent) (r * b ^ exponent) := by
  induction fuel generalizing exponent result base r b with
  | zero =>
      have zero : exponent = 0 := Nat.le_zero.mp enough
      simpa [squareMultiply, zero] using resultRel
  | succ fuel ih =>
      rw [squareMultiply]
      by_cases zero : exponent = 0
      · simpa [zero] using resultRel
      · rw [if_neg zero, ← mul_pow_halve]
        apply ih (by omega)
        · by_cases odd : exponent % 2 = 1
          · simpa [odd] using respects _ _ _ _ resultRel baseRel
          · simpa [odd] using resultRel
        · exact respects _ _ _ _ baseRel baseRel

end RideHailing.Arithmetic
