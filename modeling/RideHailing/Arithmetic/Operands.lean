import RideHailing.Arithmetic.SquareMultiply
import RideHailing.Transition.Logged
import Mathlib.Data.Nat.Bitwise
import Mathlib.Data.Nat.Size

/-!
# The multiplications of square-and-multiply

The loop with a log of its operands.  The log holds those of one round for each bit
of the exponent; every set that contains the two starting values and is closed under
the multiplication contains all of them.
-/

namespace RideHailing.Arithmetic

open RideHailing.Transition

universe u

variable {α : Type u}

/-- The loop with the operands of its multiplications logged, in order. -/
def loggedSquareMultiply (mul : α → α → α) : Nat → α → α → Nat → Logged (α × α) α
  | 0, result, _, _ => .pure result
  | fuel + 1, result, base, exponent =>
      if exponent = 0 then .pure result
      else
        let multiplied : Logged (α × α) α :=
          if exponent % 2 = 1 then .log (result, base) (mul result base) else .pure result
        multiplied.bind fun later =>
          (Logged.log (base, base) (mul base base)).bind fun square =>
            loggedSquareMultiply mul fuel later square (exponent / 2)

/-- Logging the operands changes nothing else. -/
@[simp]
theorem loggedSquareMultiply_value (mul : α → α → α) (fuel : Nat) (result base : α)
    (exponent : Nat) :
    (loggedSquareMultiply mul fuel result base exponent).value =
      squareMultiply mul fuel result base exponent := by
  induction fuel generalizing result base exponent with
  | zero => rfl
  | succ fuel ih =>
      rw [loggedSquareMultiply, squareMultiply]
      by_cases zero : exponent = 0
      · simp [zero]
      · by_cases odd : exponent % 2 = 1
        · simp [zero, odd, ih]
        · simp [zero, odd, ih]

theorem loggedSquareMultiply_round (mul : α → α → α) {fuel exponent : Nat} (result base : α)
    (positive : exponent ≠ 0) :
    (loggedSquareMultiply mul (fuel + 1) result base exponent).events =
      ((if exponent % 2 = 1 then [(result, base)] else []) ++ [(base, base)]) ++
        (loggedSquareMultiply mul fuel (if exponent % 2 = 1 then mul result base else result)
          (mul base base) (exponent / 2)).events := by
  rw [loggedSquareMultiply, if_neg positive]
  by_cases odd : exponent % 2 = 1
  · simp [odd, Logged.bind, Logged.log]
  · simp [odd, Logged.bind, Logged.log, Logged.pure]

/-- The operands of round `i`: when the exponent has the bit, what the lower bits
have given is multiplied by the base squared `i` times, which is then squared. -/
def roundOperands (mul : α → α → α) (result base : α) (exponent i : Nat) : List (α × α) :=
  let low := exponent % 2 ^ i
  let square := (fun value => mul value value)^[i] base
  (if exponent.testBit i then [(squareMultiply mul low result base low, square)] else []) ++
    [(square, square)]

theorem roundOperands_succ (mul : α → α → α) (result base : α) (exponent i : Nat) :
    roundOperands mul result base exponent (i + 1) =
      roundOperands mul (if exponent % 2 = 1 then mul result base else result) (mul base base)
        (exponent / 2) i := by
  have low : exponent % 2 ^ (i + 1) / 2 = exponent / 2 % 2 ^ i := by
    rw [pow_succ, Nat.mod_mul_left_div_self]
  have parity : exponent % 2 ^ (i + 1) % 2 = exponent % 2 := by
    rw [pow_succ, Nat.mod_mul_left_mod]
  rw [roundOperands, roundOperands, squareMultiply_round, low, parity, Nat.testBit_succ,
    Function.iterate_succ_apply]

/-- The loop logs the operands of one round for each bit of the exponent. -/
theorem loggedSquareMultiply_events (mul : α → α → α) {fuel exponent : Nat}
    (enough : exponent ≤ fuel) (result base : α) :
    (loggedSquareMultiply mul fuel result base exponent).events =
      (List.range exponent.size).flatMap (roundOperands mul result base exponent) := by
  induction fuel generalizing result base exponent with
  | zero =>
      obtain rfl := Nat.le_zero.mp enough
      rfl
  | succ fuel ih =>
      by_cases zero : exponent = 0
      · subst zero
        rfl
      · have bits : exponent.size = (exponent / 2).size + 1 := by
          have bit : Nat.bit exponent.bodd exponent.div2 = exponent := Nat.bit_bodd_div2 exponent
          have size := Nat.size_bit (b := exponent.bodd) (n := exponent.div2)
          rw [bit, Nat.div2_val] at size
          exact size zero
        rw [loggedSquareMultiply_round mul result base zero, ih (by omega), bits,
          List.range_succ_eq_map, List.flatMap_cons, List.flatMap_map]
        congr 1
        · simp [roundOperands, Nat.testBit_zero, Nat.mod_one, squareMultiply]
        · simp only [roundOperands_succ]

/-- Operands stay in every set that is closed under the multiplication. -/
theorem loggedSquareMultiply_satisfies {mul : α → α → α} {P : α → Prop}
    (closed : ∀ x y, P x → P y → P (mul x y)) {result base : α} (fuel exponent : Nat)
    (resultMem : P result) (baseMem : P base) :
    (loggedSquareMultiply mul fuel result base exponent).Satisfies
      (fun operands => P operands.1 ∧ P operands.2) P := by
  induction fuel generalizing result base exponent with
  | zero => exact Logged.satisfies_pure resultMem
  | succ fuel ih =>
      rw [loggedSquareMultiply]
      split
      next => exact Logged.satisfies_pure resultMem
      next =>
        have multiplied : (if exponent % 2 = 1 then Logged.log (result, base) (mul result base)
            else Logged.pure result).Satisfies (fun operands => P operands.1 ∧ P operands.2) P := by
          split
          next => exact Logged.satisfies_log ⟨resultMem, baseMem⟩ (closed _ _ resultMem baseMem)
          next => exact Logged.satisfies_pure resultMem
        apply multiplied.bind
        intro later laterMem
        have squared : (Logged.log (base, base) (mul base base)).Satisfies
            (fun operands => P operands.1 ∧ P operands.2) P :=
          Logged.satisfies_log ⟨baseMem, baseMem⟩ (closed _ _ baseMem baseMem)
        apply squared.bind
        intro square squareMem
        exact ih (exponent / 2) laterMem squareMem

end RideHailing.Arithmetic
