import RideHailing.Cipher.Keystream

/-!
# Changing one symbol

Two messages of one length that differ in exactly one position.  A stream cipher
whose combining operation is injective in the message symbol turns such a pair
into another one, in both directions.
-/

namespace RideHailing.Cipher

universe u v

variable {σ : Type u} {α : Type v} {first second message : List α}

/-- The two messages differ in exactly one symbol. -/
inductive OneChange : List α → List α → Prop
  | head {old new : α} (different : old ≠ new) (rest : List α) :
      OneChange (old :: rest) (new :: rest)
  | tail (symbol : α) {first second : List α} (later : OneChange first second) :
      OneChange (symbol :: first) (symbol :: second)

theorem OneChange.symm (change : OneChange first second) : OneChange second first := by
  induction change with
  | head different rest => exact .head different.symm rest
  | tail symbol _ ih => exact .tail symbol ih

theorem OneChange.length_eq (change : OneChange first second) :
    first.length = second.length := by
  induction change with
  | head different rest => rfl
  | tail symbol _ ih => rw [List.length_cons, List.length_cons, ih]

theorem OneChange.ne (change : OneChange first second) : first ≠ second := by
  induction change with
  | head different rest => exact fun same => different (List.cons.inj same).1
  | tail symbol _ ih => exact fun same => ih (List.cons.inj same).2

/-- Storing another symbol at a position. -/
theorem oneChange_set {position : Nat} {symbol : α} (inside : position < message.length)
    (different : message[position] ≠ symbol) : OneChange message (message.set position symbol) := by
  induction message generalizing position with
  | nil => exact absurd inside (Nat.not_lt_zero position)
  | cons first rest ih =>
      cases position with
      | zero => exact .head different rest
      | succ position => exact .tail first (ih (Nat.lt_of_succ_lt_succ inside) different)

/-- One changed symbol of a message is one changed symbol of its encryption. -/
theorem OneChange.encrypt {combine : α → α → α} {next : σ → α × σ}
    (injective : ∀ key, Function.Injective fun symbol => combine symbol key)
    (change : OneChange first second) (state : σ) :
    OneChange (Cipher.encrypt combine next state first)
      (Cipher.encrypt combine next state second) := by
  induction change generalizing state with
  | head different rest => exact .head ((injective _).ne different) _
  | tail symbol _ ih => exact .tail _ (ih _)

end RideHailing.Cipher
