import Mathlib.Logic.Equiv.Basic

/-!
# Vectors that list every value once

A vector whose entries are a bijection from its positions.  Swapping two entries
composes it with a transposition, also when the two positions are the same.
-/

namespace RideHailing.Cipher

universe u

variable {α : Type u} {n : Nat} {v : Vector α n}

/-- Every value is at exactly one position. -/
def ListsOnce (v : Vector α n) : Prop :=
  Function.Bijective fun slot : Fin n => v[slot]

/-- Reading after a swap is reading at the transposed position. -/
theorem getElem_swap (v : Vector α n) (first second slot : Fin n) :
    (v.swap first second)[slot] = v[Equiv.swap first second slot] := by
  rw [Fin.getElem_fin, Vector.getElem_swap]
  by_cases isFirst : slot = first
  · simp [isFirst]
  · by_cases isSecond : slot = second
    · have apart : second ≠ first := fun same => isFirst (isSecond.trans same)
      simp [isSecond, Fin.val_ne_of_ne apart]
    · simp [Equiv.swap_apply_of_ne_of_ne isFirst isSecond, Fin.val_ne_of_ne isFirst,
        Fin.val_ne_of_ne isSecond]

theorem ListsOnce.swap (once : ListsOnce v) (first second : Fin n) :
    ListsOnce (v.swap first second) := by
  have composed : (fun slot : Fin n => (v.swap first second)[slot]) =
      (fun slot => v[slot]) ∘ Equiv.swap first second := by
    funext slot
    exact getElem_swap v first second slot
  rw [ListsOnce, composed]
  exact Function.Bijective.comp once (Equiv.swap first second).bijective

theorem listsOnce_ofFn {f : Fin n → α} (bijective : Function.Bijective f) :
    ListsOnce (Vector.ofFn f) := by
  have entries : (fun slot : Fin n => (Vector.ofFn f)[slot]) = f := by
    funext slot
    rw [Fin.getElem_fin, Vector.getElem_ofFn]
  rwa [ListsOnce, entries]

end RideHailing.Cipher
