import Mathlib.Data.Option.Basic

/-!
# Counted loops with failure

`countedLoop body n` is the loop that runs `body 0`, `body 1`, …, `body (n-1)`
on an accumulator and fails as soon as one iteration fails.  The two rules
below are the partial- and the total-correctness rule for such a loop: an
invariant indexed by the number of completed iterations.  The usual reason for
an iteration to fail is an array index out of bounds, so the checked index is
defined here as well.
-/

namespace RideHailing.Loop

universe u

variable {α : Type u}

/-- An integer used as the index of an array of `size` elements; `none` is an
access outside the array. -/
def checkedIndex (size : Nat) (index : Int) : Option (Fin size) :=
  if inside : 0 ≤ index ∧ index < size then some ⟨index.toNat, by omega⟩ else none

theorem checkedIndex_natCast {size index : Nat} (inside : index < size) :
    checkedIndex size index = some ⟨index, inside⟩ := by
  simp [checkedIndex, inside]

theorem checkedIndex_fin {size : Nat} (slot : Fin size) :
    checkedIndex size (slot.val : Int) = some slot :=
  checkedIndex_natCast slot.isLt

theorem checkedIndex_eq_none {size : Nat} {index : Int}
    (outside : index < 0 ∨ (size : Int) ≤ index) : checkedIndex size index = none := by
  rw [checkedIndex, dif_neg (by omega)]

theorem checkedIndex_eq_some_iff {size : Nat} {index : Int} {slot : Fin size} :
    checkedIndex size index = some slot ↔ index = slot.val := by
  unfold checkedIndex
  constructor
  · intro found
    split at found
    · cases found
      simp only
      omega
    · contradiction
  · rintro rfl
    have inside := slot.isLt
    rw [dif_pos (by omega)]
    simp

/-- Run the body for the indices `0, …, n - 1` in increasing order. -/
def countedLoop (body : Nat → α → Option α) : Nat → α → Option α
  | 0, state => some state
  | n + 1, state => (countedLoop body n state).bind (body n)

theorem countedLoop_succ (body : Nat → α → Option α) (n : Nat) (state : α) :
    countedLoop body (n + 1) state = (countedLoop body n state).bind (body n) :=
  rfl

/-- Partial correctness: an invariant kept by every iteration that succeeds
holds when the loop succeeds. -/
theorem countedLoop_partial {body : Nat → α → Option α} {P : Nat → α → Prop}
    {n : Nat} {state result : α} (initially : P 0 state)
    (preserved : ∀ i < n, ∀ before after, P i before →
      body i before = some after → P (i + 1) after)
    (finished : countedLoop body n state = some result) : P n result := by
  induction n generalizing result with
  | zero =>
      cases finished
      exact initially
  | succ n ih =>
      rcases Option.bind_eq_some_iff.mp finished with ⟨middle, first, last⟩
      have holds : P n middle :=
        ih (fun i small => preserved i (Nat.lt_succ_of_lt small)) first
      exact preserved n (Nat.lt_succ_self n) middle result holds last

/-- Total correctness: when every iteration started under the invariant
succeeds and re-establishes it, the whole loop succeeds. -/
theorem countedLoop_total {body : Nat → α → Option α} {P : Nat → α → Prop}
    {n : Nat} {state : α} (initially : P 0 state)
    (progress : ∀ i < n, ∀ before, P i before →
      ∃ after, body i before = some after ∧ P (i + 1) after) :
    ∃ result, countedLoop body n state = some result ∧ P n result := by
  induction n with
  | zero => exact ⟨state, rfl, initially⟩
  | succ n ih =>
      obtain ⟨middle, first, holds⟩ :=
        ih (fun i small => progress i (Nat.lt_succ_of_lt small))
      obtain ⟨result, last, final⟩ := progress n (Nat.lt_succ_self n) middle holds
      exact ⟨result, by rw [countedLoop_succ, first]; exact last, final⟩

/-- A loop cannot succeed when one of its iterations fails on every
accumulator. -/
theorem countedLoop_eq_none {body : Nat → α → Option α} {n i : Nat} {state : α}
    (small : i < n) (fails : ∀ before, body i before = none) :
    countedLoop body n state = none := by
  induction n with
  | zero => exact absurd small (Nat.not_lt_zero i)
  | succ n ih =>
      rw [countedLoop_succ]
      rcases Nat.lt_succ_iff_lt_or_eq.mp small with earlier | rfl
      · rw [ih earlier]
        rfl
      · cases countedLoop body i state with
        | none => rfl
        | some before => exact fails before

end RideHailing.Loop
