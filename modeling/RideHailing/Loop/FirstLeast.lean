import Mathlib.Order.Lattice

/-!
# Scanning for the first minimum

Among the elements that satisfy a condition, the lowest one of least key.  A
scan in increasing order finds it when it replaces its candidate only by a
strictly smaller one.  `Scanned` is the state of such a scan, whose search
starts below a bound; the three rules say what one more element does to it.
-/

namespace RideHailing.Loop

universe u v

variable {ι : Type u} {κ : Type v} [LinearOrder ι] [LinearOrder κ]
  {Among Wider : ι → Prop} {key : ι → κ} {bound : κ} {best : Option ι × κ} {added place : ι}

/-- The lowest element of least key among those that satisfy a condition. -/
structure FirstLeast (Among : ι → Prop) (key : ι → κ) (place : ι) : Prop where
  among : Among place
  least : ∀ other, Among other → key place ≤ key other
  first : ∀ other, Among other → key other = key place → place ≤ other

theorem FirstLeast.unique {first second : ι} (left : FirstLeast Among key first)
    (right : FirstLeast Among key second) : first = second := by
  have equal : key first = key second :=
    le_antisymm (left.least second right.among) (right.least first left.among)
  exact le_antisymm (left.first second right.among equal.symm)
    (right.first first left.among equal)

/-- Only the elements of the condition matter. -/
theorem FirstLeast.congr (same : ∀ other, Wider other ↔ Among other)
    (found : FirstLeast Among key place) : FirstLeast Wider key place where
  among := (same place).mpr found.among
  least other member := found.least other ((same other).mp member)
  first other member := found.first other ((same other).mp member)

/-- The candidate of a scan and the least key so far, once the elements of a
condition have been seen. -/
inductive Scanned (Among : ι → Prop) (key : ι → κ) (bound : κ) : Option ι × κ → Prop
  | nothing (far : ∀ other, Among other → bound ≤ key other) :
      Scanned Among key bound (none, bound)
  | found (place : ι) (near : key place < bound) (first : FirstLeast Among key place) :
      Scanned Among key bound (some place, key place)

/-- Every element seen is at least as far as the least key so far. -/
theorem Scanned.le (scanned : Scanned Among key bound best) {other : ι} (member : Among other) :
    best.2 ≤ key other := by
  cases scanned with
  | nothing far => exact far other member
  | found place near first => exact first.least other member

theorem Scanned.le_bound (scanned : Scanned Among key bound best) : best.2 ≤ bound := by
  cases scanned with
  | nothing far => exact le_refl bound
  | found place near first => exact le_of_lt near

/-- An element that is not accepted changes nothing. -/
theorem Scanned.skip (scanned : Scanned Among key bound best)
    (same : ∀ other, Wider other ↔ Among other) : Scanned Wider key bound best := by
  cases scanned with
  | nothing far => exact .nothing fun other member => far other ((same other).mp member)
  | found place near first => exact .found place near (first.congr same)

/-- A strictly smaller element becomes the candidate. -/
theorem Scanned.replace (scanned : Scanned Among key bound best)
    (wider : ∀ other, Wider other ↔ Among other ∨ other = added) (closer : key added < best.2) :
    Scanned Wider key bound (some added, key added) := by
  apply Scanned.found added (lt_of_lt_of_le closer scanned.le_bound)
  constructor
  · exact (wider added).mpr (Or.inr rfl)
  · intro other member
    rcases (wider other).mp member with earlier | rfl
    · exact le_of_lt (lt_of_lt_of_le closer (scanned.le earlier))
    · exact le_refl _
  · intro other member equal
    rcases (wider other).mp member with earlier | rfl
    · exact absurd equal (ne_of_gt (lt_of_lt_of_le closer (scanned.le earlier)))
    · exact le_refl _

/-- An element above all earlier ones that is not strictly smaller leaves the
candidate. -/
theorem Scanned.keep (scanned : Scanned Among key bound best)
    (wider : ∀ other, Wider other ↔ Among other ∨ other = added)
    (above : ∀ other, Among other → other < added) (notCloser : ¬ key added < best.2) :
    Scanned Wider key bound best := by
  cases scanned with
  | nothing far =>
      apply Scanned.nothing
      intro other member
      rcases (wider other).mp member with earlier | rfl
      · exact far other earlier
      · exact not_lt.mp notCloser
  | found place near first =>
      apply Scanned.found place near
      constructor
      · exact (wider place).mpr (Or.inl first.among)
      · intro other member
        rcases (wider other).mp member with earlier | rfl
        · exact first.least other earlier
        · exact not_lt.mp notCloser
      · intro other member equal
        rcases (wider other).mp member with earlier | rfl
        · exact first.first other earlier equal
        · exact le_of_lt (above place first.among)

/-- A scan finds something exactly when some element is below the bound. -/
theorem Scanned.found_iff (scanned : Scanned Among key bound best) :
    (∃ place, best.1 = some place) ↔ ∃ other, Among other ∧ key other < bound := by
  cases scanned with
  | nothing far =>
      constructor
      · rintro ⟨place, found⟩
        cases found
      · rintro ⟨other, member, near⟩
        exact absurd near (not_lt.mpr (far other member))
  | found place near first => exact iff_of_true ⟨place, rfl⟩ ⟨place, first.among, near⟩

/-- A scan over elements that are all below the bound has found the first
minimum, or there is nothing to find. -/
theorem Scanned.result (scanned : Scanned Among key bound best)
    (near : ∀ other, Among other → key other < bound) :
    (best.1 = none ∧ ∀ other, ¬ Among other) ∨
      ∃ place, best.1 = some place ∧ FirstLeast Among key place := by
  cases scanned with
  | nothing far =>
      left
      exact ⟨rfl, fun other member => not_lt.mpr (far other member) (near other member)⟩
  | found place _ first => exact Or.inr ⟨place, rfl, first⟩

/-! ## Scanning an initial segment -/

section Segment

variable {n : Nat} {accepted : Fin n → Prop} {position : Fin n}

/-- The elements that are accepted among the first ones, and one more that is. -/
theorem below_succ_of_accepted (member : accepted position) (other : Fin n) :
    (other.val < position.val + 1 ∧ accepted other) ↔
      (other.val < position.val ∧ accepted other) ∨ other = position := by
  rw [Nat.lt_succ_iff_lt_or_eq]
  constructor
  · rintro ⟨earlier | same, able⟩
    · exact Or.inl ⟨earlier, able⟩
    · exact Or.inr (Fin.ext same)
  · rintro (⟨earlier, able⟩ | rfl)
    · exact ⟨Or.inl earlier, able⟩
    · exact ⟨Or.inr rfl, member⟩

theorem below_succ_of_rejected (rejected : ¬ accepted position) (other : Fin n) :
    (other.val < position.val + 1 ∧ accepted other) ↔
      (other.val < position.val ∧ accepted other) := by
  rw [Nat.lt_succ_iff_lt_or_eq]
  constructor
  · rintro ⟨earlier | same, able⟩
    · exact ⟨earlier, able⟩
    · rw [Fin.ext same] at able
      exact absurd able rejected
  · rintro ⟨earlier, able⟩
    exact ⟨Or.inl earlier, able⟩

end Segment

end RideHailing.Loop
