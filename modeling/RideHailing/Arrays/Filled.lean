import Mathlib.Data.List.Basic

/-!
# Arrays that are filled from the front

An array of fixed size whose first entries hold a list and whose other entries
may never have been stored.  Elements are appended behind the used part and
removed by copying the last one over them.
-/

namespace RideHailing.Arrays

universe u

variable {α : Type u} {n i : Nat} {xs : Vector (Option α) n} {elements : List α}
  {element : α} {P : α → Prop}

/-- The first entries of the array are the elements of the list. -/
structure Holds (xs : Vector (Option α) n) (elements : List α) : Prop where
  fits : elements.length ≤ n
  entries : ∀ (i : Nat) (element : α), elements[i]? = some element →
    xs[i]? = some (some element)

/-- The empty list is held whatever the entries are. -/
theorem holds_nil : Holds xs [] :=
  ⟨Nat.zero_le n, nofun⟩

/-- Storing an element behind the used part appends it. -/
theorem Holds.push (holds : Holds xs elements) (room : elements.length < n) :
    Holds (xs.set elements.length (some element)) (elements ++ [element]) := by
  constructor
  · rw [List.length_append, List.length_singleton]
    exact room
  · intro slot found entry
    rw [Vector.getElem?_set]
    by_cases same : elements.length = slot
    · rw [← same, List.getElem?_concat_length] at entry
      rw [if_pos same, entry]
    · have small : slot < elements.length := by
        have inside := (List.getElem?_eq_some_iff.mp entry).1
        rw [List.length_append, List.length_singleton] at inside
        omega
      rw [List.getElem?_append_left small] at entry
      rw [if_neg same]
      exact holds.entries slot found entry

/-- Overwriting an entry and shortening the used part by one; when the last
element is what overwrites, this removes the overwritten one. -/
theorem Holds.swapRemove (holds : Holds xs elements) (inside : i < elements.length) (last : α) :
    Holds (xs.set i (some last) (Nat.lt_of_lt_of_le inside holds.fits))
      (elements.set i last).dropLast := by
  constructor
  · rw [List.length_dropLast, List.length_set]
    exact Nat.le_trans (Nat.sub_le _ _) holds.fits
  · intro slot found entry
    rw [List.getElem?_dropLast, List.length_set] at entry
    rw [Vector.getElem?_set]
    split at entry
    · by_cases same : i = slot
      · rw [List.getElem?_set, if_pos same, if_pos inside] at entry
        rw [if_pos same, entry]
      · rw [List.getElem?_set_ne same] at entry
        rw [if_neg same]
        exact holds.entries slot found entry
    · contradiction

/-- Every element that was ever stored satisfies `P`. -/
def StoresOnly (P : α → Prop) (xs : Vector (Option α) n) : Prop :=
  ∀ (i : Nat) (element : α), xs[i]? = some (some element) → P element

theorem storesOnly_replicate : StoresOnly P (Vector.replicate n none) := by
  intro slot element stored
  rw [Vector.getElem?_replicate] at stored
  split at stored
  · cases stored
  · cases stored

theorem StoresOnly.set (stores : StoresOnly P xs) (inside : i < n) (meets : P element) :
    StoresOnly P (xs.set i (some element)) := by
  intro slot found stored
  rw [Vector.getElem?_set] at stored
  split at stored
  · cases stored
    exact meets
  · exact stores slot found stored

/-- The elements in the used part satisfy `P`. -/
theorem StoresOnly.of_holds (stores : StoresOnly P xs) (holds : Holds xs elements)
    (entry : elements[i]? = some element) : P element :=
  stores i element (holds.entries i element entry)

end RideHailing.Arrays
