import RideHailing.Server.PathRefinement

/-!
# The path search stays within its arrays

Whatever the grid holds and whatever the two cells are, no run of the path
search leaves `open_list` or `closed_list`; it always goes on until it has
returned, after a bounded number of steps, and it returns the start or a free
cell next to it.
-/

namespace RideHailing.Server

open RideHailing.Common
open RideHailing.Transition

variable {grid : GridMap} {startX startY targetX targetY : Int} {trace : List (List Access)}
  {state next : PathState} {accesses : List Access} {vars : SearchVars} {search : Search}
  {start target cell : Point}

/-! ## What holds of the variables -/

/-- The local variables of the search, where there are any. -/
def PathState.scope : PathState → Option SearchVars
  | .entered | .returned _ => none
  | .testing vars | .selecting vars .. | .expanding vars .. | .choosing vars .. => some vars

/-- The count is one of `open_list`, the counted entries have been stored, and
every node that was ever stored lies on the map, with costs far from the bounds
of `int`. -/
structure SearchBounds (vars : SearchVars) : Prop where
  nonneg : 0 ≤ vars.openCount
  fits : vars.openCount ≤ maxOpenNodes
  stored : ∀ slot : Fin maxOpenNodes, (slot.val : Int) < vars.openCount →
    ∃ node, vars.openList[slot] = some node
  inside : ∀ (slot : Fin maxOpenNodes) (node : Node), vars.openList[slot] = some node →
    InsideMap node.x node.y
  costs : ∀ (slot : Fin maxOpenNodes) (node : Node), vars.openList[slot] = some node →
    0 ≤ node.gCost ∧ node.gCost ≤ 3000 ∧ 0 ≤ node.hCost ∧ node.hCost ≤ 58 ∧
      0 ≤ node.fCost ∧ node.fCost ≤ 3058

theorem Represents.bounds {steps : Int} (represents : Represents steps vars search)
    (nonneg : 0 ≤ steps) : SearchBounds vars := by
  have count := represents.count
  have legal : ∀ (slot : Fin maxOpenNodes) (node : Node), vars.openList[slot] = some node →
      node.Legal steps := fun slot node stored =>
    represents.legal slot node (Vector.getElem?_eq_some_iff.mpr ⟨slot.isLt, stored⟩)
  constructor
  · omega
  · rw [count]
    exact Int.ofNat_le.mpr represents.holds.fits
  · intro slot counted
    have small : slot.val < search.openList.length := by omega
    have entry := (represents.entry (List.getElem?_eq_getElem small)).1
    exact ⟨_, (Vector.getElem?_eq_some_iff.mp entry).2⟩
  · intro slot node stored
    exact (legal slot node stored).inside
  · intro slot node stored
    obtain ⟨_, gCost, hCost, fCost⟩ := legal slot node stored
    omega

theorem Refines.bounds (refines : Refines grid start target state)
    (scope : state.scope = some vars) : SearchBounds vars := by
  cases refines with
  | entered | returned => cases scope
  | testing _ represents nonneg | expanding _ represents nonneg =>
      cases scope
      exact represents.bounds nonneg
  | selecting _ represents nonneg =>
      cases scope
      exact represents.bounds (Int.le_add_one nonneg)
  | choosing _ represents =>
      cases scope
      exact represents.bounds (Int.le_refl 0)

/-! ## What is returned -/

/-- The cell itself, or a free cell of the map next to it. -/
def LegalStep (grid : GridMap) (start cell : Point) : Prop :=
  cell = start ∨ ∃ direction, cell = neighbour start direction ∧ cell.Inside ∧ Free grid cell

theorem nextStep_legal (inside : target.Inside) :
    LegalStep grid start (nextStep grid start target) := by
  rw [nextStep]
  by_cases same : start.x = target.x ∧ start.y = target.y
  · rw [if_pos same]
    exact Or.inl rfl
  · rw [if_neg same]
    have near : ∀ direction, Open grid start direction → score start target direction < 999999 :=
      fun _ free => score_lt inside free
    rcases greedyStep_firstLeast near with ⟨nothing, _⟩ | ⟨direction, found, first⟩
    · rw [nothing]
      exact Or.inl rfl
    · rw [found]
      have free : Free grid (neighbour start direction) := first.among
      exact Or.inr ⟨direction, rfl, free.inside, free⟩

/-- Every pair of integers is a truncated position. -/
theorem clampedPoint_eq_clampedCell (x y : Int) :
    clampedPoint x y = clampedCell (Point.lat ⟨x, y⟩) (Point.lon ⟨x, y⟩) := by
  rw [clampedCell, Point.lat, Point.lon, gridCoordinate_cell, gridCoordinate_cell, clampedPoint]

theorem clampedPoint_inside (x y : Int) : (clampedPoint x y).Inside := by
  rw [clampedPoint_eq_clampedCell]
  exact clampedCell_inside _ _

/-! ## Runs -/

/-- The longest that a run can be. -/
def stepLimit : Nat :=
  remaining .entered

theorem pathSearch_step
    (refines : Refines grid (clampedPoint startX startY) (clampedPoint targetX targetY) state)
    (step : (pathSearch grid startX startY targetX targetY).step state accesses next) :
    Refines grid (clampedPoint startX startY) (clampedPoint targetX targetY) next ∧
      remaining next < remaining state ∧ ∀ access ∈ accesses, access.InRange := by
  have running : ∀ cell, state ≠ .returned cell := by
    rintro cell rfl
    cases step
  have advances := pathStep_advances (clampedPoint_inside startX startY)
    (clampedPoint_inside targetX targetY) refines running
  have step : pathStep grid (clampedPoint startX startY) (clampedPoint targetX targetY) state =
      ⟨accesses, some next⟩ := step
  rw [step] at advances
  obtain ⟨after, after_eq, refined, lower⟩ := advances.value
  cases after_eq
  exact ⟨refined, lower, advances.events⟩

theorem reachable_refines
    (reachable : Reachable (pathSearch grid startX startY targetX targetY) state) :
    Refines grid (clampedPoint startX startY) (clampedPoint targetX targetY) state := by
  apply reachable.invariant
  · rintro state rfl
    exact .entered
  · intro state accesses next refines step
    exact (pathSearch_step refines step).1

/-- The function is never stuck before its return. -/
theorem pathSearch_continues
    (reachable : Reachable (pathSearch grid startX startY targetX targetY) state) :
    (∃ cell, state = .returned cell) ∨ ∃ accesses next,
      (pathSearch grid startX startY targetX targetY).step state accesses next ∧
        remaining next < remaining state := by
  by_cases returned : ∃ cell, state = .returned cell
  · exact Or.inl returned
  · right
    have running : ∀ cell, state ≠ .returned cell := fun cell equal => returned ⟨cell, equal⟩
    have advances := pathStep_advances (clampedPoint_inside startX startY)
      (clampedPoint_inside targetX targetY) (reachable_refines reachable) running
    obtain ⟨next, next_eq, _, lower⟩ := advances.value
    exact ⟨_, next, congrArg (Logged.mk _) next_eq, lower⟩

theorem pathSearch_inRange (run : Run (pathSearch grid startX startY targetX targetY) trace state) :
    ∀ accesses ∈ trace, ∀ access ∈ accesses, access.InRange := by
  induction run with
  | start => nofun
  | snoc before step ih =>
      intro accesses member
      rcases List.mem_append.mp member with earlier | last
      · exact ih accesses earlier
      · rw [List.mem_singleton.mp last]
        exact (pathSearch_step (reachable_refines before.reachable) step).2.2

theorem pathSearch_length (run : Run (pathSearch grid startX startY targetX targetY) trace state) :
    trace.length ≤ stepLimit := by
  have bound : trace.length + remaining state ≤ stepLimit := by
    apply run.length_add_le
    · rintro start rfl
      exact Nat.le_refl _
    · intro before accesses after reachable step
      exact (pathSearch_step (reachable_refines reachable) step).2.1
  exact Nat.le_trans (Nat.le_add_right _ _) bound

theorem pathSearch_returns (grid : GridMap) (startX startY targetX targetY : Int) :
    ∃ trace cell, Run (pathSearch grid startX startY targetX targetY) trace (.returned cell) := by
  have entered : Run (pathSearch grid startX startY targetX targetY) [] .entered := .start rfl
  obtain ⟨trace, last, path, cell, rfl⟩ :=
    entered.reachable.leads_to_final fun state => pathSearch_continues
  exact ⟨[] ++ trace, cell, entered.append path⟩

/-! ## What the machine computes -/

/-- When the search is over, the arrays hold what the functional search leaves. -/
theorem pathSearch_astarSearch {i : Nat} {minScore bestDir : Int}
    (run : Run (pathSearch grid startX startY targetX targetY) trace
      (.choosing vars i minScore bestDir)) :
    Represents 0 vars (astarSearch grid (clampedPoint startX startY)
      (clampedPoint targetX targetY)) := by
  cases reachable_refines run.reachable with
  | choosing _ represents => exact represents

theorem clampedCell_eq_clampedPoint (lat lon : ℚ) :
    clampedCell lat lon =
      clampedPoint (gridCoordinate baseLon lon) (gridCoordinate baseLat lat) :=
  rfl

/-- What the machine returns is the answer of `get_next_step_astar`. -/
theorem pathSearch_getNextStepAstar {startLat startLon targetLat targetLon : ℚ}
    (run : Run (pathSearch grid (gridCoordinate baseLon startLon) (gridCoordinate baseLat startLat)
      (gridCoordinate baseLon targetLon) (gridCoordinate baseLat targetLat)) trace
        (.returned cell)) :
    cell = getNextStepAstar grid startLat startLon targetLat targetLon := by
  rw [getNextStepAstar_eq_nextStep, clampedCell_eq_clampedPoint, clampedCell_eq_clampedPoint]
  cases reachable_refines run.reachable with
  | returned answer => exact answer

/-! ## Safety -/

/-- For every grid and all cells, in every run of the path search: the count
stays within `open_list` and every stored node on the map; every access is in
range; the run is bounded and goes on until the function has returned; and what
is returned is the start or a free cell next to it.  Some run does return. -/
theorem pathSearch_safe (grid : GridMap) (startX startY targetX targetY : Int) :
    (∀ trace state, Run (pathSearch grid startX startY targetX targetY) trace state →
      (∀ vars, state.scope = some vars → SearchBounds vars) ∧
      (∀ accesses ∈ trace, ∀ access ∈ accesses, access.InRange) ∧
      trace.length ≤ stepLimit ∧
      ((∃ cell, state = .returned cell) ∨ ∃ accesses next,
        (pathSearch grid startX startY targetX targetY).step state accesses next) ∧
      ∀ cell, state = .returned cell → LegalStep grid (clampedPoint startX startY) cell) ∧
    ∃ trace cell, Run (pathSearch grid startX startY targetX targetY) trace (.returned cell) := by
  refine ⟨?_, pathSearch_returns grid startX startY targetX targetY⟩
  intro trace state run
  have refines := reachable_refines run.reachable
  refine ⟨fun vars scope => refines.bounds scope, pathSearch_inRange run, pathSearch_length run,
    ?_, ?_⟩
  · rcases pathSearch_continues run.reachable with returned | ⟨accesses, next, step, _⟩
    · exact Or.inl returned
    · exact Or.inr ⟨accesses, next, step⟩
  · rintro cell rfl
    cases refines with
    | returned answer =>
        rw [answer]
        exact nextStep_legal (clampedPoint_inside targetX targetY)

end RideHailing.Server
