import RideHailing.Loop.FirstLeast
import RideHailing.Server.Pathfinding
import Mathlib.Data.Fintype.Basic
import Mathlib.Data.List.Chain
import Mathlib.Logic.Relation

/-!
# Where the next step leads

The answer of `get_next_step_astar` is the first nearest free neighbour, whatever
the search found.  Following it, a driver either comes closer in rows, or in
columns, or steps aside once to come closer in rows, or goes back and forth
between two cells for ever.
-/

namespace RideHailing.Server

open RideHailing.Common
open RideHailing.Loop

variable {grid : GridMap} {cell start target side : Point}

/-! ## Cells -/

/-- A cell of the map without a wall. -/
def Free (grid : GridMap) (cell : Point) : Prop :=
  isObstacle grid cell.x cell.y = false

instance (grid : GridMap) (cell : Point) : Decidable (Free grid cell) :=
  inferInstanceAs (Decidable (_ = _))

/-- A cell of the map. -/
def Point.Inside (cell : Point) : Prop :=
  InsideMap cell.x cell.y

instance (cell : Point) : Decidable cell.Inside :=
  inferInstanceAs (Decidable (InsideMap _ _))

theorem Free.inside (free : Free grid cell) : cell.Inside := by
  by_contra outside
  rw [Free, isObstacle_of_outside grid outside] at free
  cases free

/-- The coordinates that `map_monitor_thread` gives to a driver on a cell. -/
def Point.lat (cell : Point) : ℚ :=
  baseLat + (cell.y : ℚ) / scaleFactor

def Point.lon (cell : Point) : ℚ :=
  baseLon + (cell.x : ℚ) / scaleFactor

theorem truncate_intCast (value : Int) : truncate (value : ℚ) = value := by
  simp [truncate]

theorem gridCoordinate_cell (base : ℚ) (value : Int) :
    gridCoordinate base (base + (value : ℚ) / scaleFactor) = value := by
  have cancelled : (base + (value : ℚ) / scaleFactor - base) * scaleFactor = value := by
    rw [add_sub_cancel_left]
    exact div_mul_cancel₀ _ (by decide : scaleFactor ≠ 0)
  rw [gridCoordinate, cancelled, truncate_intCast]

theorem clampCoordinate_of_inside {value : Int} {bound : Nat} (lower : 0 ≤ value)
    (upper : value < bound) : clampCoordinate value bound = value := by
  simp only [clampCoordinate]
  rw [if_neg (Int.not_lt.mpr lower), if_neg (Int.not_le.mpr upper)]

theorem clampCoordinate_range {bound : Nat} (positive : 0 < bound) (value : Int) :
    0 ≤ clampCoordinate value bound ∧ clampCoordinate value bound < bound := by
  simp only [clampCoordinate]
  omega

theorem clampedCell_inside (lat lon : ℚ) : (clampedCell lat lon).Inside := by
  have column := clampCoordinate_range (by decide : 0 < mapWidth) (gridCoordinate baseLon lon)
  have row := clampCoordinate_range (by decide : 0 < mapHeight) (gridCoordinate baseLat lat)
  exact ⟨column.1, column.2, row.1, row.2⟩

theorem clampedCell_cell (inside : cell.Inside) : clampedCell cell.lat cell.lon = cell := by
  obtain ⟨left, right, lower, upper⟩ := inside
  rw [clampedCell, Point.lat, Point.lon, gridCoordinate_cell, gridCoordinate_cell,
    clampCoordinate_of_inside left right, clampCoordinate_of_inside lower upper]

/-! ## The greedy choice -/

theorem length_directions : directions.length = 4 :=
  rfl

/-- The offsets in the order of the `dx` and `dy` arrays. -/
def offset (direction : Fin 4) : Int × Int :=
  directions.get (direction.cast length_directions.symm)

theorem drop_directions (direction : Fin 4) :
    directions.drop direction.val = offset direction :: directions.drop (direction.val + 1) :=
  List.drop_eq_getElem_cons (direction.cast length_directions.symm).isLt

def neighbour (cell : Point) (direction : Fin 4) : Point where
  x := cell.x + (offset direction).1
  y := cell.y + (offset direction).2

/-- The score of a neighbour. -/
def score (cell target : Point) (direction : Fin 4) : Int :=
  calculateH (neighbour cell direction).x (neighbour cell direction).y target.x target.y

/-- The directions that the map leaves open. -/
def Open (grid : GridMap) (cell : Point) (direction : Fin 4) : Prop :=
  Free grid (neighbour cell direction)

instance (grid : GridMap) (cell : Point) (direction : Fin 4) :
    Decidable (Open grid cell direction) :=
  inferInstanceAs (Decidable (Free _ _))

/-- No neighbour is free. -/
def Enclosed (grid : GridMap) (cell : Point) : Prop :=
  ∀ direction, ¬ Open grid cell direction

instance (grid : GridMap) (cell : Point) : Decidable (Enclosed grid cell) :=
  inferInstanceAs (Decidable (∀ _, _))

/-- One iteration of the greedy choice. -/
def scanDirection (grid : GridMap) (start target : Point) (direction : Fin 4)
    (best : Option (Fin 4) × Int) : Option (Fin 4) × Int :=
  if Open grid start direction ∧ score start target direction < best.2 then
    (some direction, score start target direction)
  else best

theorem greedyStep_cons (grid : GridMap) (start target : Point) (direction : Fin 4)
    (rest : List (Int × Int)) (best : Option (Fin 4) × Int) :
    greedyStep grid start target (offset direction :: rest) best.2
        (best.1.map (neighbour start)) =
      greedyStep grid start target rest (scanDirection grid start target direction best).2
        ((scanDirection grid start target direction best).1.map (neighbour start)) := by
  rw [greedyStep, scanDirection]
  by_cases accepted : Open grid start direction ∧ score start target direction < best.2
  · rw [if_pos accepted, if_pos ⟨accepted.1.inside, accepted.1, accepted.2⟩]
    rfl
  · rw [if_neg accepted, if_neg fun both => accepted both.2]

/-- The free neighbours among the first directions. -/
def OpenBelow (grid : GridMap) (cell : Point) (done : Nat) (direction : Fin 4) : Prop :=
  direction.val < done ∧ Open grid cell direction

theorem scanDirection_scanned {direction : Fin 4} {bound : Int} {best : Option (Fin 4) × Int}
    (scanned : Scanned (OpenBelow grid start direction.val) (score start target) bound best) :
    Scanned (OpenBelow grid start (direction.val + 1)) (score start target) bound
      (scanDirection grid start target direction best) := by
  rw [scanDirection]
  by_cases free : Open grid start direction
  · have wider : ∀ other, OpenBelow grid start (direction.val + 1) other ↔
        OpenBelow grid start direction.val other ∨ other = direction :=
      below_succ_of_accepted free
    by_cases closer : score start target direction < best.2
    · rw [if_pos ⟨free, closer⟩]
      exact scanned.replace wider closer
    · rw [if_neg fun both => closer both.2]
      exact scanned.keep wider (fun _ member => member.1) closer
  · rw [if_neg fun both => free both.1]
    exact scanned.skip (below_succ_of_rejected free)

/-- The rest of the greedy choice continues the scan. -/
theorem greedyStep_scanned {bound : Int} {done : Nat} (within : done ≤ 4)
    {best : Option (Fin 4) × Int}
    (scanned : Scanned (OpenBelow grid start done) (score start target) bound best) :
    ∃ last, greedyStep grid start target (directions.drop done) best.2
        (best.1.map (neighbour start)) = last.1.map (neighbour start) ∧
      Scanned (Open grid start) (score start target) bound last := by
  induction within using Nat.decreasingInduction generalizing best with
  | self =>
      refine ⟨best, rfl, scanned.skip fun other => ?_⟩
      exact (and_iff_right other.isLt).symm
  | of_succ done before ih =>
      let direction : Fin 4 := ⟨done, before⟩
      rw [drop_directions direction, greedyStep_cons]
      have kept : Scanned (OpenBelow grid start (direction.val + 1)) (score start target) bound
          (scanDirection grid start target direction best) := scanDirection_scanned scanned
      exact ih kept

/-- The greedy choice takes the first nearest free neighbour. -/
theorem greedyStep_firstLeast (near : ∀ direction, Open grid start direction →
    score start target direction < 999999) :
    (greedyStep grid start target directions 999999 none = none ∧ Enclosed grid start) ∨
      ∃ direction, greedyStep grid start target directions 999999 none =
          some (neighbour start direction) ∧
        FirstLeast (Open grid start) (score start target) direction := by
  have fresh : Scanned (OpenBelow grid start 0) (score start target) 999999 (none, 999999) :=
    .nothing fun other member => absurd member.1 (Nat.not_lt_zero _)
  obtain ⟨last, chosen, scanned⟩ := greedyStep_scanned (Nat.zero_le 4) fresh
  have chosen' : greedyStep grid start target directions 999999 none =
      last.1.map (neighbour start) := chosen
  rw [chosen']
  rcases scanned.result near with ⟨nothing, enclosed⟩ | ⟨direction, found, first⟩
  · rw [nothing]
    exact Or.inl ⟨rfl, enclosed⟩
  · rw [found]
    exact Or.inr ⟨direction, rfl, first⟩

/-! ## One step -/

/-- `get_next_step_astar` between two cells. -/
def nextCell (grid : GridMap) (target cell : Point) : Point :=
  getNextStepAstar grid cell.lat cell.lon target.lat target.lon

theorem getNextStepAstar_eq (grid : GridMap) (startLat startLon targetLat targetLon : ℚ) :
    getNextStepAstar grid startLat startLon targetLat targetLon =
      if clampedCell startLat startLon = clampedCell targetLat targetLon then
        clampedCell startLat startLon
      else
        (greedyStep grid (clampedCell startLat startLon) (clampedCell targetLat targetLon)
          directions 999999 none).getD (clampedCell startLat startLon) := by
  rw [getNextStepAstar]
  simp only [Point.ext_iff]

/-- The distance between two cells of the map. -/
theorem calculateH_range {x y tx ty : Int} (inside : InsideMap x y) (goal : InsideMap tx ty) :
    0 ≤ calculateH x y tx ty ∧ calculateH x y tx ty ≤ 58 := by
  obtain ⟨left, right, lower, upper⟩ := inside
  obtain ⟨left', right', lower', upper'⟩ := goal
  have width : (mapWidth : Int) = 40 := rfl
  have height : (mapHeight : Int) = 20 := rfl
  rw [calculateH]
  omega

theorem score_lt (inside : target.Inside) {direction : Fin 4} (free : Open grid cell direction) :
    score cell target direction < 999999 := by
  exact (calculateH_range free.inside inside).2.trans_lt (by decide)

/-- Between two cells the step goes to the first nearest free neighbour, if
there is one. -/
theorem getNextStepAstar_step (grid : GridMap) {startLat startLon targetLat targetLon : ℚ}
    (apart : clampedCell startLat startLon ≠ clampedCell targetLat targetLon) :
    (getNextStepAstar grid startLat startLon targetLat targetLon = clampedCell startLat startLon ∧
        Enclosed grid (clampedCell startLat startLon)) ∨
      ∃ direction, getNextStepAstar grid startLat startLon targetLat targetLon =
          neighbour (clampedCell startLat startLon) direction ∧
        FirstLeast (Open grid (clampedCell startLat startLon))
          (score (clampedCell startLat startLon) (clampedCell targetLat targetLon)) direction := by
  rw [getNextStepAstar_eq, if_neg apart]
  have bounded : ∀ direction, Open grid (clampedCell startLat startLon) direction →
      score (clampedCell startLat startLon) (clampedCell targetLat targetLon) direction < 999999 :=
    fun _ free => score_lt (clampedCell_inside targetLat targetLon) free
  rcases greedyStep_firstLeast bounded with ⟨nothing, enclosed⟩ | ⟨direction, found, first⟩
  · rw [nothing]
    exact Or.inl ⟨rfl, enclosed⟩
  · rw [found]
    exact Or.inr ⟨direction, rfl, first⟩

theorem nextCell_target (inside : target.Inside) : nextCell grid target target = target := by
  rw [nextCell, getNextStepAstar_eq, if_pos rfl, clampedCell_cell inside]

theorem nextCell_step (inside : cell.Inside) (goal : target.Inside) (apart : cell ≠ target) :
    (nextCell grid target cell = cell ∧ Enclosed grid cell) ∨
      ∃ direction, nextCell grid target cell = neighbour cell direction ∧
        FirstLeast (Open grid cell) (score cell target) direction := by
  have separate : clampedCell cell.lat cell.lon ≠ clampedCell target.lat target.lon := by
    rwa [clampedCell_cell inside, clampedCell_cell goal]
  have step := getNextStepAstar_step grid separate
  rwa [clampedCell_cell inside, clampedCell_cell goal] at step

theorem nextCell_of_firstLeast (inside : cell.Inside) (goal : target.Inside)
    (apart : cell ≠ target) {direction : Fin 4}
    (first : FirstLeast (Open grid cell) (score cell target) direction) :
    nextCell grid target cell = neighbour cell direction := by
  rcases nextCell_step inside goal apart with ⟨_, enclosed⟩ | ⟨other, moved, least⟩
  · exact absurd first.among (enclosed direction)
  · rw [moved, least.unique first]

/-! ## Closer neighbours -/

/-- A direction leads closer to the target. -/
def Closer (cell target : Point) : Fin 4 → Prop
  | 0 => target.y < cell.y
  | 1 => cell.y < target.y
  | 2 => target.x < cell.x
  | 3 => cell.x < target.x

instance (cell target : Point) (direction : Fin 4) : Decidable (Closer cell target direction) :=
  match direction with
  | 0 => inferInstanceAs (Decidable (_ < _))
  | 1 => inferInstanceAs (Decidable (_ < _))
  | 2 => inferInstanceAs (Decidable (_ < _))
  | 3 => inferInstanceAs (Decidable (_ < _))

/-- The way back. -/
def opposite : Fin 4 → Fin 4
  | 0 => 1
  | 1 => 0
  | 2 => 3
  | 3 => 2

theorem neighbour_up (cell : Point) : neighbour cell 0 = { cell with y := cell.y - 1 } := by
  simp [neighbour, offset, directions, Int.sub_eq_add_neg]

theorem neighbour_down (cell : Point) : neighbour cell 1 = { cell with y := cell.y + 1 } := by
  simp [neighbour, offset, directions]

theorem neighbour_left (cell : Point) : neighbour cell 2 = { cell with x := cell.x - 1 } := by
  simp [neighbour, offset, directions, Int.sub_eq_add_neg]

theorem neighbour_right (cell : Point) : neighbour cell 3 = { cell with x := cell.x + 1 } := by
  simp [neighbour, offset, directions]

theorem cell_ne_neighbour (cell : Point) (direction : Fin 4) : cell ≠ neighbour cell direction := by
  intro same
  match direction with
  | 0 => simp only [neighbour_up, Point.ext_iff] at same; omega
  | 1 => simp only [neighbour_down, Point.ext_iff] at same; omega
  | 2 => simp only [neighbour_left, Point.ext_iff] at same; omega
  | 3 => simp only [neighbour_right, Point.ext_iff] at same; omega

theorem neighbour_opposite (cell : Point) (direction : Fin 4) :
    neighbour (neighbour cell direction) (opposite direction) = cell := by
  match direction with
  | 0 => simp [opposite, neighbour_up, neighbour_down]
  | 1 => simp [opposite, neighbour_up, neighbour_down]
  | 2 => simp [opposite, neighbour_left, neighbour_right]
  | 3 => simp [opposite, neighbour_left, neighbour_right]

/-- After a step that did not lead closer, the way back does. -/
theorem closer_opposite {direction : Fin 4} (farther : ¬ Closer cell target direction) :
    Closer (neighbour cell direction) target (opposite direction) := by
  match direction with
  | 0 => simp only [Closer, opposite, neighbour_up] at farther ⊢; omega
  | 1 => simp only [Closer, opposite, neighbour_down] at farther ⊢; omega
  | 2 => simp only [Closer, opposite, neighbour_left] at farther ⊢; omega
  | 3 => simp only [Closer, opposite, neighbour_right] at farther ⊢; omega

/-- Every step changes the distance by one. -/
theorem score_eq (cell target : Point) (direction : Fin 4) :
    score cell target direction = calculateH cell.x cell.y target.x target.y +
      if Closer cell target direction then -1 else 1 := by
  match direction with
  | 0 => simp only [score, calculateH, Closer, neighbour_up]; omega
  | 1 => simp only [score, calculateH, Closer, neighbour_down]; omega
  | 2 => simp only [score, calculateH, Closer, neighbour_left]; omega
  | 3 => simp only [score, calculateH, Closer, neighbour_right]; omega

theorem not_closer_again {direction : Fin 4} (farther : ¬ Closer cell target direction) :
    ¬ Closer (neighbour cell direction) target direction := by
  match direction with
  | 0 => simp only [Closer, neighbour_up] at farther ⊢; omega
  | 1 => simp only [Closer, neighbour_down] at farther ⊢; omega
  | 2 => simp only [Closer, neighbour_left] at farther ⊢; omega
  | 3 => simp only [Closer, neighbour_right] at farther ⊢; omega

theorem apart_of_closer {direction : Fin 4} (closer : Closer cell target direction) :
    cell ≠ target := by
  rintro rfl
  match direction with
  | 0 | 1 | 2 | 3 => exact absurd closer (Int.lt_irrefl _)

/-- A step to the side does not change which row is closer. -/
theorem closer_of_sideways {sideways row : Fin 4} (column : 2 ≤ sideways) (isRow : row < 2)
    (closer : Closer (neighbour cell sideways) target row) : Closer cell target row := by
  match sideways, row with
  | 2, 0 | 2, 1 =>
      rw [neighbour_left] at closer
      exact closer
  | 3, 0 | 3, 1 =>
      rw [neighbour_right] at closer
      exact closer

/-- The first free neighbour that is closer to the target. -/
structure FirstCloser (grid : GridMap) (target cell : Point) (direction : Fin 4) : Prop where
  free : Open grid cell direction
  closer : Closer cell target direction
  first : ∀ other < direction, Open grid cell other → ¬ Closer cell target other

/-- The first free neighbour, when none of them is closer. -/
structure FirstOpen (grid : GridMap) (target cell : Point) (direction : Fin 4) : Prop where
  free : Open grid cell direction
  farther : ∀ other, Open grid cell other → ¬ Closer cell target other
  first : ∀ other < direction, ¬ Open grid cell other

section Choice

variable {direction : Fin 4} (inside : cell.Inside) (goal : target.Inside)

include inside goal

theorem FirstCloser.next (taken : FirstCloser grid target cell direction) :
    nextCell grid target cell = neighbour cell direction := by
  apply nextCell_of_firstLeast inside goal (apart_of_closer taken.closer)
  constructor
  · exact taken.free
  · intro other _
    rw [score_eq, score_eq, if_pos taken.closer]
    split <;> omega
  · intro other free equal
    by_contra before
    rw [score_eq, score_eq, if_pos taken.closer,
      if_neg (taken.first other (Fin.not_le.mp before) free)] at equal
    omega

theorem FirstOpen.next (apart : cell ≠ target) (taken : FirstOpen grid target cell direction) :
    nextCell grid target cell = neighbour cell direction := by
  apply nextCell_of_firstLeast inside goal apart
  constructor
  · exact taken.free
  · intro other free
    rw [score_eq, score_eq, if_neg (taken.farther _ taken.free), if_neg (taken.farther other free)]
  · intro other free _
    by_contra before
    exact taken.first other (Fin.not_le.mp before) free

/-- There is no third kind of step. -/
theorem nextCell_choice (apart : cell ≠ target) :
    (nextCell grid target cell = cell ∧ Enclosed grid cell) ∨
      (∃ direction, FirstCloser grid target cell direction) ∨
      ∃ direction, FirstOpen grid target cell direction := by
  rcases nextCell_step inside goal apart with stays | ⟨direction, _, found⟩
  · exact Or.inl stays
  · by_cases closer : Closer cell target direction
    · refine Or.inr (Or.inl ⟨direction, found.among, closer, ?_⟩)
      intro other before free closer'
      have equal : score cell target other = score cell target direction := by
        rw [score_eq, score_eq, if_pos closer, if_pos closer']
      exact absurd (found.first other free equal) (Fin.not_le.mpr before)
    · have farther : ∀ other, Open grid cell other → ¬ Closer cell target other := by
        intro other free closer'
        have least := found.least other free
        rw [score_eq, score_eq, if_neg closer, if_pos closer'] at least
        omega
      refine Or.inr (Or.inr ⟨direction, found.among, farther, ?_⟩)
      intro other before free
      have equal : score cell target other = score cell target direction := by
        rw [score_eq, score_eq, if_neg closer, if_neg (farther other free)]
      exact absurd (found.first other free equal) (Fin.not_le.mpr before)

end Choice

/-! ## The way of a driver -/

/-- The cells from which the steps lead to the target: each is left for the
first closer free neighbour, or, where no free neighbour is closer and both rows
are blocked, to the side into a column where the next row toward the target is
free. -/
inductive Staircase (grid : GridMap) (target : Point) : Point → Prop
  | arrived : Staircase grid target target
  | closer {cell : Point} {direction : Fin 4} (taken : FirstCloser grid target cell direction)
      (rest : Staircase grid target (neighbour cell direction)) : Staircase grid target cell
  | aside {cell : Point} {sideways row : Fin 4} (taken : FirstOpen grid target cell sideways)
      (column : 2 ≤ sideways) (isRow : row < 2)
      (turned : FirstCloser grid target (neighbour cell sideways) row)
      (rest : Staircase grid target (neighbour (neighbour cell sideways) row)) :
      Staircase grid target cell

/-- What the next one or two steps do. -/
inductive Advance (grid : GridMap) (target cell : Point) : Prop
  | enclosed (stays : nextCell grid target cell = cell) (closed : Enclosed grid cell)
  | closer {direction : Fin 4} (taken : FirstCloser grid target cell direction)
  | aside {sideways row : Fin 4} (taken : FirstOpen grid target cell sideways)
      (column : 2 ≤ sideways) (isRow : row < 2)
      (turned : FirstCloser grid target (neighbour cell sideways) row)
  | back (returns : nextCell grid target (nextCell grid target cell) = cell)

/-- From a neighbour that is not closer, and has no free row toward the target,
the next step leads back. -/
theorem FirstOpen.back (free : Free grid cell) (goal : target.Inside) (apart : cell ≠ target)
    {direction : Fin 4} (taken : FirstOpen grid target cell direction)
    (blocked : 2 ≤ direction → ∀ row < 2, Open grid (neighbour cell direction) row →
      ¬ Closer (neighbour cell direction) target row) :
    nextCell grid target (nextCell grid target cell) = cell := by
  have farther := taken.farther direction taken.free
  have returning : FirstCloser grid target (neighbour cell direction) (opposite direction) := by
    constructor
    · rw [Open, neighbour_opposite]
      exact free
    · exact closer_opposite farther
    · intro other before isOpen
      have kinds : ∀ direction other : Fin 4, other < opposite direction →
          other = direction ∨ 2 ≤ direction ∧ other < 2 := by decide
      rcases kinds direction other before with rfl | ⟨column, row⟩
      · exact not_closer_again farther
      · exact blocked column other row isOpen
  have arrives : (neighbour cell direction).Inside := Free.inside taken.free
  rw [taken.next free.inside goal apart, returning.next arrives goal, neighbour_opposite]

theorem advance (free : Free grid cell) (goal : target.Inside) (apart : cell ≠ target) :
    Advance grid target cell := by
  rcases nextCell_choice free.inside goal apart with
    ⟨stays, closed⟩ | ⟨direction, taken⟩ | ⟨direction, taken⟩
  · exact .enclosed stays closed
  · exact .closer taken
  · by_cases turns : 2 ≤ direction ∧ ∃ row < 2, Open grid (neighbour cell direction) row ∧
        Closer (neighbour cell direction) target row
    · obtain ⟨column, row, isRow, isOpen, closer⟩ := turns
      refine .aside taken column isRow ⟨isOpen, closer, ?_⟩
      -- the two rows cannot both be closer
      intro other before _ closer'
      match row, other with
      | 1, 0 =>
          simp only [Closer] at closer closer'
          omega
    · apply Advance.back
      apply taken.back free goal apart
      intro column row isRow isOpen closer
      exact turns ⟨column, row, isRow, isOpen, closer⟩

/-- A driver that goes back to a cell, or stays on it, has gained nothing: only
the other steps can lead to the target. -/
theorem staircase_of_reaches (goal : target.Inside) {n : Nat} (free : Free grid cell)
    (reaches : (nextCell grid target)^[n] cell = target) : Staircase grid target cell := by
  induction n using Nat.strong_induction_on generalizing cell with
  | _ n ih =>
      by_cases arrived : cell = target
      · subst arrived
        exact .arrived
      · obtain ⟨m, rfl⟩ : ∃ m, n = m + 1 := by
          cases n with
          | zero => exact absurd reaches arrived
          | succ m => exact ⟨m, rfl⟩
        rw [Function.iterate_succ_apply] at reaches
        cases advance free goal arrived with
        | enclosed stays _ =>
            rw [stays] at reaches
            exact ih m (Nat.lt_succ_self m) free reaches
        | closer taken =>
            rw [taken.next free.inside goal] at reaches
            exact .closer taken (ih m (Nat.lt_succ_self m) taken.free reaches)
        | aside taken column isRow turned =>
            have arrives : (neighbour cell _).Inside := Free.inside taken.free
            rw [taken.next free.inside goal arrived] at reaches
            cases m with
            | zero => exact absurd reaches (apart_of_closer turned.closer)
            | succ m =>
                rw [Function.iterate_succ_apply, turned.next arrives goal] at reaches
                exact .aside taken column isRow turned
                  (ih m (Nat.lt_succ_of_lt (Nat.lt_succ_self m)) turned.free reaches)
        | back returns =>
            cases m with
            | zero =>
                have there : nextCell grid target cell = target := reaches
                rw [there, nextCell_target goal] at returns
                exact absurd returns.symm arrived
            | succ m =>
                rw [Function.iterate_succ_apply, returns] at reaches
                exact ih m (Nat.lt_succ_of_lt (Nat.lt_succ_self m)) free reaches

theorem Staircase.reaches (goal : target.Inside) (way : Staircase grid target cell)
    (free : Free grid cell) : ∃ n, (nextCell grid target)^[n] cell = target := by
  induction way with
  | arrived => exact ⟨0, rfl⟩
  | closer taken _ ih =>
      obtain ⟨n, reaches⟩ := ih taken.free
      refine ⟨n + 1, ?_⟩
      rw [Function.iterate_succ_apply, taken.next free.inside goal, reaches]
  | @aside cell sideways row taken column isRow turned _ ih =>
      obtain ⟨n, reaches⟩ := ih turned.free
      have apart : cell ≠ target :=
        apart_of_closer (closer_of_sideways column isRow turned.closer)
      have arrives : (neighbour cell sideways).Inside := Free.inside taken.free
      refine ⟨n + 2, ?_⟩
      rw [Function.iterate_succ_apply, Function.iterate_succ_apply,
        taken.next free.inside goal apart, turned.next arrives goal, reaches]

/-- Two neighbouring cells, the second one free. -/
def Adjacent (grid : GridMap) (first second : Point) : Prop :=
  Free grid second ∧ ∃ direction, second = neighbour first direction

/-- A path of free cells leads from one cell to another. -/
def Joined (grid : GridMap) : Point → Point → Prop :=
  Relation.ReflTransGen (Adjacent grid)

instance (grid : GridMap) (first second : Point) : Decidable (Adjacent grid first second) :=
  inferInstanceAs (Decidable (_ ∧ _))

theorem Staircase.joined (way : Staircase grid target cell) : Joined grid cell target := by
  induction way with
  | arrived => exact .refl
  | closer taken _ ih => exact ih.head ⟨taken.free, _, rfl⟩
  | aside taken _ _ turned _ ih =>
      exact (ih.head ⟨turned.free, _, rfl⟩).head ⟨taken.free, _, rfl⟩

theorem Enclosed.eq_of_joined (closed : Enclosed grid cell) (joined : Joined grid cell target) :
    cell = target := by
  rcases Relation.ReflTransGen.cases_head joined with same | ⟨next, ⟨free, direction, rfl⟩, _⟩
  · exact same
  · exact absurd free (closed direction)

/-- On every map, the steps lead from a free cell to every free cell that a path
joins to it, and stay where there is no path, exactly when the cell has no free
neighbour or the way of a driver reaches the target. -/
theorem nextCell_leads_iff (free : Free grid start) (goal : Free grid target) :
    ((Joined grid start target → ∃ n, (nextCell grid target)^[n] start = target) ∧
        (start = target ∨ ¬ Joined grid start target → nextCell grid target start = start)) ↔
      Staircase grid target start ∨ Enclosed grid start := by
  constructor
  · rintro ⟨leads, stays⟩
    by_cases joined : Joined grid start target
    · obtain ⟨n, reaches⟩ := leads joined
      exact Or.inl (staircase_of_reaches goal.inside free reaches)
    · have apart : start ≠ target := by
        rintro rfl
        exact joined .refl
      have still := stays (Or.inr joined)
      right
      rcases nextCell_step free.inside goal.inside apart with ⟨_, closed⟩ | ⟨direction, moved, _⟩
      · exact closed
      · rw [still] at moved
        exact absurd moved (cell_ne_neighbour start direction)
  · intro condition
    constructor
    · intro joined
      rcases condition with way | closed
      · exact way.reaches goal.inside free
      · exact ⟨0, closed.eq_of_joined joined⟩
    · rintro (rfl | separate)
      · exact nextCell_target goal.inside
      · rcases condition with way | closed
        · exact absurd way.joined separate
        · have apart : start ≠ target := by
            rintro rfl
            exact separate .refl
          rcases nextCell_step free.inside goal.inside apart with ⟨stays, _⟩ | ⟨direction, _, first⟩
          · exact stays
          · exact absurd first.among (closed direction)

theorem nextCell_leads_iff_corner :
    ((Joined initMapObstacles ⟨0, 0⟩ ⟨0, 1⟩ →
          ∃ n, (nextCell initMapObstacles ⟨0, 1⟩)^[n] ⟨0, 0⟩ = ⟨0, 1⟩) ∧
        ((⟨0, 0⟩ : Point) = ⟨0, 1⟩ ∨ ¬ Joined initMapObstacles ⟨0, 0⟩ ⟨0, 1⟩ →
          nextCell initMapObstacles ⟨0, 1⟩ ⟨0, 0⟩ = ⟨0, 0⟩)) ↔
      Staircase initMapObstacles ⟨0, 1⟩ ⟨0, 0⟩ ∨ Enclosed initMapObstacles ⟨0, 0⟩ :=
  nextCell_leads_iff (by decide) (by decide)

/-- A cell on the left bank of the river. -/
def leftBank : Point where
  x := 19
  y := 10

/-- The cell opposite to it. -/
def rightBank : Point where
  x := 21
  y := 10

/-- Around the upper end of the river. -/
def aroundRiver : List Point :=
  [⟨19, 9⟩, ⟨19, 8⟩, ⟨19, 7⟩, ⟨19, 6⟩, ⟨19, 5⟩, ⟨19, 4⟩, ⟨20, 4⟩, ⟨21, 4⟩, ⟨21, 5⟩, ⟨21, 6⟩,
    ⟨21, 7⟩, ⟨21, 8⟩, ⟨21, 9⟩, rightBank]

theorem river_joined : Joined initMapObstacles leftBank rightBank :=
  List.relationReflTransGen_of_exists_isChain_cons aroundRiver (by decide) rfl

/-- At the river a driver goes back and forth between two cells. -/
theorem river_iterate (n : Nat) :
    (nextCell initMapObstacles rightBank)^[n] leftBank = leftBank ∨
      (nextCell initMapObstacles rightBank)^[n] leftBank = neighbour leftBank 0 := by
  have goal : rightBank.Inside := by decide
  have up : FirstOpen initMapObstacles rightBank leftBank 0 := by
    constructor <;> decide
  have down : FirstCloser initMapObstacles rightBank (neighbour leftBank 0) 1 := by
    constructor <;> decide
  induction n with
  | zero => exact Or.inl rfl
  | succ n ih =>
      rw [Function.iterate_succ_apply']
      rcases ih with at_ | at_
      · rw [at_]
        exact Or.inr (up.next (by decide) goal (by decide))
      · rw [at_]
        exact Or.inl (down.next (by decide) goal)

/-- On the map of the program, no step count leads across the river. -/
theorem nextCell_river :
    Free initMapObstacles leftBank ∧ Free initMapObstacles rightBank ∧
      ¬ ((Joined initMapObstacles leftBank rightBank →
            ∃ n, (nextCell initMapObstacles rightBank)^[n] leftBank = rightBank) ∧
          (leftBank = rightBank ∨ ¬ Joined initMapObstacles leftBank rightBank →
            nextCell initMapObstacles rightBank leftBank = leftBank)) := by
  refine ⟨by decide, by decide, ?_⟩
  rintro ⟨leads, _⟩
  obtain ⟨n, reaches⟩ := leads river_joined
  rcases river_iterate n with at_ | at_
  · rw [at_] at reaches
    exact absurd reaches (by decide)
  · rw [at_] at reaches
    exact absurd reaches (by decide)

end RideHailing.Server
