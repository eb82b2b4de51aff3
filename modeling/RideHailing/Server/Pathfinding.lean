import RideHailing.Common.SharedData

/-!
# Grid map and path search

Coordinates are projected to cells of a 40 by 20 grid by truncation toward
zero.  `get_next_step_astar` runs a bounded A* search whose outcome it discards
and then steps to the free neighbour closest to the target.
-/

namespace RideHailing.Server

open RideHailing.Common

/-- `MAP_WIDTH`. -/
abbrev mapWidth : Nat := 40

/-- `MAP_HEIGHT`. -/
abbrev mapHeight : Nat := 20

/-- `SCALE_FACTOR`. -/
def scaleFactor : ℚ := 2000

/-- `grid_map`: nonzero entries are walls. -/
abbrev GridMap := Fin mapHeight → Fin mapWidth → Int

/-- `init_map_obstacles`: a river and two buildings. -/
def initMapObstacles : GridMap := fun y x =>
  if 5 ≤ y.val ∧ y.val < 15 ∧ x.val = 20 then 1
  else if 3 ≤ y.val ∧ y.val < 7 ∧ 5 ≤ x.val ∧ x.val < 10 then 1
  else if 12 ≤ y.val ∧ y.val < 16 ∧ 30 ≤ x.val ∧ x.val < 35 then 1
  else 0

/-- The bounds test made before every grid access. -/
def InsideMap (x y : Int) : Prop :=
  0 ≤ x ∧ x < mapWidth ∧ 0 ≤ y ∧ y < mapHeight

instance (x y : Int) : Decidable (InsideMap x y) :=
  inferInstanceAs (Decidable (_ ∧ _))

/-- `is_obstacle`: everything outside the map counts as a wall. -/
def isObstacle (grid : GridMap) (x y : Int) : Bool :=
  if inside : InsideMap x y then
    grid ⟨y.toNat, by unfold InsideMap at inside; omega⟩
      ⟨x.toNat, by unfold InsideMap at inside; omega⟩ != 0
  else true

theorem isObstacle_of_outside (grid : GridMap) {x y : Int} (outside : ¬ InsideMap x y) :
    isObstacle grid x y = true := by
  rw [isObstacle, dif_neg outside]

@[ext]
structure Point where
  x : Int
  y : Int
  deriving DecidableEq

/-- Conversion of a floating-point value to `int`. -/
def truncate (value : ℚ) : Int :=
  value.num.tdiv value.den

/-- The grid coordinate of a map coordinate relative to its base. -/
def gridCoordinate (base value : ℚ) : Int :=
  truncate ((value - base) * scaleFactor)

/-- `calculate_h`: Manhattan distance. -/
def calculateH (x y tx ty : Int) : Int :=
  (x - tx).natAbs + (y - ty).natAbs

structure Node where
  x : Int
  y : Int
  gCost : Int
  hCost : Int
  fCost : Int
  parentIndex : Int
  deriving DecidableEq

/-- `MAX_OPEN_NODES`. -/
abbrev maxOpenNodes : Nat := mapWidth * mapHeight * 5

/-- The neighbour offsets in the order of the `dx` and `dy` arrays. -/
def directions : List (Int × Int) :=
  [(0, -1), (0, 1), (-1, 0), (1, 0)]

/-- The used part of `open_list` and the marks of `closed_list`, the latter by
row and column. -/
structure Search where
  openList : List Node
  closedList : Int → Int → Bool

/-- Index of the first node of least `f_cost` below the given bound. -/
def selectCurrent : List Node → Nat → Int → Option Nat → Option Nat
  | [], _, _, current => current
  | node :: rest, i, lowest, current =>
      if node.fCost < lowest then selectCurrent rest (i + 1) node.fCost (some i)
      else selectCurrent rest (i + 1) lowest current

/-- Removal of a node: the last one takes its place. -/
def removeNode (openList : List Node) (index : Nat) (last : Node) : List Node :=
  (openList.set index last).dropLast

/-- Push the open neighbours of a node; a full list ends the expansion. -/
def expandNode (grid : GridMap) (target : Point) (current : Node) :
    List (Int × Int) → Search → Search
  | [], search => search
  | (dx, dy) :: rest, search =>
      let nx := current.x + dx
      let ny := current.y + dy
      if InsideMap nx ny then
        if isObstacle grid nx ny || search.closedList ny nx then
          expandNode grid target current rest search
        else if maxOpenNodes ≤ search.openList.length then search
        else
          let hCost := calculateH nx ny target.x target.y
          expandNode grid target current rest
            { search with
              openList := search.openList ++
                [{ x := nx, y := ny, gCost := current.gCost + 1, hCost,
                   fCost := current.gCost + 1 + hCost, parentIndex := -1 }] }
      else expandNode grid target current rest search

/-- The A* loop with the remaining number of steps. -/
def searchLoop (grid : GridMap) (target : Point) : Nat → Search → Search
  | 0, search => search
  | steps + 1, search =>
      match selectCurrent search.openList 0 999999 none with
      | none => search
      | some index =>
          match search.openList[index]?, search.openList.getLast? with
          | some current, some last =>
              let popped : Search :=
                { openList := removeNode search.openList index last
                  closedList := fun y x =>
                    (y == current.y && x == current.x) || search.closedList y x }
              if current.x = target.x ∧ current.y = target.y then popped
              else searchLoop grid target steps (expandNode grid target current directions popped)
          | _, _ => search

/-- The search started from a cell, with its limit of 3000 steps. -/
def astarSearch (grid : GridMap) (start target : Point) : Search :=
  let hCost := calculateH start.x start.y target.x target.y
  searchLoop grid target 3000
    { openList :=
        [{ x := start.x, y := start.y, gCost := 0, hCost, fCost := hCost, parentIndex := -1 }]
      closedList := fun _ _ => false }

/-- The local greedy choice over the four neighbours: the least score and the
cell that has it. -/
def greedyStep (grid : GridMap) (start target : Point) :
    List (Int × Int) → Int → Option Point → Option Point
  | [], _, best => best
  | (dx, dy) :: rest, minScore, best =>
      let nx := start.x + dx
      let ny := start.y + dy
      if InsideMap nx ny ∧ isObstacle grid nx ny = false ∧
          calculateH nx ny target.x target.y < minScore then
        greedyStep grid start target rest (calculateH nx ny target.x target.y)
          (some { x := nx, y := ny })
      else greedyStep grid start target rest minScore best

/-- Clamp a coordinate to `0, …, bound - 1`. -/
def clampCoordinate (value : Int) (bound : Nat) : Int :=
  let raised := if value < 0 then 0 else value
  if (bound : Int) ≤ raised then bound - 1 else raised

/-- The cell of a position, moved to the map's border when outside. -/
def clampedCell (lat lon : ℚ) : Point where
  x := clampCoordinate (gridCoordinate baseLon lon) mapWidth
  y := clampCoordinate (gridCoordinate baseLat lat) mapHeight

/-- `get_next_step_astar`. -/
def getNextStepAstar (grid : GridMap) (startLat startLon targetLat targetLon : ℚ) : Point :=
  let start := clampedCell startLat startLon
  let target := clampedCell targetLat targetLon
  if start.x = target.x ∧ start.y = target.y then start
  else
    -- the source keeps only the search's running time, not its result
    let _search := astarSearch grid start target
    (greedyStep grid start target directions 999999 none).getD start

end RideHailing.Server
