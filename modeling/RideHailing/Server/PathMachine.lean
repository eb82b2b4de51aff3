import RideHailing.Loop.Counted
import RideHailing.Server.Pathfinding
import RideHailing.Transition.Labelled
import RideHailing.Transition.Logged

/-!
# The path search as a machine

`get_next_step_astar` from the truncated coordinates on, one test or loop
iteration a step: over `int` indices that are checked at every access to
`open_list` and `closed_list`, and with these accesses as the labels of the
steps.
-/

namespace RideHailing.Server

open RideHailing.Loop
open RideHailing.Transition

/-! ## The arrays -/

/-- The local variables of the search.  An entry of `open_list` that was never
stored is `none`. -/
structure SearchVars where
  openList : Vector (Option Node) maxOpenNodes
  closedList : Vector (Vector Int mapWidth) mapHeight
  openCount : Int
  maxSteps : Int

/-- The variables before the start node is stored. -/
def SearchVars.fresh : SearchVars where
  openList := Vector.replicate maxOpenNodes none
  closedList := Vector.replicate mapHeight (Vector.replicate mapWidth 0)
  openCount := 0
  maxSteps := 3000

/-- An access to one of the two arrays. -/
inductive Access
  | openRead (index : Int)
  | openWrite (index : Int) (node : Node)
  | closedRead (row column : Int)
  | closedWrite (row column : Int)

/-- The access stays within its array, and what is stored lies on the map. -/
def Access.InRange : Access → Prop
  | .openRead index => 0 ≤ index ∧ index < maxOpenNodes
  | .openWrite index node => 0 ≤ index ∧ index < maxOpenNodes ∧ InsideMap node.x node.y
  | .closedRead row column | .closedWrite row column =>
      0 ≤ row ∧ row < mapHeight ∧ 0 ≤ column ∧ column < mapWidth

/-- Read an entry of `open_list`. -/
def readOpen (vars : SearchVars) (index : Int) : Logged Access (Option Node) :=
  .log (.openRead index) ((checkedIndex maxOpenNodes index).bind fun slot => vars.openList[slot])

/-- Store a node in `open_list`. -/
def writeOpen (vars : SearchVars) (index : Int) (node : Node) :
    Logged Access (Option SearchVars) :=
  .log (.openWrite index node) ((checkedIndex maxOpenNodes index).map fun slot =>
    { vars with openList := vars.openList.set slot.val (some node) })

/-- Read a mark of `closed_list`. -/
def readClosed (vars : SearchVars) (row column : Int) : Logged Access (Option Int) :=
  .log (.closedRead row column) ((checkedIndex mapHeight row).bind fun y =>
    (checkedIndex mapWidth column).map fun x => vars.closedList[y][x])

/-- Set a mark of `closed_list`. -/
def markClosed (vars : SearchVars) (row column : Int) : Logged Access (Option SearchVars) :=
  .log (.closedWrite row column) ((checkedIndex mapHeight row).bind fun y =>
    (checkedIndex mapWidth column).map fun x =>
      { vars with closedList := vars.closedList.set y.val (vars.closedList[y].set x.val 1) })

/-- Append a node, whose `f_cost` is filled in from the stored entry. -/
def pushNode (vars : SearchVars) (node : Node) : Logged Access (Option SearchVars) :=
  (writeOpen vars vars.openCount node).attempt fun stored =>
    (readOpen stored stored.openCount).attempt fun entry =>
      (writeOpen stored stored.openCount { entry with fCost := entry.gCost + entry.hCost }).attempt
        fun filled => .pure (some { filled with openCount := filled.openCount + 1 })

/-- Take a node: the last entry is copied over it, and its cell is marked. -/
def popNode (vars : SearchVars) (currentIndex : Int) :
    Logged Access (Option (Node × SearchVars)) :=
  (readOpen vars currentIndex).attempt fun current =>
    (readOpen vars (vars.openCount - 1)).attempt fun last =>
      (writeOpen vars currentIndex last).attempt fun replaced =>
        (markClosed { replaced with openCount := replaced.openCount - 1 } current.y
          current.x).attempt fun marked => .pure (some (current, marked))

/-! ## The steps -/

/-- Where the function stands: before the comparison of the two cells, before
the condition of `while`, before an iteration of one of the three `for` loops,
or behind its `return`. -/
inductive PathState
  | entered
  | testing (vars : SearchVars)
  | selecting (vars : SearchVars) (i : Nat) (lowestF currentIndex : Int)
  | expanding (vars : SearchVars) (current : Node) (i : Nat)
  | choosing (vars : SearchVars) (i : Nat) (minScore bestDir : Int)
  | returned (cell : Point)

/-- The greedy choice begins. -/
def PathState.searched (vars : SearchVars) : PathState :=
  .choosing vars 0 999999 (-1)

/-- The search begins, with the start node in `open_list`. -/
def enterSearch (start target : Point) : Logged Access (Option PathState) :=
  if start.x = target.x ∧ start.y = target.y then .pure (some (.returned start))
  else
    (pushNode SearchVars.fresh
      { x := start.x, y := start.y, gCost := 0,
        hCost := calculateH start.x start.y target.x target.y, fCost := 0,
        parentIndex := -1 }).attempt fun vars => .pure (some (.testing vars))

/-- The condition of `while`, which counts the steps down when a node is left. -/
def testSearch (vars : SearchVars) : PathState :=
  if 0 < vars.openCount then
    let tested := { vars with maxSteps := vars.maxSteps - 1 }
    if 0 < vars.maxSteps then .selecting tested 0 999999 (-1) else .searched tested
  else .searched vars

/-- The selection of the node of least `f_cost`, and what follows it up to the
neighbours. -/
def selectNode (target : Point) (vars : SearchVars) (i : Nat) (lowestF currentIndex : Int) :
    Logged Access (Option PathState) :=
  if (i : Int) < vars.openCount then
    (readOpen vars i).attempt fun node =>
      .pure (some (if node.fCost < lowestF then .selecting vars (i + 1) node.fCost i
        else .selecting vars (i + 1) lowestF currentIndex))
  else if currentIndex = -1 then .pure (some (.searched vars))
  else
    (popNode vars currentIndex).attempt fun popped =>
      .pure (some (if popped.1.x = target.x ∧ popped.1.y = target.y then .searched popped.2
        else .expanding popped.2 popped.1 0))

/-- One neighbour of the current node; behind the last one the loop is left. -/
def expandNeighbour (grid : GridMap) (target : Point) (vars : SearchVars) (current : Node)
    (i : Nat) : Logged Access (Option PathState) :=
  match directions[i]? with
  | none => .pure (some (.testing vars))
  | some (dx, dy) =>
      let nx := current.x + dx
      let ny := current.y + dy
      if InsideMap nx ny then
        -- the access after `||` is made only when there is no wall
        if isObstacle grid nx ny then .pure (some (.expanding vars current (i + 1)))
        else
          (readClosed vars ny nx).attempt fun mark =>
            if mark ≠ 0 then .pure (some (.expanding vars current (i + 1)))
            -- a full `open_list` leaves the `for` loop, not the search
            else if maxOpenNodes ≤ vars.openCount then .pure (some (.testing vars))
            else
              (pushNode vars
                { x := nx, y := ny, gCost := current.gCost + 1,
                  hCost := calculateH nx ny target.x target.y, fCost := 0,
                  parentIndex := -1 }).attempt fun pushed =>
                .pure (some (.expanding pushed current (i + 1)))
      else .pure (some (.expanding vars current (i + 1)))

/-- One direction of the greedy choice; behind the last one the function
returns. -/
def chooseDirection (grid : GridMap) (start target : Point) (vars : SearchVars) (i : Nat)
    (minScore bestDir : Int) : Option PathState :=
  match directions[i]? with
  | some (dx, dy) =>
      let nx := start.x + dx
      let ny := start.y + dy
      if InsideMap nx ny ∧ isObstacle grid nx ny = false ∧
          calculateH nx ny target.x target.y < minScore then
        some (.choosing vars (i + 1) (calculateH nx ny target.x target.y) i)
      else some (.choosing vars (i + 1) minScore bestDir)
  | none =>
      if bestDir ≠ -1 then
        (checkedIndex directions.length bestDir).map fun direction =>
          .returned
            { x := start.x + directions[direction].1, y := start.y + directions[direction].2 }
      else some (.returned start)

/-- One step of `get_next_step_astar` between clamped cells.  It fails at an
access outside an array or to an entry that was never stored, and after the
return. -/
def pathStep (grid : GridMap) (start target : Point) :
    PathState → Logged Access (Option PathState)
  | .entered => enterSearch start target
  | .testing vars => .pure (some (testSearch vars))
  | .selecting vars i lowestF currentIndex => selectNode target vars i lowestF currentIndex
  | .expanding vars current i => expandNeighbour grid target vars current i
  | .choosing vars i minScore bestDir =>
      .pure (chooseDirection grid start target vars i minScore bestDir)
  | .returned _ => .pure none

/-- A cell moved to the map's border when outside. -/
def clampedPoint (x y : Int) : Point where
  x := clampCoordinate x mapWidth
  y := clampCoordinate y mapHeight

/-- `get_next_step_astar` from the truncated coordinates on. -/
def pathSearch (grid : GridMap) (startX startY targetX targetY : Int) :
    System PathState (List Access) where
  initial state := state = .entered
  step state accesses next :=
    pathStep grid (clampedPoint startX startY) (clampedPoint targetX targetY) state =
      ⟨accesses, some next⟩

end RideHailing.Server
