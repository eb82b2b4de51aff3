import RideHailing.Arrays.Filled
import RideHailing.Server.NextStep
import RideHailing.Server.PathMachine

/-!
# The machine refines the search

The used part of `open_list` is the list of the functional search and the marks
of `closed_list` are its marks.  One lemma for each operation on the arrays says
that its accesses are in range and what it leaves; one lemma for each kind of
step says that the rest of the function is unchanged by it and that less is left
to do.
-/

namespace RideHailing.Server

open RideHailing.Arrays
open RideHailing.Loop
open RideHailing.Transition

variable {grid : GridMap} {start target : Point} {vars : SearchVars} {search : Search}
  {node current last : Node} {index i : Nat} {steps : Int}

/-! ## The arrays of a search -/

/-- A node of the map whose costs are those of a path that leaves a number of
steps. -/
structure Node.Legal (steps : Int) (node : Node) : Prop where
  inside : InsideMap node.x node.y
  gCost : 0 ≤ node.gCost ∧ node.gCost + steps ≤ 3000
  hCost : 0 ≤ node.hCost ∧ node.hCost ≤ 58
  fCost : 0 ≤ node.fCost ∧ node.fCost ≤ node.gCost + node.hCost

theorem Node.Legal.fewer {fewer : Int} (legal : node.Legal steps) (le : fewer ≤ steps) :
    node.Legal fewer :=
  { legal with gCost := ⟨legal.gCost.1, by have bound := legal.gCost.2; omega⟩ }

/-- A node as it is first stored, before its `f_cost` is filled in. -/
theorem Node.Legal.of_costs {x y gCost hCost : Int} (inside : InsideMap x y)
    (path : 0 ≤ gCost ∧ gCost + steps ≤ 3000) (distance : 0 ≤ hCost ∧ hCost ≤ 58) :
    Node.Legal steps { x, y, gCost, hCost, fCost := 0, parentIndex := -1 } :=
  ⟨inside, path, distance, Int.le_refl 0, Int.add_nonneg path.1 distance.1⟩

/-- The variables hold the state of a search that may take a number of steps. -/
structure Represents (steps : Int) (vars : SearchVars) (search : Search) : Prop where
  count : vars.openCount = search.openList.length
  holds : Holds vars.openList search.openList
  legal : StoresOnly (Node.Legal steps) vars.openList
  marks : ∀ (row : Fin mapHeight) (column : Fin mapWidth),
    vars.closedList[row][column] ≠ 0 ↔ search.closedList row.val column.val = true

theorem represents_fresh :
    Represents 3000 SearchVars.fresh { openList := [], closedList := fun _ _ => false } where
  count := rfl
  holds := holds_nil
  legal := storesOnly_replicate
  marks row column := by
    simp [SearchVars.fresh]

theorem readOpen_succeeds (entry : vars.openList[index]? = some (some node)) :
    (readOpen vars index).Succeeds Access.InRange (· = node) := by
  obtain ⟨inside, stored⟩ := Vector.getElem?_eq_some_iff.mp entry
  have read : readOpen vars index = .log (.openRead index) (some node) := by
    rw [readOpen, checkedIndex_natCast inside, Option.bind_some, Fin.getElem_fin, stored]
  rw [read]
  exact Logged.succeeds_log ⟨Int.natCast_nonneg index, Int.ofNat_lt.mpr inside⟩ rfl

theorem writeOpen_succeeds (inside : index < maxOpenNodes) (legal : InsideMap node.x node.y) :
    (writeOpen vars index node).Succeeds Access.InRange
      (· = { vars with openList := vars.openList.set index (some node) }) := by
  rw [writeOpen, checkedIndex_natCast inside]
  exact Logged.succeeds_log ⟨Int.natCast_nonneg index, Int.ofNat_lt.mpr inside, legal⟩ rfl

/-- An entry of the used part. -/
theorem Represents.entry (represents : Represents steps vars search)
    (found : search.openList[index]? = some node) :
    vars.openList[index]? = some (some node) ∧ node.Legal steps :=
  ⟨represents.holds.entries index node found,
    represents.legal.of_holds represents.holds found⟩

/-- Fewer steps are left. -/
theorem Represents.fewer {fewer : Int} (represents : Represents steps vars search)
    (le : fewer ≤ steps) : Represents fewer vars search :=
  { represents with legal := fun slot node stored =>
      (represents.legal slot node stored).fewer le }

/-- A cell of the map as indices of the two-dimensional arrays. -/
theorem exists_fin_of_insideMap {row column : Int} (inside : InsideMap column row) :
    ∃ (y : Fin mapHeight) (x : Fin mapWidth), row = (y.val : Int) ∧ column = (x.val : Int) := by
  obtain ⟨left, right, lower, upper⟩ := inside
  lift row to Nat using lower
  lift column to Nat using left
  exact ⟨⟨row, Int.ofNat_lt.mp upper⟩, ⟨column, Int.ofNat_lt.mp right⟩, rfl, rfl⟩

/-- A mark of a cell of the map. -/
theorem Represents.readClosed (represents : Represents steps vars search) {row column : Int}
    (inside : InsideMap column row) :
    (readClosed vars row column).Succeeds Access.InRange
      fun mark => mark ≠ 0 ↔ search.closedList row column = true := by
  obtain ⟨y, x, rfl, rfl⟩ := exists_fin_of_insideMap inside
  obtain ⟨left, right, lower, upper⟩ := inside
  rw [Server.readClosed, checkedIndex_fin, Option.bind_some, checkedIndex_fin]
  exact Logged.succeeds_log ⟨lower, upper, left, right⟩ (represents.marks y x)

/-- Marking a cell of the map. -/
theorem Represents.markClosed (represents : Represents steps vars search) {row column : Int}
    (inside : InsideMap column row) :
    (markClosed vars row column).Succeeds Access.InRange fun marked =>
      Represents steps marked
        { search with
          closedList := fun y x => (y == row && x == column) || search.closedList y x } ∧
        marked.maxSteps = vars.maxSteps := by
  obtain ⟨y, x, rfl, rfl⟩ := exists_fin_of_insideMap inside
  obtain ⟨left, right, lower, upper⟩ := inside
  rw [Server.markClosed, checkedIndex_fin, Option.bind_some, checkedIndex_fin]
  apply Logged.succeeds_log
  · exact ⟨lower, upper, left, right⟩
  · refine ⟨⟨represents.count, represents.holds, represents.legal, ?_⟩, rfl⟩
    intro otherRow otherColumn
    have before := represents.marks otherRow otherColumn
    simp only [Fin.getElem_fin, Vector.getElem_set]
    by_cases sameRow : y.val = otherRow.val
    · by_cases sameColumn : x.val = otherColumn.val
      · simp [sameRow, sameColumn]
      · simpa [sameRow, sameColumn, Ne.symm sameColumn] using before
    · simpa [sameRow, Ne.symm sameRow] using before

/-- Appending a node of the map to a list that has room for it. -/
theorem Represents.pushNode (represents : Represents steps vars search)
    (room : search.openList.length < maxOpenNodes) (legal : node.Legal steps) :
    (pushNode vars node).Succeeds Access.InRange fun pushed =>
      Represents steps pushed
        { search with
          openList := search.openList ++ [{ node with fCost := node.gCost + node.hCost }] } ∧
        pushed.maxSteps = vars.maxSteps := by
  have stored : (vars.openList.set search.openList.length (some node))[search.openList.length]? =
      some (some node) := by
    rw [Vector.getElem?_eq_getElem room, Vector.getElem_set_self]
  have filled : { node with fCost := node.gCost + node.hCost }.Legal steps :=
    { legal with fCost := ⟨Int.add_nonneg legal.gCost.1 legal.hCost.1, Int.le_refl _⟩ }
  rw [Server.pushNode, represents.count]
  apply Logged.Succeeds.attempt (writeOpen_succeeds room legal.inside)
  rintro _ rfl
  simp only [represents.count]
  apply Logged.Succeeds.attempt (readOpen_succeeds stored)
  rintro node rfl
  apply Logged.Succeeds.attempt
  · exact writeOpen_succeeds room filled.inside
  rintro _ rfl
  apply Logged.succeeds_pure
  rw [Vector.set_set]
  refine ⟨⟨?_, represents.holds.push room, represents.legal.set room filled,
    represents.marks⟩, rfl⟩
  simp

/-- Taking a node of the list. -/
theorem Represents.popNode (represents : Represents steps vars search)
    (found : search.openList[index]? = some current)
    (final : search.openList.getLast? = some last) :
    (popNode vars index).Succeeds Access.InRange fun popped =>
      popped.1 = current ∧ current.Legal steps ∧
        Represents steps popped.2
          { openList := removeNode search.openList index last
            closedList := fun y x =>
              (y == current.y && x == current.x) || search.closedList y x } ∧
        popped.2.maxSteps = vars.maxSteps := by
  obtain ⟨entry, legal⟩ := represents.entry found
  have small : index < search.openList.length := (List.getElem?_eq_some_iff.mp found).1
  have room := Nat.lt_of_lt_of_le small represents.holds.fits
  rw [List.getLast?_eq_getElem?] at final
  obtain ⟨lastEntry, lastLegal⟩ := represents.entry final
  have position : vars.openCount - 1 = ((search.openList.length - 1 : Nat) : Int) := by
    rw [represents.count]
    omega
  rw [Server.popNode, position]
  apply Logged.Succeeds.attempt (readOpen_succeeds entry)
  rintro current rfl
  apply Logged.Succeeds.attempt (readOpen_succeeds lastEntry)
  rintro last rfl
  apply Logged.Succeeds.attempt (writeOpen_succeeds room lastLegal.inside)
  rintro _ rfl
  have removed : Represents steps
      { vars with
        openList := vars.openList.set index (some last)
        openCount := vars.openCount - 1 }
      { search with openList := removeNode search.openList index last } := by
    refine ⟨?_, represents.holds.swapRemove small last, represents.legal.set room lastLegal,
      represents.marks⟩
    rw [removeNode, List.length_dropLast, List.length_set]
    exact position
  apply Logged.Succeeds.attempt (removed.markClosed legal.inside)
  rintro marked ⟨represented, kept⟩
  exact Logged.succeeds_pure ⟨rfl, legal, represented, kept⟩

/-! ## What is left to do -/

/-- What the function returns between two cells; it does not depend on what the
search found. -/
def nextStep (grid : GridMap) (start target : Point) : Point :=
  if start.x = target.x ∧ start.y = target.y then start
  else (greedyStep grid start target directions 999999 none).getD start

theorem getNextStepAstar_eq_nextStep (grid : GridMap) (startLat startLon targetLat targetLon : ℚ) :
    getNextStepAstar grid startLat startLon targetLat targetLon =
      nextStep grid (clampedCell startLat startLon) (clampedCell targetLat targetLon) :=
  rfl

/-- The `int` variable that holds an index or, when there is none, `-1`. -/
def orMinusOne (index : Option Nat) : Int :=
  index.elim (-1) Int.ofNat

/-- The machine stands at a point of the functional search or of the greedy
choice: what is left of them from there gives what the whole of them gives. -/
inductive Refines (grid : GridMap) (start target : Point) : PathState → Prop
  | entered : Refines grid start target .entered
  | testing {vars : SearchVars} {search : Search} (apart : start ≠ target)
      (represents : Represents vars.maxSteps vars search) (nonneg : 0 ≤ vars.maxSteps)
      (rest : searchLoop grid target vars.maxSteps.toNat search =
        astarSearch grid start target) : Refines grid start target (.testing vars)
  | selecting {vars : SearchVars} {search : Search} {i : Nat} {lowestF currentIndex : Int}
      {found : Option Nat} (apart : start ≠ target)
      (represents : Represents (vars.maxSteps + 1) vars search) (nonneg : 0 ≤ vars.maxSteps)
      (within : i ≤ search.openList.length) (position : currentIndex = orMinusOne found)
      (selection : selectCurrent (search.openList.drop i) i lowestF found =
        selectCurrent search.openList 0 999999 none)
      (rest : searchLoop grid target (vars.maxSteps.toNat + 1) search =
        astarSearch grid start target) :
      Refines grid start target (.selecting vars i lowestF currentIndex)
  | expanding {vars : SearchVars} {search : Search} {current : Node} {i : Nat}
      (apart : start ≠ target) (represents : Represents vars.maxSteps vars search)
      (nonneg : 0 ≤ vars.maxSteps) (legal : current.Legal (vars.maxSteps + 1))
      (rest : searchLoop grid target vars.maxSteps.toNat
        (expandNode grid target current (directions.drop i) search) =
          astarSearch grid start target) :
      Refines grid start target (.expanding vars current i)
  | choosing {vars : SearchVars} {i : Nat} {minScore bestDir : Int} {best : Option (Fin 4)}
      (apart : start ≠ target) (represents : Represents 0 vars (astarSearch grid start target))
      (within : i ≤ 4) (position : bestDir = orMinusOne (best.map Fin.val))
      (choice : greedyStep grid start target (directions.drop i) minScore
        (best.map (neighbour start)) = greedyStep grid start target directions 999999 none) :
      Refines grid start target (.choosing vars i minScore bestDir)
  | returned {cell : Point} (answer : cell = nextStep grid start target) :
      Refines grid start target (.returned cell)

/-- A bound for the steps of one iteration of the outer loop. -/
def iterationSteps : Nat :=
  maxOpenNodes + 7

/-- A bound for the steps that are left. -/
def remaining : PathState → Nat
  | .entered => 3000 * iterationSteps + 7
  | .testing vars => vars.maxSteps.toNat * iterationSteps + 6
  | .selecting vars i _ _ =>
      vars.maxSteps.toNat * iterationSteps + (vars.openCount - i).toNat + 12
  | .expanding vars _ i => vars.maxSteps.toNat * iterationSteps + (4 - i) + 7
  | .choosing _ i _ _ => 5 - i
  | .returned _ => 0

/-- The step succeeds within the arrays, and its result continues the function
with less left to do. -/
def Advances (grid : GridMap) (start target : Point) (state : PathState)
    (step : Logged Access (Option PathState)) : Prop :=
  step.Succeeds Access.InRange fun next =>
    Refines grid start target next ∧ remaining next < remaining state

/-! ## The phases -/

theorem Refines.searched (apart : start ≠ target)
    (represents : Represents 0 vars (astarSearch grid start target)) :
    Refines grid start target (.searched vars) := by
  have choice : greedyStep grid start target (directions.drop 0) 999999
      ((none : Option (Fin 4)).map (neighbour start)) =
        greedyStep grid start target directions 999999 none := rfl
  exact .choosing apart represents (Nat.zero_le 4) rfl choice

theorem remaining_searched (vars : SearchVars) : remaining (.searched vars) = 5 :=
  rfl

theorem enterSearch_advances (inside : start.Inside) (goal : target.Inside) :
    Advances grid start target .entered (enterSearch start target) := by
  rw [enterSearch]
  by_cases same : start.x = target.x ∧ start.y = target.y
  · rw [if_pos same]
    exact Logged.succeeds_pure ⟨.returned (if_pos same).symm, Nat.succ_pos _⟩
  · rw [if_neg same]
    have apart : start ≠ target := fun equal => same (Point.ext_iff.mp equal)
    have room : ([] : List Node).length < maxOpenNodes := by decide
    have distance := calculateH_range inside goal
    apply Logged.Succeeds.attempt
    · exact represents_fresh.pushNode room (.of_costs inside (by decide) distance)
    rintro vars ⟨represents, kept⟩
    have limit : vars.maxSteps = 3000 := kept
    apply Logged.succeeds_pure
    constructor
    · rw [← limit] at represents
      apply Refines.testing apart represents
      · rw [limit]
        decide
      · rw [limit, astarSearch]
        simp only [List.nil_append, Int.zero_add]
        rfl
    · have full : vars.maxSteps.toNat = 3000 := by rw [limit]; rfl
      rw [remaining, remaining, full]
      omega

/-- A search with nothing to expand is over. -/
theorem searchLoop_of_selectCurrent_none (steps : Nat)
    (nothing : selectCurrent search.openList 0 999999 none = none) :
    searchLoop grid target steps search = search := by
  cases steps with
  | zero => rfl
  | succ steps => rw [searchLoop, nothing]

/-- Counting the steps down leaves the arrays. -/
theorem Represents.withSteps (represents : Represents steps vars search) (maxSteps : Int) :
    Represents steps { vars with maxSteps } search :=
  ⟨represents.count, represents.holds, represents.legal, represents.marks⟩

theorem testSearch_advances (apart : start ≠ target)
    (represents : Represents vars.maxSteps vars search) (nonneg : 0 ≤ vars.maxSteps)
    (rest : searchLoop grid target vars.maxSteps.toNat search = astarSearch grid start target) :
    Advances grid start target (.testing vars) (.pure (some (testSearch vars))) := by
  apply Logged.succeeds_pure
  have fits : search.openList.length ≤ maxOpenNodes := represents.holds.fits
  by_cases nodes : 0 < vars.openCount
  · by_cases more : 0 < vars.maxSteps
    · have entered : testSearch vars =
          .selecting { vars with maxSteps := vars.maxSteps - 1 } 0 999999 (-1) := by
        rw [testSearch, if_pos nodes, if_pos more]
      have succ : (vars.maxSteps - 1).toNat + 1 = vars.maxSteps.toNat := by omega
      rw [entered]
      constructor
      · apply Refines.selecting apart _ _ (Nat.zero_le _) rfl rfl
        · rw [succ]
          exact rest
        · simp only [Int.sub_add_cancel]
          exact represents.withSteps _
        · exact Int.le_sub_one_of_lt more
      · have turn : vars.maxSteps.toNat * iterationSteps =
            (vars.maxSteps - 1).toNat * iterationSteps + (maxOpenNodes + 7) := by
          rw [← succ, Nat.succ_mul, iterationSteps]
        have count := represents.count
        simp only [remaining, turn]
        omega
    · -- the limit of 3000 steps, which the functional search counts down to zero
      have left : testSearch vars = .searched { vars with maxSteps := vars.maxSteps - 1 } := by
        rw [testSearch, if_pos nodes, if_neg more]
      have exhausted : vars.maxSteps.toNat = 0 := by omega
      rw [exhausted, searchLoop] at rest
      rw [left, remaining_searched]
      refine ⟨Refines.searched apart (rest ▸ (represents.fewer nonneg).withSteps _), ?_⟩
      rw [remaining]
      omega
  · have left : testSearch vars = .searched vars := by
      rw [testSearch, if_neg nodes]
    have empty : search.openList = [] := by
      apply List.eq_nil_of_length_eq_zero
      have count := represents.count
      omega
    rw [searchLoop_of_selectCurrent_none _ (by rw [empty]; rfl)] at rest
    rw [left, remaining_searched]
    refine ⟨Refines.searched apart (rest ▸ represents.fewer nonneg), ?_⟩
    rw [remaining]
    omega

/-! ## The selection -/

theorem selectCurrent_lt {openList : List Node} {i : Nat} {lowest : Int} {found : Option Nat}
    (chosen : selectCurrent openList i lowest found = some index) :
    found = some index ∨ index < i + openList.length := by
  induction openList generalizing i lowest found with
  | nil => exact Or.inl chosen
  | cons node rest ih =>
      rw [selectCurrent] at chosen
      rw [List.length_cons]
      by_cases closer : node.fCost < lowest
      · rw [if_pos closer] at chosen
        rcases ih chosen with here | later
        · have here : i = index := Option.some.inj here
          omega
        · omega
      · rw [if_neg closer] at chosen
        rcases ih chosen with earlier | later
        · exact Or.inl earlier
        · omega

/-- One iteration of the functional search. -/
theorem searchLoop_succ (chosen : selectCurrent search.openList 0 999999 none = some index)
    (found : search.openList[index]? = some current)
    (final : search.openList.getLast? = some last) (steps : Nat) :
    searchLoop grid target (steps + 1) search =
      let popped : Search :=
        { openList := removeNode search.openList index last
          closedList := fun y x => (y == current.y && x == current.x) || search.closedList y x }
      if current.x = target.x ∧ current.y = target.y then popped
      else searchLoop grid target steps (expandNode grid target current directions popped) := by
  rw [searchLoop]
  simp only [chosen, found, final]

/-- Taking the selected node leads to its neighbours or, at the target, out of
the loop. -/
theorem popNode_advances (apart : start ≠ target)
    (represents : Represents (vars.maxSteps + 1) vars search) (nonneg : 0 ≤ vars.maxSteps)
    (chosen : selectCurrent search.openList 0 999999 none = some index)
    (rest : searchLoop grid target (vars.maxSteps.toNat + 1) search =
      astarSearch grid start target) :
    ((popNode vars index).attempt fun popped =>
      .pure (some (if popped.1.x = target.x ∧ popped.1.y = target.y then .searched popped.2
        else .expanding popped.2 popped.1 0))).Succeeds Access.InRange fun next =>
      Refines grid start target next ∧
        remaining next < vars.maxSteps.toNat * iterationSteps + 12 := by
  have small : index < search.openList.length := by
    rcases selectCurrent_lt chosen with none_ | small
    · contradiction
    · omega
  have nonempty : search.openList ≠ [] := List.ne_nil_of_length_pos (Nat.zero_lt_of_lt small)
  have found := List.getElem?_eq_getElem small
  have final := List.getLast?_eq_getLast_of_ne_nil nonempty
  rw [searchLoop_succ chosen found final] at rest
  apply Logged.Succeeds.attempt (represents.popNode found final)
  rintro ⟨current, popped⟩ ⟨rfl, legal, represented, kept⟩
  apply Logged.succeeds_pure
  simp only at represented kept ⊢
  by_cases arrived : search.openList[index].x = target.x ∧ search.openList[index].y = target.y
  · rw [if_pos arrived] at rest ⊢
    refine ⟨Refines.searched apart (rest ▸ represented.fewer (by omega)), ?_⟩
    rw [remaining_searched]
    omega
  · rw [if_neg arrived] at rest ⊢
    constructor
    · rw [← kept] at represented nonneg legal rest
      exact .expanding apart (represented.fewer (by omega)) nonneg legal rest
    · rw [remaining, kept]
      omega

theorem selectNode_advances {lowestF currentIndex : Int} {found : Option Nat}
    (apart : start ≠ target) (represents : Represents (vars.maxSteps + 1) vars search)
    (nonneg : 0 ≤ vars.maxSteps) (within : i ≤ search.openList.length)
    (position : currentIndex = orMinusOne found)
    (selection : selectCurrent (search.openList.drop i) i lowestF found =
      selectCurrent search.openList 0 999999 none)
    (rest : searchLoop grid target (vars.maxSteps.toNat + 1) search =
      astarSearch grid start target) :
    Advances grid start target (.selecting vars i lowestF currentIndex)
      (selectNode target vars i lowestF currentIndex) := by
  have count := represents.count
  rw [selectNode]
  by_cases more : (i : Int) < vars.openCount
  · have small : i < search.openList.length := by omega
    have entry := (represents.entry (List.getElem?_eq_getElem small)).1
    have fewer : (vars.openCount - (i + 1 : Nat)).toNat < (vars.openCount - i).toNat := by omega
    rw [List.drop_eq_getElem_cons small, selectCurrent] at selection
    rw [if_pos more]
    apply Logged.Succeeds.attempt (readOpen_succeeds entry)
    rintro _ rfl
    apply Logged.succeeds_pure
    by_cases closer : search.openList[i].fCost < lowestF
    · rw [if_pos closer] at selection ⊢
      refine ⟨.selecting apart represents nonneg small rfl selection rest, ?_⟩
      rw [remaining, remaining]
      omega
    · rw [if_neg closer] at selection ⊢
      refine ⟨.selecting apart represents nonneg small position selection rest, ?_⟩
      rw [remaining, remaining]
      omega
  · -- behind the last entry the candidate is the selection from the whole list
    have done : i = search.openList.length := by omega
    rw [done, List.drop_length, selectCurrent] at selection
    rw [if_neg more]
    cases found with
    | none =>
        rw [searchLoop_of_selectCurrent_none _ selection.symm] at rest
        have nothing : currentIndex = -1 := position
        rw [if_pos nothing]
        have kept := represents.fewer (Int.le_add_one nonneg)
        refine Logged.succeeds_pure ⟨Refines.searched apart (rest ▸ kept), ?_⟩
        rw [remaining_searched, remaining]
        omega
    | some index =>
        have index_eq : currentIndex = (index : Int) := position
        rw [if_neg (by omega), index_eq]
        apply (popNode_advances apart represents nonneg selection.symm rest).weaken
        rintro next ⟨refined, lower⟩
        refine ⟨refined, lower.trans_le ?_⟩
        rw [remaining]
        omega

/-! ## The neighbours -/

theorem getElem?_directions (direction : Fin 4) :
    directions[direction.val]? = some (offset direction) :=
  List.getElem?_eq_getElem (direction.cast length_directions.symm).isLt

theorem expandNeighbour_advances (goal : target.Inside) (apart : start ≠ target)
    (represents : Represents vars.maxSteps vars search) (nonneg : 0 ≤ vars.maxSteps)
    (legal : current.Legal (vars.maxSteps + 1))
    (rest : searchLoop grid target vars.maxSteps.toNat
      (expandNode grid target current (directions.drop i) search) =
        astarSearch grid start target) :
    Advances grid start target (.expanding vars current i)
      (expandNeighbour grid target vars current i) := by
  have leaves : ∀ {left : Search}, Represents vars.maxSteps vars left →
      searchLoop grid target vars.maxSteps.toNat left = astarSearch grid start target →
      Advances grid start target (.expanding vars current i) (.pure (some (.testing vars))) := by
    intro left represented rest
    refine Logged.succeeds_pure ⟨.testing apart represented nonneg rest, ?_⟩
    rw [remaining, remaining]
    omega
  rcases Nat.lt_or_ge i 4 with more | done
  · have entry := getElem?_directions ⟨i, more⟩
    have cut := drop_directions ⟨i, more⟩
    generalize offset ⟨i, more⟩ = step at entry cut
    obtain ⟨dx, dy⟩ := step
    have continues : ∀ {next : SearchVars} {left : Search},
        Represents vars.maxSteps next left → next.maxSteps = vars.maxSteps →
        searchLoop grid target vars.maxSteps.toNat
          (expandNode grid target current (directions.drop (i + 1)) left) =
            astarSearch grid start target →
        Advances grid start target (.expanding vars current i)
          (.pure (some (.expanding next current (i + 1)))) := by
      intro next left represented kept rest
      rw [← kept] at represented rest nonneg legal
      refine Logged.succeeds_pure ⟨.expanding apart represented nonneg legal rest, ?_⟩
      rw [remaining, remaining, kept]
      omega
    simp only at cut entry
    rw [cut, expandNode] at rest
    rw [expandNeighbour, entry]
    simp only at rest ⊢
    by_cases onMap : InsideMap (current.x + dx) (current.y + dy)
    · rw [if_pos onMap] at rest ⊢
      by_cases wall : isObstacle grid (current.x + dx) (current.y + dy) = true
      · rw [if_pos (by rw [wall, Bool.true_or])] at rest
        rw [if_pos wall]
        exact continues represents rfl rest
      · rw [if_neg wall]
        apply Logged.Succeeds.attempt (represents.readClosed onMap)
        intro mark meaning
        by_cases closed : mark ≠ 0
        · rw [if_pos (by rw [meaning.mp closed, Bool.or_true])] at rest
          rw [if_pos closed]
          exact continues represents rfl rest
        · rw [if_neg (by simp [wall, mt meaning.mpr closed])] at rest
          rw [if_neg closed]
          by_cases full : maxOpenNodes ≤ search.openList.length
          · rw [if_pos full] at rest
            rw [if_pos (by rw [represents.count]; exact Int.ofNat_le.mpr full)]
            exact leaves represents rest
          · rw [if_neg full] at rest
            rw [if_neg (by rw [represents.count]; exact mt Int.ofNat_le.mp full)]
            have distance := calculateH_range onMap goal
            have path : 0 ≤ current.gCost + 1 ∧ current.gCost + 1 + vars.maxSteps ≤ 3000 := by
              obtain ⟨lower, upper⟩ := legal.gCost
              omega
            apply Logged.Succeeds.attempt
            · exact represents.pushNode (Nat.lt_of_not_le full) (.of_costs onMap path distance)
            rintro pushed ⟨represented, kept⟩
            exact continues represented kept rest
    · rw [if_neg onMap] at rest ⊢
      exact continues represents rfl rest
  · have entry : directions[i]? = none := List.getElem?_eq_none done
    rw [List.drop_eq_nil_of_le done, expandNode] at rest
    rw [expandNeighbour, entry]
    exact leaves represents rest

/-! ## The greedy choice -/

/-- An iteration of the greedy choice, as one of the scan. -/
theorem chooseDirection_scan (vars : SearchVars) (direction : Fin 4) (minScore : Int)
    (best : Option (Fin 4)) :
    chooseDirection grid start target vars direction.val minScore
        (orMinusOne (best.map Fin.val)) =
      some (.choosing vars (direction.val + 1)
        (scanDirection grid start target direction (best, minScore)).2
        (orMinusOne
          ((scanDirection grid start target direction (best, minScore)).1.map Fin.val))) := by
  rw [chooseDirection, getElem?_directions, scanDirection]
  simp only
  by_cases accepted : Open grid start direction ∧ score start target direction < minScore
  · rw [if_pos accepted, if_pos ⟨accepted.1.inside, accepted.1, accepted.2⟩]
    rfl
  · rw [if_neg accepted, if_neg fun both => accepted both.2]

theorem chooseDirection_advances {minScore bestDir : Int} {best : Option (Fin 4)}
    (apart : start ≠ target) (represents : Represents 0 vars (astarSearch grid start target))
    (within : i ≤ 4) (position : bestDir = orMinusOne (best.map Fin.val))
    (choice : greedyStep grid start target (directions.drop i) minScore
      (best.map (neighbour start)) = greedyStep grid start target directions 999999 none) :
    Advances grid start target (.choosing vars i minScore bestDir)
      (.pure (chooseDirection grid start target vars i minScore bestDir)) := by
  rcases within.lt_or_eq with more | rfl
  · let direction : Fin 4 := ⟨i, more⟩
    have rest := greedyStep_cons grid start target direction (directions.drop (i + 1))
      (best, minScore)
    rw [← drop_directions direction, choice] at rest
    have fewer : 5 - (i + 1) < 5 - i := by omega
    rw [position, chooseDirection_scan vars direction]
    exact Logged.succeeds_pure ⟨.choosing apart represents more rfl rest.symm, fewer⟩
  · -- the four directions have been tried and `best_dir` decides
    have past : directions[4]? = none := rfl
    have answer : nextStep grid start target = (best.map (neighbour start)).getD start := by
      rw [nextStep, if_neg (fun same => apart (Point.ext same.1 same.2)), ← choice]
      rfl
    rw [chooseDirection, past, position]
    cases best with
    | none => exact Logged.succeeds_pure ⟨.returned answer.symm, Nat.zero_lt_one⟩
    | some direction =>
        have chosen : orMinusOne ((some direction).map Fin.val) = (direction.val : Int) := rfl
        have inside : direction.val < directions.length := direction.isLt
        simp only [chosen]
        rw [if_pos (by omega), checkedIndex_natCast inside]
        exact Logged.succeeds_pure ⟨.returned answer.symm, Nat.zero_lt_one⟩

/-! ## Every step -/

/-- Until it has returned, the function takes a step, within its arrays and with
the same outcome ahead. -/
theorem pathStep_advances {state : PathState} (inside : start.Inside) (goal : target.Inside)
    (refines : Refines grid start target state) (running : ∀ cell, state ≠ .returned cell) :
    Advances grid start target state (pathStep grid start target state) := by
  cases refines with
  | entered => exact enterSearch_advances inside goal
  | testing apart represents nonneg rest => exact testSearch_advances apart represents nonneg rest
  | selecting apart represents nonneg within position selection rest =>
      exact selectNode_advances apart represents nonneg within position selection rest
  | expanding apart represents nonneg legal rest =>
      exact expandNeighbour_advances goal apart represents nonneg legal rest
  | choosing apart represents within position choice =>
      exact chooseDirection_advances apart represents within position choice
  | returned => exact absurd rfl (running _)

end RideHailing.Server
