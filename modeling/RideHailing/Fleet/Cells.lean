import RideHailing.Fleet.Journey
import RideHailing.Fleet.Sole

/-!
# The cells that drivers stand on

Four updates of one pass move a driver.  The respawn puts it on the base, the
path step leads from a free cell to a free cell, the random walk is undone when
it ends in a wall; only the arrival moves a driver to its target without looking
at the map.
-/

namespace RideHailing.Fleet

open RideHailing.Common
open RideHailing.Server
open RideHailing.Transition

variable {d : Driver} {grid : GridMap} {draws : TickDraws} {trace : List Event}
  {state next : SharedState} {event : Event}

/-- The cell of a driver's target. -/
def targetCell (d : Driver) : Point where
  x := gridCoordinate baseLon d.targetLon
  y := gridCoordinate baseLat d.targetLat

/-! ## The stages of a pass -/

theorem gridCoordinate_self (base : ℚ) : gridCoordinate base base = 0 := by
  rw [gridCoordinate, sub_self, zero_mul]
  rfl

/-- A driver in a wall is put on the base, available. -/
theorem respawn_of_wall (wall : ¬ Free grid (cellOf d)) :
    respawn grid (gridCoordinate baseLon d.lon) (gridCoordinate baseLat d.lat) d =
      { d with
        lat := baseLat, lon := baseLon
        hasTarget := false, isAvailable := true, isRefueling := false } :=
  if_pos (Or.inl (Bool.eq_true_of_not_eq_false wall))

/-- The base is a free cell, so after the first stage every driver is on one. -/
theorem free_respawn (d : Driver) :
    Free initMapObstacles (cellOf (respawn initMapObstacles
      (gridCoordinate baseLon d.lon) (gridCoordinate baseLat d.lat) d)) := by
  by_cases free : Free initMapObstacles (cellOf d)
  · rw [respawn_of_free free]
    exact free
  · rw [respawn_of_wall free, cellOf]
    simp only [gridCoordinate_self]
    decide

theorem cellOf_burnFuel (draws : TickDraws) (d : Driver) :
    cellOf (burnFuel draws d) = cellOf d := by
  obtain ⟨_, frame⟩ := burnFuel_frame draws d
  rw [frame]
  rfl

theorem cellOf_manageFuel (d : Driver) : cellOf (manageFuel d) = cellOf d := by
  obtain ⟨_, _, _, _, frame⟩ := manageFuel_frame d
  rw [frame]
  rfl

theorem cellOf_failsafe (d : Driver) : cellOf (failsafe d) = cellOf d := by
  obtain ⟨_, frame⟩ := failsafe_frame d
  rw [frame]
  rfl

/-- Navigation leaves a driver where it is or puts it on its target. -/
theorem free_navigate (free : Free grid (cellOf d))
    (heads : d.hasTarget = true → Free grid (targetCell d)) (draws : TickDraws) :
    Free grid (cellOf (navigate draws d)) := by
  rw [navigate]
  split
  next targeted =>
    rw [cellOf_burnFuel, arrive]
    split
    · exact heads targeted
    · exact free
  next => exact free

/-- The next cell of the path is free when the driver's own is. -/
theorem free_getNextStepAstar (free : Free grid (cellOf d)) :
    Free grid (getNextStepAstar grid d.lat d.lon d.targetLat d.targetLon) := by
  have start : clampedCell d.lat d.lon = cellOf d := clampedCell_position free.inside
  by_cases same : clampedCell d.lat d.lon = clampedCell d.targetLat d.targetLon
  · rw [getNextStepAstar_eq, if_pos same, start]
    exact free
  · rcases getNextStepAstar_step grid same with ⟨stays, _⟩ | ⟨direction, moved, first⟩
    · rw [stays, start]
      exact free
    · rw [moved]
      exact first.among

theorem free_followPath (free : Free grid (cellOf d)) (gx gy : Int) :
    Free grid (cellOf (followPath grid gx gy d)) := by
  rw [followPath]
  split
  · exact free
  · exact free_of_position (free_getNextStepAstar free) rfl rfl

theorem free_randomWalk (free : Free grid (cellOf d)) (draws : TickDraws) :
    Free grid (cellOf (randomWalk grid draws d)) := by
  rw [randomWalk]
  split
  next => exact free
  next open_ => exact Bool.eq_false_iff.mpr open_

theorem free_move (free : Free grid (cellOf d)) (draws : TickDraws) (gx gy : Int) :
    Free grid (cellOf (move grid draws gx gy d)) := by
  rw [move]
  split
  · exact free_followPath free gx gy
  · split
    · exact free_randomWalk free draws
    · exact free

/-- A pass ends on a free cell when the target of a ride in progress is free. -/
theorem free_tickDriver (draws : TickDraws)
    (heads : d.hasTarget = true → Free initMapObstacles (cellOf d) →
      Free initMapObstacles (targetCell d)) :
    Free initMapObstacles (cellOf (tickDriver initMapObstacles draws d)) := by
  rw [tickDriver]
  apply free_move
  rw [cellOf_failsafe, cellOf_manageFuel]
  apply free_navigate (free_respawn d)
  intro targeted
  by_cases free : Free initMapObstacles (cellOf d)
  · rw [respawn_of_free free] at targeted ⊢
    exact heads targeted free
  · rw [respawn_of_wall free] at targeted
    cases targeted

/-! ## Arrival in a wall -/

/-- Random outcomes with which a driver arrives and then does not move. -/
def arriveAndStay : TickDraws where
  arrival := 0
  fuel := 99
  latStep := 1
  lonStep := 1

theorem cellOf_randomWalk_stay (d : Driver) :
    cellOf (randomWalk grid arriveAndStay d) = cellOf d := by
  have still : ∀ value : ℚ, value + (((1 % 3 : Nat) : ℚ) - 1) * 0.0005 = value := by
    intro value
    norm_num
  rw [randomWalk]
  simp only [arriveAndStay, still]
  split <;> rfl

theorem cellOf_move_stay (untargeted : d.hasTarget = false) (gx gy : Int) :
    cellOf (move grid arriveAndStay gx gy d) = cellOf d := by
  rw [move, if_neg (by simp [untargeted])]
  split
  · exact cellOf_randomWalk_stay d
  · rfl

/-- A ride can end with its driver on the cell of the target, whatever is there. -/
theorem cellOf_arrival (targeted : d.hasTarget = true) (free : Free grid (cellOf d)) :
    cellOf (tickDriver grid arriveAndStay d) = targetCell d := by
  have arrives : Arrives arriveAndStay d := Or.inr (by decide)
  have arrived : navigate arriveAndStay d = burnFuel arriveAndStay (arrive arriveAndStay d) := by
    rw [navigate, if_pos targeted]
  have untargeted : (navigate arriveAndStay d).hasTarget = false := by
    obtain ⟨fuel, burnt⟩ := burnFuel_frame arriveAndStay (arrive arriveAndStay d)
    rw [arrived, burnt, arrive_of_arrives arrives]
  have idle := hasTarget_failsafe (hasTarget_manageFuel untargeted)
  rw [tickDriver, respawn_of_free free, cellOf_move_stay idle, cellOf_failsafe,
    cellOf_manageFuel, arrived, cellOf_burnFuel, arrive_of_arrives arrives]
  rfl

/-! ## Whole runs -/

/-- Every ride in progress, if its driver is not respawned first, leads to a free
cell. -/
def HeadsToFreeCells (state : SharedState) : Prop :=
  ∀ slot, state.Active slot → (state.drivers slot).hasTarget = true →
    Free initMapObstacles (cellOf (state.drivers slot)) →
      Free initMapObstacles (targetCell (state.drivers slot))

/-- Every active driver is on a free cell of the map. -/
def OnFreeCells (state : SharedState) : Prop :=
  ∀ slot, state.Active slot → (cellOf (state.drivers slot)).Inside ∧
    Free initMapObstacles (cellOf (state.drivers slot))

/-- The condition on the passes of a run. -/
def TicksHeadToFreeCells (state : SharedState) (event : Event) : Prop :=
  event = .monitorTick → HeadsToFreeCells state

/-- A pass changes every active record by `tickDriver` and no other. -/
theorem mapMonitorTick_record (wellFormed : WellFormed state) {outcomes : Nat → TickDraws}
    (tick : mapMonitorTick initMapObstacles outcomes state = some next) :
    ∀ slot, (next.Active slot ↔ state.Active slot) ∧ (state.Active slot →
      next.drivers slot = tickDriver initMapObstacles (outcomes slot) (state.drivers slot)) := by
  rw [mapMonitorTick, SharedState.forDrivers_eq_some _ wellFormed.fits] at tick
  cases tick
  exact fun slot => ⟨Iff.rfl, fun active => if_pos active⟩

theorem onFreeCells_tick (wellFormed : WellFormed state) (heads : HeadsToFreeCells state)
    {outcomes : Nat → TickDraws}
    (tick : mapMonitorTick initMapObstacles outcomes state = some next) : OnFreeCells next := by
  intro slot active
  obtain ⟨same, record⟩ := mapMonitorTick_record wellFormed tick slot
  have was := same.mp active
  rw [record was]
  have free := free_tickDriver (outcomes slot) (heads slot was)
  exact ⟨free.inside, free⟩

/-- After every outcome of a pass all drivers are on free cells exactly when all
rides in progress before it lead to free cells; and in a run all of whose passes
start so, the drivers are on free cells after each of them. -/
theorem cells_free_iff (run : Run secureServer trace state) :
    ((∀ outcomes next, mapMonitorTick initMapObstacles outcomes state = some next →
      OnFreeCells next) ↔ HeadsToFreeCells state) ∧
    ∀ earlier final, Run (secureServer.restrict TicksHeadToFreeCells)
      (earlier ++ [.monitorTick]) final → OnFreeCells final := by
  refine ⟨⟨?_, ?_⟩, ?_⟩
  · intro always slot active targeted free
    have wellFormed := reachable_wellFormed run.reachable
    obtain ⟨next, tick⟩ := (criticalSection_progress run.reachable).2.1 fun _ => arriveAndStay
    obtain ⟨same, record⟩ := mapMonitorTick_record wellFormed tick slot
    have ends := (always _ next tick slot (same.mpr active)).2
    rwa [record active, cellOf_arrival targeted free] at ends
  · intro heads outcomes next tick
    exact onFreeCells_tick (reachable_wellFormed run.reachable) heads tick
  · intro earlier final passes
    generalize whole : earlier ++ [Event.monitorTick] = events at passes
    cases passes with
    | start => simp at whole
    | snoc before step =>
        obtain ⟨rfl, rfl⟩ := List.append_inj' whole rfl |>.imp id List.singleton_inj.mp
        obtain ⟨⟨outcomes, tick⟩, heads⟩ := step
        exact onFreeCells_tick (reachable_wellFormed before.of_restrict.reachable) (heads rfl) tick

theorem baseDriver_sole : Sole (initDriver 0 ⟨0, 0, 0⟩ Driver.zeroed) baseDriver where
  count := rfl
  record := rfl

/-- A ride that ends at the base, and one to another free cell that has begun. -/
def underWay : List Stage :=
  [.ride 5 ⟨0, 0⟩, .tick arriveAndStay, .ride 6 ⟨80, 100⟩]

theorem cells_free_iff_underWay :
    ∃ state, Run secureServer [.rideRequest 5 (some 0), .monitorTick, .rideRequest 6 (some 0)]
        state ∧ (state.drivers 0).hasTarget = true ∧
      ∀ outcomes next, mapMonitorTick initMapObstacles outcomes state = some next →
        OnFreeCells next := by
  have shown : (performAll underWay (initDriver 0 ⟨0, 0, 0⟩ Driver.zeroed)).map (fun d =>
      (d.hasTarget, targetCell d)) = some (true, ⟨20, 16⟩) := by
    decide +kernel
  obtain ⟨last, performed, readings⟩ := Option.map_eq_some_iff.mp shown
  obtain ⟨targeted, target⟩ := Prod.mk.inj readings
  obtain ⟨state, path, sole⟩ := baseDriver_sole.leads performed
  have run := (Run.start baseDriver_initial).append path
  have heads : HeadsToFreeCells state := by
    intro slot active _ _
    obtain rfl := sole.eq_zero active
    rw [sole.record]
    rw [target]
    decide
  refine ⟨state, run, ?_, (cells_free_iff run).1.mpr heads⟩
  rw [sole.record]
  exact targeted

/-- A ride from the base into the first building. -/
def rideIntoBuilding : List Stage :=
  [.ride 5 ⟨20, 30⟩, .tick arriveAndStay]

/-- The driver of a ride into the building stands in its wall after the pass. -/
theorem cells_free_building :
    ¬ ∀ trace state, Run secureServer (trace ++ [.monitorTick]) state → OnFreeCells state := by
  intro always
  have plan : (performAll rideIntoBuilding (initDriver 0 ⟨0, 0, 0⟩ Driver.zeroed)).map cellOf =
      some ⟨6, 4⟩ := by decide +kernel
  obtain ⟨last, performed, place⟩ := Option.map_eq_some_iff.mp plan
  obtain ⟨final, path, sole⟩ := baseDriver_sole.leads performed
  have run := (Run.start baseDriver_initial).append path
  have ends := (always [.rideRequest 5 (some 0)] final run 0 sole.active).2
  rw [sole.record, place] at ends
  exact absurd ends (by decide)

end RideHailing.Fleet
