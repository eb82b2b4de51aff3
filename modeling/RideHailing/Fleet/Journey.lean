import RideHailing.Fleet.Lifecycle
import RideHailing.Server.NextStep
import Mathlib.Algebra.Order.Field.Basic
import Mathlib.Algebra.Order.AbsoluteValue.Basic
import Mathlib.Tactic.Linarith
import Mathlib.Tactic.NormNum

/-!
# Rides in progress

A ride ends by arrival, which puts the driver on its target.  A monitor pass has
two more ways to clear the target: the respawn of a driver inside a wall, and a
path step that does not move.  The second never happens on the map of the
program; the first happens exactly to the rides that are assigned to a driver
inside a wall.
-/

namespace RideHailing.Fleet

open RideHailing.Common
open RideHailing.Server
open RideHailing.Transition

variable {d : Driver} {grid : GridMap} {draws : TickDraws} {trace : List Event}
  {state next : SharedState} {event : Event}

/-! ## Cells of positions -/

/-- The cell of a driver, as the monitor computes it. -/
def cellOf (d : Driver) : Point where
  x := gridCoordinate baseLon d.lon
  y := gridCoordinate baseLat d.lat

/-- Truncation changes a number by less than one. -/
theorem abs_sub_truncate_lt (value : ℚ) : |value - truncate value| < 1 := by
  have positive : (0 : ℚ) < value.den := by exact_mod_cast value.den_pos
  have parts : (value.den : ℚ) * truncate value + value.num.tmod value.den = value.num := by
    exact_mod_cast Int.mul_tdiv_add_tmod value.num value.den
  have lower : -(value.den : ℚ) < value.num.tmod value.den := by
    exact_mod_cast Int.lt_tmod_of_pos value.num (by exact_mod_cast value.den_pos)
  have upper : (value.num.tmod value.den : ℚ) < value.den := by
    exact_mod_cast Int.tmod_lt_of_pos value.num (by exact_mod_cast value.den_pos)
  have scaled : (value.den : ℚ) * value = value.num := Rat.den_mul_eq_num value
  rw [abs_lt]
  constructor
  · nlinarith
  · nlinarith

/-- The cell of a target within reach of `handle_ride_request_logic`. -/
structure TargetOnMap (d : Driver) : Prop where
  south : baseLat ≤ d.targetLat
  north : d.targetLat ≤ baseLat + 0.009
  west : baseLon ≤ d.targetLon
  east : d.targetLon ≤ baseLon + 0.018

theorem assignRide_targetOnMap (draws : TargetDraws) (d : Driver) :
    TargetOnMap (assignRide draws d) := by
  have lat : ((draws.lat % 90 : Nat) : ℚ) ≤ 90 := by
    exact_mod_cast Nat.le_of_lt (Nat.mod_lt _ (by decide))
  have lon : ((draws.lon % 180 : Nat) : ℚ) ≤ 180 := by
    exact_mod_cast Nat.le_of_lt (Nat.mod_lt _ (by decide))
  have lat' : (0 : ℚ) ≤ ((draws.lat % 90 : Nat) : ℚ) := Nat.cast_nonneg _
  have lon' : (0 : ℚ) ≤ ((draws.lon % 180 : Nat) : ℚ) := Nat.cast_nonneg _
  constructor <;> simp only [assignRide] <;> linarith

/-- A coordinate within reach of its base lies in the first cells. -/
theorem gridCoordinate_range (bound : Int) {base value reach : ℚ} (lower : base ≤ value)
    (upper : value ≤ base + reach) (within : reach * scaleFactor + 1 ≤ bound) :
    0 ≤ gridCoordinate base value ∧ gridCoordinate base value < bound := by
  have near := abs_lt.mp (abs_sub_truncate_lt ((value - base) * scaleFactor))
  have scale : (0 : ℚ) ≤ scaleFactor := by
    rw [scaleFactor]
    norm_num
  have low : 0 ≤ (value - base) * scaleFactor := mul_nonneg (by linarith) scale
  have high : (value - base) * scaleFactor ≤ reach * scaleFactor :=
    mul_le_mul_of_nonneg_right (by linarith) scale
  constructor
  · have above : (-1 : ℚ) < gridCoordinate base value := by
      rw [gridCoordinate]
      linarith
    have above' : (-1 : Int) < gridCoordinate base value := by exact_mod_cast above
    omega
  · have below : (gridCoordinate base value : ℚ) < bound := by
      rw [gridCoordinate]
      linarith
    exact_mod_cast below

/-- The cell of the target lies on the map. -/
theorem TargetOnMap.inside (onMap : TargetOnMap d) :
    clampedCell d.targetLat d.targetLon =
      { x := gridCoordinate baseLon d.targetLon, y := gridCoordinate baseLat d.targetLat } := by
  have row := gridCoordinate_range 20 onMap.south onMap.north (by norm_num [scaleFactor])
  have column := gridCoordinate_range 40 onMap.west onMap.east (by norm_num [scaleFactor])
  rw [clampedCell, clampCoordinate_of_inside row.1 row.2,
    clampCoordinate_of_inside column.1 column.2]

theorem clampedCell_position (inside : (cellOf d).Inside) : clampedCell d.lat d.lon = cellOf d := by
  obtain ⟨left, right, lower, upper⟩ := inside
  rw [clampedCell]
  exact congrArg₂ Point.mk (clampCoordinate_of_inside left right)
    (clampCoordinate_of_inside lower upper)

/-- Two coordinates with the same grid coordinate are less than a thousandth
apart. -/
theorem abs_sub_lt_of_gridCoordinate {base first second : ℚ}
    (same : gridCoordinate base first = gridCoordinate base second) :
    |first - second| < 0.001 := by
  have near := abs_lt.mp (abs_sub_truncate_lt ((first - base) * scaleFactor))
  have near' := abs_lt.mp (abs_sub_truncate_lt ((second - base) * scaleFactor))
  rw [gridCoordinate, gridCoordinate] at same
  rw [same] at near
  rw [scaleFactor] at near near'
  rw [abs_lt]
  constructor
  · linarith
  · linarith

/-- A driver in the cell of its target has arrived. -/
theorem distanceSq_lt_of_cell (onMap : TargetOnMap d) (inside : (cellOf d).Inside)
    (same : clampedCell d.lat d.lon = clampedCell d.targetLat d.targetLon) :
    distanceSq d.lat d.lon d.targetLat d.targetLon < 0.01 ^ 2 := by
  rw [clampedCell_position inside, onMap.inside] at same
  have lat := abs_sub_lt_of_gridCoordinate (congrArg Point.y same)
  have lon := abs_sub_lt_of_gridCoordinate (congrArg Point.x same)
  have latSq : (d.lat - d.targetLat) ^ 2 < 0.001 ^ 2 :=
    sq_lt_sq' (abs_lt.mp lat).1 (abs_lt.mp lat).2
  have lonSq : (d.lon - d.targetLon) ^ 2 < 0.001 ^ 2 :=
    sq_lt_sq' (abs_lt.mp lon).1 (abs_lt.mp lon).2
  rw [distanceSq]
  linarith

/-- Every free cell of the map of the program has a free neighbour. -/
theorem initMapObstacles_open {cell : Point} (free : Free initMapObstacles cell) :
    ¬ Enclosed initMapObstacles cell := by
  have everywhere : ∀ (y : Fin mapHeight) (x : Fin mapWidth),
      Free initMapObstacles ⟨x.val, y.val⟩ → ¬ Enclosed initMapObstacles ⟨x.val, y.val⟩ := by
    decide +kernel
  obtain ⟨left, right, lower, upper⟩ := free.inside
  obtain ⟨x, column⟩ := Int.eq_ofNat_of_zero_le left
  obtain ⟨y, row⟩ := Int.eq_ofNat_of_zero_le lower
  have cell_eq : cell = ⟨(x : Int), (y : Int)⟩ := Point.ext column row
  rw [column] at right
  rw [row] at upper
  rw [cell_eq] at free ⊢
  exact everywhere ⟨y, by exact_mod_cast upper⟩ ⟨x, by exact_mod_cast right⟩ free

/-! ## A pass over a driver without a target -/

theorem hasTarget_respawn (untargeted : d.hasTarget = false) (grid : GridMap) (gx gy : Int) :
    (respawn grid gx gy d).hasTarget = false := by
  rw [respawn]
  split
  · rfl
  · exact untargeted

theorem hasTarget_manageFuel (untargeted : d.hasTarget = false) :
    (manageFuel d).hasTarget = false := by
  have entering : (startRefueling d).hasTarget = false := by
    rw [startRefueling]
    split
    · rfl
    · exact untargeted
  rw [manageFuel, refuel]
  split
  · split <;> exact entering
  · exact entering

theorem hasTarget_failsafe (untargeted : d.hasTarget = false) : (failsafe d).hasTarget = false := by
  rw [failsafe]
  split <;> exact untargeted

theorem hasTarget_move (untargeted : d.hasTarget = false) (grid : GridMap) (draws : TickDraws)
    (gx gy : Int) : (move grid draws gx gy d).hasTarget = false := by
  rw [move, if_neg (by simp [untargeted])]
  split
  · simp only [randomWalk]
    split <;> exact untargeted
  · exact untargeted

/-- A pass never sets a target. -/
theorem hasTarget_after_navigate (untargeted : (navigate draws d).hasTarget = false)
    (grid : GridMap) (gx gy : Int) :
    (move grid draws gx gy (failsafe (manageFuel (navigate draws d)))).hasTarget = false :=
  hasTarget_move (hasTarget_failsafe (hasTarget_manageFuel untargeted)) grid draws gx gy

theorem hasTarget_tickDriver (untargeted : d.hasTarget = false) (grid : GridMap)
    (draws : TickDraws) : (tickDriver grid draws d).hasTarget = false := by
  have respawned := hasTarget_respawn untargeted grid (gridCoordinate baseLon d.lon)
    (gridCoordinate baseLat d.lat)
  apply hasTarget_after_navigate
  rw [navigate, if_neg (by simp [respawned])]
  exact respawned

/-! ## A pass over a driver on its way -/

/-- The test of the arrival branch. -/
def Arrives (draws : TickDraws) (d : Driver) : Prop :=
  distanceSq d.lat d.lon d.targetLat d.targetLon < 0.01 ^ 2 ∨ draws.arrival % 100 < 20

theorem respawn_of_free (free : Free grid (cellOf d)) :
    respawn grid (gridCoordinate baseLon d.lon) (gridCoordinate baseLat d.lat) d = d := by
  obtain ⟨left, right, lower, upper⟩ := free.inside
  rw [respawn, if_neg]
  rintro (wall | west | east | south | north)
  · exact absurd (free.symm.trans wall) Bool.false_ne_true
  · exact Int.not_lt.mpr left west
  · exact Int.not_lt.mpr east right
  · exact Int.not_lt.mpr lower south
  · exact Int.not_lt.mpr north upper

theorem arrive_of_arrives (arrives : Arrives draws d) :
    arrive draws d =
      { d with
        hasTarget := false, isAvailable := true, isRefueling := false
        lat := d.targetLat, lon := d.targetLon } :=
  if_pos arrives

/-- A driver on a ride. -/
structure Underway (grid : GridMap) (d : Driver) : Prop where
  targeted : d.hasTarget = true
  busy : d.isAvailable = false
  outside : d.isRefueling = false
  onRoad : Free grid (cellOf d)
  onMap : TargetOnMap d

/-- Without an arrival, a pass over a driver on its way is a path step. -/
theorem Underway.tickDriver_eq (underway : Underway grid d) (travels : ¬ Arrives draws d) :
    ∃ fuel, tickDriver grid draws d =
      followPath grid (cellOf d).x (cellOf d).y { d with fuel } := by
  obtain ⟨fuel, burnt⟩ := burnFuel_frame draws d
  have navigated : navigate draws d = { d with fuel } := by
    have still : arrive draws d = d := if_neg travels
    rw [navigate, if_pos underway.targeted, still, burnt]
  refine ⟨fuel, ?_⟩
  rw [tickDriver, respawn_of_free underway.onRoad]
  simp only [navigated, manageFuel, startRefueling, refuel, failsafe, move, underway.targeted,
    underway.busy, underway.outside]
  rfl

/-- The path step leads to a free cell that is not the driver's own. -/
theorem Underway.nextStep (underway : Underway initMapObstacles d) (travels : ¬ Arrives draws d) :
    Free initMapObstacles (getNextStepAstar initMapObstacles d.lat d.lon d.targetLat d.targetLon) ∧
      getNextStepAstar initMapObstacles d.lat d.lon d.targetLat d.targetLon ≠ cellOf d := by
  have inside := underway.onRoad.inside
  have apart : clampedCell d.lat d.lon ≠ clampedCell d.targetLat d.targetLon := fun same =>
    travels (Or.inl (distanceSq_lt_of_cell underway.onMap inside same))
  rcases getNextStepAstar_step initMapObstacles apart with ⟨_, enclosed⟩ | ⟨direction, moved, first⟩
  · rw [clampedCell_position inside] at enclosed
    exact absurd enclosed (initMapObstacles_open underway.onRoad)
  · rw [moved]
    rw [clampedCell_position inside] at first ⊢
    exact ⟨first.among, (cell_ne_neighbour (cellOf d) direction).symm⟩

theorem free_of_position {cell : Point} (free : Free grid cell) (lat : d.lat = cell.lat)
    (lon : d.lon = cell.lon) : Free grid (cellOf d) := by
  have at_ : cellOf d = cell := by
    rw [cellOf, lat, lon]
    exact Point.ext (gridCoordinate_cell _ _) (gridCoordinate_cell _ _)
  rw [at_]
  exact free

/-- Without an arrival the ride goes on, on the next free cell. -/
theorem Underway.continues (underway : Underway initMapObstacles d) (travels : ¬ Arrives draws d) :
    Underway initMapObstacles (tickDriver initMapObstacles draws d) := by
  obtain ⟨fuel, step⟩ := underway.tickDriver_eq travels
  obtain ⟨free, moves⟩ := underway.nextStep travels
  have moved : ¬ ((getNextStepAstar initMapObstacles d.lat d.lon d.targetLat d.targetLon).x =
      (cellOf d).x ∧ (getNextStepAstar initMapObstacles d.lat d.lon d.targetLat d.targetLon).y =
      (cellOf d).y) := fun same => moves (Point.ext same.1 same.2)
  rw [step, followPath]
  simp only
  rw [if_neg moved]
  constructor
  · exact underway.targeted
  · exact underway.busy
  · exact underway.outside
  · exact free_of_position free rfl rfl
  · exact ⟨underway.onMap.south, underway.onMap.north, underway.onMap.west, underway.onMap.east⟩

/-- An arrival ends the ride. -/
theorem Underway.ends (underway : Underway grid d) (arrives : Arrives draws d) :
    (tickDriver grid draws d).hasTarget = false := by
  rw [tickDriver, respawn_of_free underway.onRoad]
  apply hasTarget_after_navigate
  obtain ⟨fuel, burnt⟩ := burnFuel_frame draws (arrive draws d)
  rw [navigate, if_pos underway.targeted, burnt, arrive_of_arrives arrives]

/-! ## Whole runs -/

/-- A pass does not drop the ride of a driver: the respawn branch leaves it, and
when the target is cleared, the arrival branch has put the driver on it. -/
structure RideKept (draws : TickDraws) (d : Driver) : Prop where
  spared : (respawn initMapObstacles (gridCoordinate baseLon d.lon)
    (gridCoordinate baseLat d.lat) d).hasTarget = true
  arrived : (tickDriver initMapObstacles draws d).hasTarget = false →
    (arrive draws d).hasTarget = false ∧ (arrive draws d).lat = d.targetLat ∧
      (arrive draws d).lon = d.targetLon

/-- Only a driver on a free cell keeps its ride. -/
theorem RideKept.onRoad (kept : RideKept draws d) : Free initMapObstacles (cellOf d) := by
  apply Bool.eq_false_iff.mpr
  intro wall
  have blocked : isObstacle initMapObstacles (gridCoordinate baseLon d.lon)
      (gridCoordinate baseLat d.lat) = true := wall
  have spared := kept.spared
  rw [respawn, if_pos (Or.inl blocked)] at spared
  cases spared

/-- A step that assigns no ride to a driver inside a wall or outside the map. -/
def AssignsOnRoad (state : SharedState) : Event → Prop
  | .rideRequest _ (some slot) => Free initMapObstacles (cellOf (state.drivers slot))
  | _ => True

theorem Underway.rideKept (underway : Underway initMapObstacles d) (draws : TickDraws) :
    RideKept draws d := by
  constructor
  · rw [respawn_of_free underway.onRoad]
    exact underway.targeted
  · intro cleared
    by_cases arrives : Arrives draws d
    · rw [arrive_of_arrives arrives]
      exact ⟨rfl, rfl, rfl⟩
    · rw [(underway.continues arrives).targeted] at cleared
      cases cleared

theorem assignRide_underway (draws : TargetDraws) (able : eligible d = true)
    (onRoad : Free grid (cellOf d)) : Underway grid (assignRide draws d) where
  targeted := rfl
  busy := rfl
  outside := by
    simp only [eligible, Bool.and_eq_true, Bool.not_eq_true'] at able
    exact able.1.2
  onRoad := onRoad
  onMap := assignRide_targetOnMap draws d

/-- A pass over a driver whose ride, if any, is on its way. -/
theorem underway_tickDriver (underway : d.hasTarget = true → Underway initMapObstacles d)
    (draws : TickDraws) (targeted : (tickDriver initMapObstacles draws d).hasTarget = true) :
    Underway initMapObstacles (tickDriver initMapObstacles draws d) := by
  cases before : d.hasTarget with
  | false =>
      rw [hasTarget_tickDriver before] at targeted
      cases targeted
  | true =>
      by_cases arrives : Arrives draws d
      · rw [(underway before).ends arrives] at targeted
        cases targeted
      · exact (underway before).continues arrives

/-- In a run that assigns rides on the road only, every ride is on its way. -/
theorem run_underway (run : Run (secureServer.restrict AssignsOnRoad) trace state) :
    ∀ slot, state.Active slot →
      (state.drivers slot).hasTarget = true → Underway initMapObstacles (state.drivers slot) := by
  apply active_invariant_of
    (P := fun d => d.hasTarget = true → Underway initMapObstacles d) _ _ _ _ run
  · intro i draws targeted
    cases targeted
  · intro before clientId slot draws onRoad _ able _
    exact assignRide_underway draws able onRoad
  · intro draws d underway targeted
    exact underway_tickDriver underway draws targeted
  · intro driverId targeted
    cases targeted

/-- A ride assigned to a driver inside a wall is dropped by the next pass. -/
theorem assigned_dropped (wellFormed : WellFormed state)
    (step : CriticalSection state event next) (offRoad : ¬ AssignsOnRoad state event) :
    ∃ slot, next.Active slot ∧ (next.drivers slot).hasTarget = true ∧
      ∀ draws, ¬ RideKept draws (next.drivers slot) := by
  obtain ⟨clientId, slot, rfl⟩ : ∃ clientId slot, event = .rideRequest clientId (some slot) := by
    rcases event with ⟨clientId, _ | slot⟩ | _ | _ | _
    · exact absurd trivial offRoad
    · exact ⟨clientId, slot, rfl⟩
    · exact absurd trivial offRoad
    · exact absurd trivial offRoad
    · exact absurd trivial offRoad
  cases criticalSection_record wellFormed step slot with
  | kept other _ _ => exact absurd rfl (other clientId)
  | assigned _ draws _ record _ active _ =>
      refine ⟨slot, active, ?_, ?_⟩
      · rw [record]
        rfl
      · intro passDraws kept
        have onRoad := kept.onRoad
        rw [record] at onRoad
        exact offRoad onRoad
  | ticked _ tick _ _ _ => cases tick
  | joined _ join _ _ _ => cases join

/-- As long as a run assigns no ride to a driver inside a wall or outside the
map, no pass drops a ride; and a ride that is assigned to such a driver is
dropped by every pass. -/
theorem rides_kept (run : Run secureServer trace state) :
    (Run (secureServer.restrict AssignsOnRoad) trace state →
      ∀ slot, state.Active slot → (state.drivers slot).hasTarget = true →
        ∀ draws, RideKept draws (state.drivers slot)) ∧
    ∀ event next, secureServer.step state event next → ¬ AssignsOnRoad state event →
      ∃ slot, next.Active slot ∧ (next.drivers slot).hasTarget = true ∧
        ∀ draws, ¬ RideKept draws (next.drivers slot) := by
  constructor
  · intro onRoad slot active targeted draws
    exact (run_underway onRoad slot active targeted).rideKept draws
  · intro event next step offRoad
    exact assigned_dropped (reachable_wellFormed run.reachable) step offRoad

/-- A server that is started with one driver, who stands on the base. -/
def baseDriver : SharedState :=
  { SharedState.zeroed with
    drivers := Function.update SharedState.zeroed.drivers 0 (initDriver 0 ⟨0, 0, 0⟩ Driver.zeroed)
    driverCount := 1
    dispatchMode := 1 }

theorem baseDriver_initial : secureServer.initial baseDriver :=
  ⟨1, 1, fun _ => ⟨0, 0, 0⟩, by decide, by decide, rfl⟩

theorem baseDriver_step :
    secureServer.step baseDriver (.rideRequest 5 (some 0))
      (dispatchTo 0 true ⟨1, 1⟩ baseDriver) := by
  have selected : selectDriver (isVipClient 5) baseDriver = some (some 0) := by
    decide +kernel
  refine ⟨⟨1, 1⟩, some (0, baseDistance (baseDriver.drivers 0)), ?_, rfl⟩
  rw [rideCriticalSection, selected]
  rfl

theorem rides_kept_baseDriver :
    RideKept ⟨99, 99, 1, 1⟩ ((dispatchTo 0 true ⟨1, 1⟩ baseDriver).drivers 0) := by
  have onRoad : AssignsOnRoad baseDriver (.rideRequest 5 (some 0)) := by
    have cell : cellOf (baseDriver.drivers 0) = ⟨0, 0⟩ := by decide +kernel
    rw [AssignsOnRoad, cell]
    decide
  have run : Run secureServer [.rideRequest 5 (some 0)] (dispatchTo 0 true ⟨1, 1⟩ baseDriver) :=
    Run.snoc (Run.start baseDriver_initial) baseDriver_step
  have start : Run (secureServer.restrict AssignsOnRoad) [] baseDriver :=
    Run.start baseDriver_initial
  have restricted : Run (secureServer.restrict AssignsOnRoad) [.rideRequest 5 (some 0)]
      (dispatchTo 0 true ⟨1, 1⟩ baseDriver) := start.snoc ⟨baseDriver_step, onRoad⟩
  exact (rides_kept run).1 restricted 0 (by decide) rfl ⟨99, 99, 1, 1⟩

/-- The driver of a join, whose coordinates were never set, with a ride. -/
def strandedRide : SharedState :=
  dispatchTo 0 (isVipClient 5) ⟨1, 1⟩ loneDriver

theorem strandedRide_run :
    Run secureServer [.driverJoin 7, .rideRequest 5 (some 0)] strandedRide :=
  Run.snoc loneDriver_run ⟨⟨1, 1⟩, _, loneDriver_dispatch 5 ⟨1, 1⟩, rfl⟩

/-- Its ride ends on the base with the next pass, although no chance and no
distance lets it arrive. -/
theorem strandedRide_dropped :
    Run secureServer [.driverJoin 7, .rideRequest 5 (some 0)] strandedRide ∧
      strandedRide.Active 0 ∧ (strandedRide.drivers 0).hasTarget = true ∧
      ¬ RideKept ⟨99, 99, 1, 1⟩ (strandedRide.drivers 0) ∧
      ∃ next, mapMonitorTick initMapObstacles (fun _ => ⟨99, 99, 1, 1⟩) strandedRide = some next ∧
        (next.drivers 0).hasTarget = false ∧
        (next.drivers 0).lat ≠ (strandedRide.drivers 0).targetLat := by
  refine ⟨strandedRide_run, by decide, rfl, ?_, _, rfl, ?_, ?_⟩
  · intro kept
    exact absurd kept.onRoad (by decide +kernel)
  · decide +kernel
  · decide +kernel

end RideHailing.Fleet
