import RideHailing.Server.Pathfinding

/-!
# The map monitor

One tick of the monitor thread holds the mutex and runs five stages over every
active driver: respawn, navigation, fuel, failsafe and movement.  The outcomes
of `rand()` are arguments; a stage that does not call it ignores its argument.
-/

namespace RideHailing.Server

open RideHailing.Common

/-- The outcomes of the `rand()` calls of one driver's pass. -/
structure TickDraws where
  arrival : Nat
  fuel : Nat
  latStep : Nat
  lonStep : Nat

/-- Square of the distance of two positions.  The source takes square roots
and only compares them, which the squares decide alike. -/
def distanceSq (lat1 lon1 lat2 lon2 : ℚ) : ℚ :=
  (lat1 - lat2) ^ 2 + (lon1 - lon2) ^ 2

/-- Stage 1: a driver inside a wall or outside the map returns to the base. -/
def respawn (grid : GridMap) (gx gy : Int) (d : Driver) : Driver :=
  if isObstacle grid gx gy ∨ gx < 0 ∨ (mapWidth : Int) ≤ gx ∨ gy < 0 ∨
      (mapHeight : Int) ≤ gy then
    { d with
      lat := baseLat, lon := baseLon
      hasTarget := false, isAvailable := true, isRefueling := false }
  else d

/-- Arrival of a driver with a target: near enough, or by chance. -/
def arrive (draws : TickDraws) (d : Driver) : Driver :=
  if distanceSq d.lat d.lon d.targetLat d.targetLon < 0.01 ^ 2 ∨ draws.arrival % 100 < 20 then
    { d with
      hasTarget := false, isAvailable := true, isRefueling := false
      lat := d.targetLat, lon := d.targetLon }
  else d

/-- Fuel burnt on the way. -/
def burnFuel (draws : TickDraws) (d : Driver) : Driver :=
  if 0 < d.fuel ∧ draws.fuel % 100 < 10 then { d with fuel := d.fuel - 1 } else d

/-- Stage 2: navigation of a driver with a target. -/
def navigate (draws : TickDraws) (d : Driver) : Driver :=
  if d.hasTarget then burnFuel draws (arrive draws d) else d

/-- An available driver without fuel starts to refuel. -/
def startRefueling (d : Driver) : Driver :=
  if d.isAvailable ∧ d.fuel ≤ 0 ∧ ¬ d.isRefueling then
    { d with isRefueling := true, isAvailable := false, hasTarget := false }
  else d

/-- A refuelling driver gains two units, or leaves with a full tank. -/
def refuel (d : Driver) : Driver :=
  if d.isRefueling then
    if d.fuel < 10 then { d with fuel := d.fuel + 2 }
    else { d with isRefueling := false, isAvailable := true }
  else d

/-- Stage 3: fuel management. -/
def manageFuel (d : Driver) : Driver :=
  refuel (startRefueling d)

/-- Stage 4: a driver in no mode becomes available. -/
def failsafe (d : Driver) : Driver :=
  if ¬ d.isAvailable ∧ ¬ d.isRefueling ∧ ¬ d.hasTarget then { d with isAvailable := true }
  else d

/-- A path step toward the target, or the end of the ride when stuck.  The
cell compared with is the one the driver had at the start of the pass. -/
def followPath (grid : GridMap) (gx gy : Int) (d : Driver) : Driver :=
  let next := getNextStepAstar grid d.lat d.lon d.targetLat d.targetLon
  if next.x = gx ∧ next.y = gy then { d with hasTarget := false, isAvailable := true }
  else
    { d with
      lat := baseLat + (next.y : ℚ) / scaleFactor
      lon := baseLon + (next.x : ℚ) / scaleFactor }

/-- A random step, undone when it ends inside a wall. -/
def randomWalk (grid : GridMap) (draws : TickDraws) (d : Driver) : Driver :=
  let lat := d.lat + (((draws.latStep % 3 : Nat) : ℚ) - 1) * 0.0005
  let lon := d.lon + (((draws.lonStep % 3 : Nat) : ℚ) - 1) * 0.0005
  if isObstacle grid (gridCoordinate baseLon lon) (gridCoordinate baseLat lat) then d
  else { d with lat, lon }

/-- Stage 5: movement. -/
def move (grid : GridMap) (draws : TickDraws) (gx gy : Int) (d : Driver) : Driver :=
  if d.hasTarget ∧ ¬ d.isRefueling then followPath grid gx gy d
  else if d.isAvailable ∨ d.isRefueling then randomWalk grid draws d
  else d

/-- One driver's pass through the loop body. -/
def tickDriver (grid : GridMap) (draws : TickDraws) (d : Driver) : Driver :=
  let gy := gridCoordinate baseLat d.lat
  let gx := gridCoordinate baseLon d.lon
  move grid draws gx gy (failsafe (manageFuel (navigate draws (respawn grid gx gy d))))

/-- The critical section of one iteration of `map_monitor_thread`. -/
def mapMonitorTick (grid : GridMap) (draws : Nat → TickDraws) (state : SharedState) :
    Option SharedState :=
  state.forDrivers fun i d => tickDriver grid (draws i) d

/-! ## What a pass keeps -/

theorem respawn_frame (grid : GridMap) (gx gy : Int) (d : Driver) :
    ∃ lat lon isAvailable isRefueling hasTarget,
      respawn grid gx gy d = { d with lat, lon, isAvailable, isRefueling, hasTarget } := by
  rw [respawn]
  split
  · exact ⟨baseLat, baseLon, true, false, false, rfl⟩
  · exact ⟨d.lat, d.lon, d.isAvailable, d.isRefueling, d.hasTarget, rfl⟩

theorem arrive_frame (draws : TickDraws) (d : Driver) :
    ∃ lat lon isAvailable isRefueling hasTarget,
      arrive draws d = { d with lat, lon, isAvailable, isRefueling, hasTarget } := by
  rw [arrive]
  split
  · exact ⟨d.targetLat, d.targetLon, true, false, false, rfl⟩
  · exact ⟨d.lat, d.lon, d.isAvailable, d.isRefueling, d.hasTarget, rfl⟩

/-- Burning fuel changes nothing but the fuel. -/
theorem burnFuel_frame (draws : TickDraws) (d : Driver) :
    ∃ fuel, burnFuel draws d = { d with fuel } := by
  rw [burnFuel]
  split
  · exact ⟨d.fuel - 1, rfl⟩
  · exact ⟨d.fuel, rfl⟩

theorem navigate_frame (draws : TickDraws) (d : Driver) :
    ∃ lat lon isAvailable isRefueling hasTarget fuel,
      navigate draws d = { d with lat, lon, isAvailable, isRefueling, hasTarget, fuel } := by
  rw [navigate]
  split
  · obtain ⟨lat, lon, isAvailable, isRefueling, hasTarget, arrived⟩ := arrive_frame draws d
    obtain ⟨fuel, burnt⟩ := burnFuel_frame draws (arrive draws d)
    rw [burnt, arrived]
    exact ⟨lat, lon, isAvailable, isRefueling, hasTarget, fuel, rfl⟩
  · exact ⟨d.lat, d.lon, d.isAvailable, d.isRefueling, d.hasTarget, d.fuel, rfl⟩

theorem startRefueling_frame (d : Driver) :
    ∃ isAvailable isRefueling hasTarget,
      startRefueling d = { d with isAvailable, isRefueling, hasTarget } := by
  rw [startRefueling]
  split
  · exact ⟨false, true, false, rfl⟩
  · exact ⟨d.isAvailable, d.isRefueling, d.hasTarget, rfl⟩

theorem refuel_frame (d : Driver) :
    ∃ isAvailable isRefueling fuel, refuel d = { d with isAvailable, isRefueling, fuel } := by
  rw [refuel]
  split
  · split
    · exact ⟨d.isAvailable, d.isRefueling, d.fuel + 2, rfl⟩
    · exact ⟨true, false, d.fuel, rfl⟩
  · exact ⟨d.isAvailable, d.isRefueling, d.fuel, rfl⟩

/-- Fuel management changes the mode and the fuel. -/
theorem manageFuel_frame (d : Driver) :
    ∃ isAvailable isRefueling hasTarget fuel,
      manageFuel d = { d with isAvailable, isRefueling, hasTarget, fuel } := by
  obtain ⟨_, _, hasTarget, entered⟩ := startRefueling_frame d
  obtain ⟨isAvailable, isRefueling, fuel, refuelled⟩ := refuel_frame (startRefueling d)
  rw [manageFuel, refuelled, entered]
  exact ⟨isAvailable, isRefueling, hasTarget, fuel, rfl⟩

theorem failsafe_frame (d : Driver) : ∃ isAvailable, failsafe d = { d with isAvailable } := by
  rw [failsafe]
  split
  · exact ⟨true, rfl⟩
  · exact ⟨d.isAvailable, rfl⟩

/-- Movement changes the position, or ends the ride. -/
theorem move_frame (grid : GridMap) (draws : TickDraws) (gx gy : Int) (d : Driver) :
    ∃ lat lon isAvailable hasTarget,
      move grid draws gx gy d = { d with lat, lon, isAvailable, hasTarget } := by
  rw [move]
  split
  · rw [followPath]
    split
    · exact ⟨d.lat, d.lon, true, false, rfl⟩
    · exact ⟨_, _, d.isAvailable, d.hasTarget, rfl⟩
  · split
    · rw [randomWalk]
      split
      · exact ⟨d.lat, d.lon, d.isAvailable, d.hasTarget, rfl⟩
      · exact ⟨_, _, d.isAvailable, d.hasTarget, rfl⟩
    · exact ⟨d.lat, d.lon, d.isAvailable, d.hasTarget, rfl⟩

/-- A pass changes the position, the mode and the fuel, and nothing else. -/
theorem tickDriver_frame (grid : GridMap) (draws : TickDraws) (d : Driver) :
    ∃ lat lon isAvailable isRefueling hasTarget fuel,
      tickDriver grid draws d =
        { d with lat, lon, isAvailable, isRefueling, hasTarget, fuel } := by
  rw [tickDriver]
  generalize gridCoordinate baseLat d.lat = gy
  generalize gridCoordinate baseLon d.lon = gx
  obtain ⟨_, _, _, _, _, respawned⟩ := respawn_frame grid gx gy d
  obtain ⟨_, _, _, _, _, _, navigated⟩ := navigate_frame draws (respawn grid gx gy d)
  obtain ⟨_, isRefueling, _, fuel, managed⟩ :=
    manageFuel_frame (navigate draws (respawn grid gx gy d))
  obtain ⟨_, checked⟩ := failsafe_frame (manageFuel (navigate draws (respawn grid gx gy d)))
  obtain ⟨lat, lon, isAvailable, hasTarget, moved⟩ := move_frame grid draws gx gy
    (failsafe (manageFuel (navigate draws (respawn grid gx gy d))))
  rw [moved, checked, managed, navigated, respawned]
  exact ⟨lat, lon, isAvailable, isRefueling, hasTarget, fuel, rfl⟩

/-- Who a driver is and what it has done so far. -/
def profile (d : Driver) : UInt32 × ℚ × Int :=
  (d.driverId, d.rating, d.ridesCount)

/-- No stage of a pass touches a driver's identity, rating or ride count. -/
theorem profile_tickDriver (grid : GridMap) (draws : TickDraws) (d : Driver) :
    profile (tickDriver grid draws d) = profile d := by
  obtain ⟨_, _, _, _, _, _, frame⟩ := tickDriver_frame grid draws d
  rw [frame]
  rfl

theorem tickDriver_ridesCount (grid : GridMap) (draws : TickDraws) (d : Driver) :
    (tickDriver grid draws d).ridesCount = d.ridesCount :=
  congrArg (fun person => person.2.2) (profile_tickDriver grid draws d)

end RideHailing.Server
