import RideHailing.Fleet.System

/-!
# The bounds of the driver table

The secure server takes its driver count from the command line as it is.  The
count is the limit of every loop over the table and the index of the next join,
so the start alone decides whether the table is ever left.
-/

namespace RideHailing.Fleet

open RideHailing.Common
open RideHailing.Server
open RideHailing.Transition

variable {driverCount : Int} {state : SharedState} {trace : List Event}

/-- The secure server started with a driver count, whatever it is. -/
def startedServer (driverCount : Int) : System SharedState Event where
  initial state := ∃ mode draws, serverMain driverCount mode draws = some state
  step := CriticalSection

/-- The count lies within the table, and every loop over the table, every
dispatch and every join stays inside it. -/
structure WithinTable (state : SharedState) : Prop where
  nonneg : 0 ≤ state.driverCount
  fits : state.driverCount ≤ maxDrivers
  basic : ∃ best, findDriverBasic state = some best
  smart : ∀ isVip, ∃ best, findDriverSmart state isVip = some best
  ride : ∀ clientId draws, ∃ outcome, rideCriticalSection clientId draws state = some outcome
  tick : ∀ draws, ∃ next, mapMonitorTick initMapObstacles draws state = some next
  join : ∀ driverId, ∃ next, processDriverJoin driverId state = some next

/-- The initialisation and every run after it stay within the table. -/
structure TableSafe (driverCount : Int) : Prop where
  starts : ∀ mode draws, ∃ state, serverMain driverCount mode draws = some state
  runs : ∀ trace state, Run (startedServer driverCount) trace state → WithinTable state

theorem WellFormed.withinTable (wellFormed : WellFormed state) : WithinTable state where
  nonneg := wellFormed.nonneg
  fits := wellFormed.fits
  basic := scanDrivers_total eligible wellFormed.fits
  smart isVip := findDriverSmart_total isVip wellFormed.fits
  ride clientId draws := rideCriticalSection_total clientId draws wellFormed.fits
  tick _ := ⟨_, SharedState.forDrivers_eq_some _ wellFormed.fits⟩
  join driverId := processDriverJoin_total driverId wellFormed.nonneg

/-- A start within the table keeps every run within it. -/
theorem startedServer_wellFormed (nonneg : 0 ≤ driverCount) (fits : driverCount ≤ maxDrivers)
    (run : Run (startedServer driverCount) trace state) : WellFormed state := by
  apply run.invariant (P := fun _ state => WellFormed state)
  · rintro start ⟨mode, draws, started⟩
    exact (serverMain_wellFormed nonneg fits started).1
  · rintro _ before event after wellFormed step
    exact criticalSection_wellFormed wellFormed step

/-- A count beyond the table leaves it during the initialisation. -/
theorem serverMain_eq_none (beyond : (maxDrivers : Int) < driverCount) (mode : Int)
    (draws : Nat → InitDraws) : serverMain driverCount mode draws = none :=
  SharedState.forDrivers_eq_none _ beyond

/-- A negative count passes the initialisation and stays in the state. -/
theorem serverMain_of_neg (negative : driverCount < 0) (mode : Int) (draws : Nat → InitDraws) :
    ∃ state, serverMain driverCount mode draws = some state ∧ state.driverCount < 0 := by
  have fits : driverCount ≤ maxDrivers := by omega
  rw [serverMain, SharedState.forDrivers_eq_some _ (by exact fits)]
  exact ⟨_, rfl, negative⟩

theorem TableSafe.fits (safe : TableSafe driverCount) : driverCount ≤ maxDrivers := by
  apply Int.not_lt.mp
  intro beyond
  obtain ⟨state, started⟩ := safe.starts 0 fun _ => ⟨0, 0, 0⟩
  rw [serverMain_eq_none beyond] at started
  cases started

theorem TableSafe.nonneg (safe : TableSafe driverCount) : 0 ≤ driverCount := by
  apply Int.not_lt.mp
  intro negative
  obtain ⟨state, started, below⟩ := serverMain_of_neg negative 0 fun _ => ⟨0, 0, 0⟩
  have within := safe.runs [] state (Run.start ⟨0, _, started⟩)
  exact absurd within.nonneg (Int.not_le.mpr below)

/-- The server stays within its driver table, through the initialisation and
every run, exactly when it is started with a count that the table can hold. -/
theorem tableSafe_iff (driverCount : Int) :
    TableSafe driverCount ↔ 0 ≤ driverCount ∧ driverCount ≤ maxDrivers := by
  constructor
  · intro safe
    exact ⟨safe.nonneg, safe.fits⟩
  · rintro ⟨nonneg, fits⟩
    constructor
    · intro mode draws
      exact ⟨_, SharedState.forDrivers_eq_some _ fits⟩
    · intro trace state run
      exact (startedServer_wellFormed nonneg fits run).withinTable

/-- Started with 257 drivers the server writes behind its table, and started
with -1 it writes before it at the first join. -/
theorem tableSafe_startArguments :
    ¬ TableSafe 257 ∧ ¬ TableSafe (-1) ∧
      serverMain 257 1 (fun _ => ⟨0, 0, 0⟩) = none ∧
      ∃ state, serverMain (-1) 1 (fun _ => ⟨0, 0, 0⟩) = some state ∧
        processDriverJoin 7 state = none := by
  refine ⟨fun safe => absurd safe.fits (by decide), fun safe => absurd safe.nonneg (by decide),
    serverMain_eq_none (by decide) 1 _, ?_⟩
  exact ⟨{ SharedState.zeroed with driverCount := -1, dispatchMode := 1 }, rfl, rfl⟩

end RideHailing.Fleet
