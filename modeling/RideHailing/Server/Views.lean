import RideHailing.Server.Persistence

/-!
# What the operators see

Three programs look at the shared state without changing it: the pricing
service, the report on a save file, and the driver table on the screen of the map
monitor.  Each goes over the active drivers in the order of the table; an access
outside the table is a failure of the whole view.
-/

namespace RideHailing.Server

open RideHailing.Common
open RideHailing.Loop

/-- The loop `for (i = 0; i < n; i++)` that reads each record. -/
def readDrivers {β : Type} (visit : Fin maxDrivers → Driver → β → β) (n : Nat)
    (state : SharedState) (start : β) : Option β :=
  countedLoop (fun i current =>
    (checkedIndex maxDrivers i).map fun slot => visit slot (state.drivers slot) current) n start

/-! ## Pricing -/

/-- The loop body of `calculate_surge_price`. -/
def countBusy (_ : Fin maxDrivers) (d : Driver) (busyDrivers : Nat) : Nat :=
  if ¬ d.isAvailable ∧ ¬ d.isRefueling then busyDrivers + 1 else busyDrivers

/-- `calculate_surge_price`: the fare and `is_surge`.  Quotients of two `double`
integers of this size compare with `0.7` as the exact ones do. -/
def calculateSurgePrice (state : SharedState) : Option (Int × Int) :=
  let baseFare : Int := 100
  if state.driverCount = 0 then some (baseFare, 0)
  else
    (readDrivers countBusy state.driverCount.toNat state 0).map fun busyDrivers : Nat =>
      let busyRatio : ℚ := busyDrivers / state.driverCount
      if 0.7 < busyRatio then (baseFare * 2, 1) else (baseFare, 0)

/-! ## The report on a save file -/

inductive DumpStatus
  | refueling
  | available
  | busy
  deriving DecidableEq

/-- The branches of `dump_dat` for one driver. -/
def dumpStatus (d : Driver) : DumpStatus :=
  if d.isRefueling then .refueling else if d.isAvailable then .available else .busy

/-- A printed line of the driver list. -/
structure DumpRow where
  index : Nat
  driverId : UInt32
  status : DumpStatus
  ridesCount : Int
  fuel : Int
  deriving DecidableEq

/-- The report, with the counters of its summary. -/
structure DumpReport where
  totalRequestsHandled : UInt64
  totalSuccessRequests : UInt64
  totalRevenue : Int
  driverCount : Int
  rows : List DumpRow
  availableDrivers : Nat
  refuelingDrivers : Nat
  busyDrivers : Nat

/-- The counter that a driver belongs to. -/
def DumpReport.count (status : DumpStatus) (report : DumpReport) : DumpReport :=
  match status with
  | .refueling => { report with refuelingDrivers := report.refuelingDrivers + 1 }
  | .available => { report with availableDrivers := report.availableDrivers + 1 }
  | .busy => { report with busyDrivers := report.busyDrivers + 1 }

def dumpRow (slot : Fin maxDrivers) (d : Driver) : DumpRow :=
  ⟨slot.val, d.driverId, dumpStatus d, d.ridesCount, d.fuel⟩

/-- Only the first five drivers are printed. -/
def DumpReport.print (slot : Fin maxDrivers) (d : Driver) (report : DumpReport) : DumpReport :=
  if slot.val < 5 then { report with rows := report.rows ++ [dumpRow slot d] } else report

/-- The loop body of `dump_dat`. -/
def dumpDriver (slot : Fin maxDrivers) (d : Driver) (report : DumpReport) : DumpReport :=
  (report.count (dumpStatus d)).print slot d

/-- What `dump_dat` prints, or how it gives up. -/
inductive DumpResult
  | notOpened
  | sizeMismatch
  | report (report : DumpReport)

/-- `main` of `dump_dat`. -/
def dumpDat : SaveFile → Option DumpResult
  | .missing => some .notOpened
  | .short => some .sizeMismatch
  | .whole state =>
      (readDrivers dumpDriver state.driverCount.toNat state
        { totalRequestsHandled := state.totalRequestsHandled
          totalSuccessRequests := state.totalSuccessRequests
          totalRevenue := state.totalRevenue
          driverCount := state.driverCount
          rows := []
          availableDrivers := 0
          refuelingDrivers := 0
          busyDrivers := 0 }).map .report

/-! ## The screen of the monitor -/

inductive ScreenStatus
  | navigating
  | refueling
  | available
  | busy
  deriving DecidableEq

def screenStatus (d : Driver) : ScreenStatus :=
  if d.hasTarget then .navigating
  else if d.isRefueling then .refueling
  else if d.isAvailable then .available
  else .busy

/-- `fuel_bar`. -/
def fuelBar (fuel : Int) : List Char :=
  (List.range 10).map fun k => if (k : Int) < fuel then '#' else '.'

/-- A printed line of the driver table. -/
structure ScreenRow where
  driverId : UInt32
  status : ScreenStatus
  fuelBar : List Char
  rating : ℚ
  target : Option (ℚ × ℚ)

def screenRow (_ : Fin maxDrivers) (d : Driver) : ScreenRow where
  driverId := d.driverId
  status := screenStatus d
  fuelBar := fuelBar d.fuel
  rating := d.rating
  target := if d.hasTarget then some (d.targetLat, d.targetLon) else none

def printRow (slot : Fin maxDrivers) (d : Driver) (rows : List ScreenRow) : List ScreenRow :=
  rows ++ [screenRow slot d]

/-- The driver table; the loop ends at the tenth driver. -/
def screenRows (state : SharedState) : Option (List ScreenRow) :=
  readDrivers printRow (min 10 state.driverCount.toNat) state []

end RideHailing.Server
