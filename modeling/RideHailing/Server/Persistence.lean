import RideHailing.Server.Coordinator

/-!
# The save file

`save_state` writes the whole shared memory to a file and `load_state` reads it
back; a file that is missing or too short makes `ipc_init` start afresh.  After a
load one field of every active record is reset, the others are kept as saved.
-/

namespace RideHailing.Server

open RideHailing.Common

variable {saved next : SharedState}

/-- The save file, as far as `load_state` distinguishes its contents: missing,
shorter than `SharedState`, or starting with a whole one. -/
inductive SaveFile
  | missing
  | short
  | whole (saved : SharedState)

/-- What the calls of `save_state` return: `open` fails, `write` stores less
than the whole, or everything is written. -/
inductive WriteOutcome
  | unopened
  | short
  | complete
  deriving DecidableEq

/-- `save_state`. -/
def saveState (outcome : WriteOutcome) (state : SharedState) (file : SaveFile) : SaveFile :=
  match outcome with
  | .unopened => file
  | .short => .short
  | .complete => .whole state

/-- `load_state`; after a failed load the memory is cleared. -/
def loadState : SaveFile → Option SharedState
  | .missing => none
  | .short => none
  | .whole saved => some saved

@[simp]
theorem loadState_saveState (state : SharedState) (file : SaveFile) :
    loadState (saveState .complete state file) = some state :=
  rfl

/-- The loop body of `ipc_init` for a driver of a fresh start. -/
def freshDriver (i : Nat) (d : Driver) : Driver :=
  { d with
    driverId := UInt32.ofNat (1000 + i)
    isAvailable := true
    lat := baseLat + (i : ℚ) * 0.001
    lon := baseLon + (i : ℚ) * 0.001
    fuel := 10 }

/-- The loop body of `ipc_init` for a loaded driver. -/
def resumeDriver (d : Driver) : Driver :=
  { d with isAvailable := true }

/-- The driver count of a fresh start. -/
def clampCount (driverCount : Int) : Int :=
  if (maxDrivers : Int) < driverCount then maxDrivers else driverCount

/-- `ipc_init`. -/
def ipcInit (driverCount : Int) (file : SaveFile) : Option SharedState :=
  match loadState file with
  | none =>
      { SharedState.zeroed with driverCount := clampCount driverCount }.forDrivers freshDriver
  | some saved => saved.forDrivers fun _ => resumeDriver

theorem clampCount_le (driverCount : Int) : clampCount driverCount ≤ maxDrivers := by
  rw [clampCount]
  split
  · exact Int.le_refl _
  · exact Int.not_lt.mp ‹_›

/-- Without a usable file the start succeeds for every count, with records that
are filled below the count and zero above. -/
theorem ipcInit_fresh (driverCount : Int) {file : SaveFile} (unusable : loadState file = none) :
    ∃ fresh, ipcInit driverCount file = some fresh ∧
      fresh.driverCount = clampCount driverCount ∧
      ∀ slot, fresh.drivers slot =
        if fresh.Active slot then freshDriver slot Driver.zeroed else Driver.zeroed := by
  rw [ipcInit, unusable]
  simp only
  rw [SharedState.forDrivers_eq_some _ (by exact clampCount_le driverCount)]
  exact ⟨_, rfl, rfl, fun slot => rfl⟩

/-- A loaded state differs from the saved one in the availability of its active
records only. -/
theorem ipcInit_loaded (driverCount : Int) {file : SaveFile} (usable : loadState file = some saved)
    (fits : saved.driverCount ≤ maxDrivers) :
    ipcInit driverCount file = some { saved with
      drivers := fun slot =>
        if saved.Active slot then resumeDriver (saved.drivers slot) else saved.drivers slot } := by
  rw [ipcInit, usable]
  exact SharedState.forDrivers_eq_some _ fits

/-- A saved count beyond the table makes the loop over the loaded records leave
it. -/
theorem ipcInit_eq_none (driverCount : Int) {file : SaveFile}
    (usable : loadState file = some saved) (beyond : (maxDrivers : Int) < saved.driverCount) :
    ipcInit driverCount file = none := by
  rw [ipcInit, usable]
  exact SharedState.forDrivers_eq_none _ beyond

end RideHailing.Server
