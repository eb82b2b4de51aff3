import RideHailing.Fleet.Lifecycle
import RideHailing.Server.Persistence

/-!
# Restart from a save file

After a load every active driver is made available, whatever it was doing.  The
modes stay exclusive, and no open ride is followed by a second one, exactly when
all drivers were available at the time of saving.
-/

namespace RideHailing.Fleet

open RideHailing.Common
open RideHailing.Server
open RideHailing.Transition

variable {d : Driver} {saved loaded : SharedState} {file : SaveFile}

/-- The server that continues from a loaded state. -/
def continued (loaded : SharedState) : System SharedState Event where
  initial state := state = loaded
  step := CriticalSection

/-- The ride of a driver is open. -/
def RideOpen (state : SharedState) (slot : Fin maxDrivers) : Prop :=
  (state.drivers slot).hasTarget = true

/-- As long as the ride of a driver is open, no continuation assigns it
another one. -/
def NoSecondRide (loaded : SharedState) (slot : Fin maxDrivers) : Prop :=
  ∀ trace state clientId next,
    Run ((continued loaded).restrict fun before _ => RideOpen before slot) trace state →
      RideOpen state slot → ¬ CriticalSection state (.rideRequest clientId (some slot)) next

/-- What a restart should keep. -/
structure RestartSafe (saved loaded : SharedState) : Prop where
  modes : ∀ slot, loaded.Active slot → ExactlyOneMode (loaded.drivers slot)
  single : ∀ slot, saved.Active slot → RideOpen saved slot → NoSecondRide loaded slot

/-- An available driver is in no other mode. -/
theorem ExactlyOneMode.of_available (oneMode : ExactlyOneMode d)
    (available : d.isAvailable = true) :
    d.isRefueling = false ∧ d.hasTarget = false := by
  rw [ExactlyOneMode, available] at oneMode
  cases refueling : d.isRefueling with
  | false =>
      cases targeted : d.hasTarget with
      | false => exact ⟨rfl, rfl⟩
      | true => simp [refueling, targeted] at oneMode
  | true => cases targeted : d.hasTarget <;> simp [refueling, targeted] at oneMode

/-- Making a driver available keeps the modes exclusive only if it was
available. -/
theorem available_of_resumeDriver (before : ExactlyOneMode d)
    (after : ExactlyOneMode (resumeDriver d)) : d.isAvailable = true := by
  obtain ⟨outside, untargeted⟩ := after.of_available rfl
  have outside' : d.isRefueling = false := outside
  have untargeted' : d.hasTarget = false := untargeted
  rw [ExactlyOneMode, outside', untargeted'] at before
  cases available : d.isAvailable with
  | false => simp [available] at before
  | true => rfl

theorem resumeDriver_of_available (available : d.isAvailable = true) : resumeDriver d = d := by
  rw [resumeDriver, ← available]

/-- A load keeps a state whose active drivers are all available. -/
theorem ipcInit_of_available (driverCount : Int) (usable : loadState file = some saved)
    (fits : saved.driverCount ≤ maxDrivers)
    (available : ∀ slot, saved.Active slot → (saved.drivers slot).isAvailable = true) :
    ipcInit driverCount file = some saved := by
  rw [ipcInit_loaded driverCount usable fits]
  have same : (fun slot =>
      if saved.Active slot then resumeDriver (saved.drivers slot) else saved.drivers slot) =
        saved.drivers := by
    funext slot
    by_cases active : saved.Active slot
    · rw [if_pos active, resumeDriver_of_available (available slot active)]
    · exact if_neg active
  rw [same]

/-- From a state that is saved whole, with every active driver in exactly one
mode, the restart keeps the modes exclusive and assigns no second ride to a
driver with an open one exactly when the saved count fits the table and every
active driver was available. -/
theorem restartSafe_iff (driverCount : Int) (file : SaveFile)
    (oneMode : ∀ slot, saved.Active slot → ExactlyOneMode (saved.drivers slot)) :
    (∃ loaded, ipcInit driverCount (saveState .complete saved file) = some loaded ∧
        RestartSafe saved loaded) ↔
      saved.driverCount ≤ maxDrivers ∧
        ∀ slot, saved.Active slot → (saved.drivers slot).isAvailable = true := by
  have usable := loadState_saveState saved file
  constructor
  · rintro ⟨loaded, started, safe⟩
    have fits : saved.driverCount ≤ maxDrivers := by
      apply Int.not_lt.mp
      intro beyond
      rw [ipcInit_eq_none driverCount usable beyond] at started
      cases started
    refine ⟨fits, fun slot active => ?_⟩
    rw [ipcInit_loaded driverCount usable fits] at started
    cases started
    have resumed := safe.modes slot active
    simp only [if_pos active] at resumed
    exact available_of_resumeDriver (oneMode slot active) resumed
  · rintro ⟨fits, available⟩
    refine ⟨saved, ipcInit_of_available driverCount usable fits available, oneMode, ?_⟩
    intro slot active targeted
    have untargeted := ((oneMode slot active).of_available (available slot active)).2
    rw [RideOpen, untargeted] at targeted
    cases targeted

theorem loneDriver_oneMode (slot : Fin maxDrivers) (active : loneDriver.Active slot) :
    ExactlyOneMode (loneDriver.drivers slot) := by
  obtain ⟨_, represents⟩ := reachable_represents loneDriver_run.reachable slot active
  exact represents.exactlyOneMode

theorem restartSafe_iff_loneDriver :
    (∃ loaded, ipcInit 4 (saveState .complete loneDriver .missing) = some loaded ∧
        RestartSafe loneDriver loaded) ↔
      loneDriver.driverCount ≤ maxDrivers ∧
        ∀ slot, loneDriver.Active slot → (loneDriver.drivers slot).isAvailable = true :=
  restartSafe_iff 4 .missing loneDriver_oneMode

/-- The driver of an open ride after the load. -/
def resumedRide : SharedState :=
  servedRide.setDriver 0 (resumeDriver (servedRide.drivers 0))

theorem resumedRide_loaded :
    ipcInit 4 (saveState .complete servedRide .missing) = some resumedRide :=
  rfl

theorem resumedRide_dispatch :
    CriticalSection resumedRide (.rideRequest 6 (some 0))
      (dispatchTo 0 true ⟨1, 1⟩ resumedRide) := by
  have selected : selectDriver (isVipClient 6) resumedRide = some (some 0) := by
    decide +kernel
  refine ⟨⟨1, 1⟩, some (0, baseDistance (resumedRide.drivers 0)), ?_, rfl⟩
  rw [rideCriticalSection, selected]
  rfl

/-- A state with an open ride is saved at the end of a run; after the load the
driver is available and on its way at once, and the next request gives it a
second ride. -/
theorem restart_secondRide :
    Run secureServer [.driverJoin 7, .rideRequest 5 (some 0)] servedRide ∧
      (∀ slot, servedRide.Active slot → ExactlyOneMode (servedRide.drivers slot)) ∧
      RideOpen servedRide 0 ∧
      ipcInit 4 (saveState .complete servedRide .missing) = some resumedRide ∧
      resumedRide.Active 0 ∧ ¬ ExactlyOneMode (resumedRide.drivers 0) ∧
      ¬ NoSecondRide resumedRide 0 := by
  refine ⟨servedRide_run, ?_, rfl, resumedRide_loaded, by decide, ?_, ?_⟩
  · intro slot active
    obtain ⟨_, represents⟩ := reachable_represents servedRide_run.reachable slot active
    exact represents.exactlyOneMode
  · intro oneMode
    exact absurd (oneMode.of_available rfl).2 Bool.noConfusion
  · intro single
    exact single [] resumedRide 6 _ (Run.start rfl) rfl resumedRide_dispatch

end RideHailing.Fleet
