import RideHailing.Loop.Counted
import Mathlib.Logic.Function.Basic
import Mathlib.Algebra.Order.Field.Rat

/-!
# The shared state

`SharedState` is the block of memory that the coordinator, the dispatcher
processes and the map monitor share under one mutex.  Coordinates and ratings
are exact rationals; the mode bytes are only ever written 0 or 1 and only
tested for truth, and are kept as Booleans.  An access `drivers[i]` outside the
table is a failure of the whole critical section.
-/

namespace RideHailing.Common

open RideHailing.Loop

/-- `MAX_DRIVERS`. -/
abbrev maxDrivers : Nat := 256

instance : NeZero maxDrivers :=
  ⟨by decide⟩

/-- The size of the two rate-limit tables. -/
abbrev maxClients : Nat := 2000

/-- `BASE_LAT`. -/
def baseLat : ℚ := 25.0330

/-- `BASE_LON`. -/
def baseLon : ℚ := 121.5654

structure Driver where
  driverId : UInt32
  lat : ℚ
  lon : ℚ
  isAvailable : Bool
  ridesCount : Int
  fuel : Int
  isRefueling : Bool
  rating : ℚ
  hasTarget : Bool
  targetLat : ℚ
  targetLon : ℚ
  deriving DecidableEq

/-- A record as `memset` leaves it. -/
def Driver.zeroed : Driver where
  driverId := 0
  lat := 0
  lon := 0
  isAvailable := false
  ridesCount := 0
  fuel := 0
  isRefueling := false
  rating := 0
  hasTarget := false
  targetLat := 0
  targetLon := 0

@[ext]
structure SharedState where
  drivers : Fin maxDrivers → Driver
  driverCount : Int
  totalRequestsHandled : UInt64
  totalSuccessRequests : UInt64
  totalRevenue : Int
  clientLastSeen : Fin maxClients → Int
  clientReqCount : Fin maxClients → Int
  dispatchMode : Int

namespace SharedState

/-- The state after `memset(g_shared_state, 0, sizeof(SharedState))`. -/
def zeroed : SharedState where
  drivers _ := Driver.zeroed
  driverCount := 0
  totalRequestsHandled := 0
  totalSuccessRequests := 0
  totalRevenue := 0
  clientLastSeen _ := 0
  clientReqCount _ := 0
  dispatchMode := 0

/-- Store one driver record. -/
def setDriver (state : SharedState) (slot : Fin maxDrivers) (driver : Driver) :
    SharedState :=
  { state with drivers := Function.update state.drivers slot driver }

@[simp]
theorem setDriver_drivers (state : SharedState) (slot : Fin maxDrivers) (driver : Driver) :
    (state.setDriver slot driver).drivers = Function.update state.drivers slot driver :=
  rfl

@[simp]
theorem setDriver_driverCount (state : SharedState) (slot : Fin maxDrivers)
    (driver : Driver) : (state.setDriver slot driver).driverCount = state.driverCount :=
  rfl

/-- The slots below `driver_count`. -/
def Active (state : SharedState) (slot : Fin maxDrivers) : Prop :=
  (slot.val : Int) < state.driverCount

instance (state : SharedState) (slot : Fin maxDrivers) : Decidable (state.Active slot) :=
  inferInstanceAs (Decidable (_ < _))

/-- The loop `for (i = 0; i < driver_count; i++)` that rewrites each active
record on its own. -/
def forDrivers (update : Nat → Driver → Driver) (state : SharedState) :
    Option SharedState :=
  countedLoop
    (fun i current =>
      (checkedIndex maxDrivers i).map fun slot =>
        current.setDriver slot (update i (current.drivers slot)))
    state.driverCount.toNat state

/-- A loop over a count within the table rewrites exactly the active records. -/
theorem forDrivers_eq_some (update : Nat → Driver → Driver) {state : SharedState}
    (fits : state.driverCount ≤ maxDrivers) :
    state.forDrivers update =
      some { state with
        drivers := fun slot =>
          if state.Active slot then update slot (state.drivers slot)
          else state.drivers slot } := by
  let after (done : Nat) : SharedState :=
    { state with
      drivers := fun slot =>
        if slot.val < done then update slot (state.drivers slot)
        else state.drivers slot }
  have body : ∀ i < state.driverCount.toNat, ∀ before, before = after i →
      ∃ next, ((checkedIndex maxDrivers i).map fun slot =>
          before.setDriver slot (update i (before.drivers slot))) = some next ∧
        next = after (i + 1) := by
    rintro i small _ rfl
    have inside : i < maxDrivers := by omega
    rw [checkedIndex_natCast inside]
    refine ⟨_, rfl, ?_⟩
    ext1 <;> try rfl
    funext slot
    by_cases same : slot = ⟨i, inside⟩
    · subst same
      simp [after]
    · have distinct : slot.val ≠ i := fun equal => same (Fin.ext equal)
      have shift : slot.val < i + 1 ↔ slot.val < i := by omega
      simp [after, Function.update_of_ne same, shift]
  have start : state = after 0 := by
    ext1 <;> simp [after]
  obtain ⟨result, finished, rfl⟩ :=
    countedLoop_total (P := fun i current => current = after i) start body
  rw [forDrivers, finished]
  have active : ∀ slot : Fin maxDrivers,
      slot.val < state.driverCount.toNat ↔ state.Active slot := by
    intro slot
    unfold Active
    omega
  simp [after, active]

/-- The loop touches nothing but the records, whether or not the count fits. -/
theorem forDrivers_frame {update : Nat → Driver → Driver} {state next : SharedState}
    (rewritten : state.forDrivers update = some next) :
    next = { state with drivers := next.drivers } := by
  apply countedLoop_partial (P := fun _ current =>
    current = { state with drivers := current.drivers }) rfl _ rewritten
  intro i _ before after kept stored
  obtain ⟨slot, _, rfl⟩ := Option.map_eq_some_iff.mp stored
  rw [kept]
  rfl

/-- A loop over a count beyond the table leaves it. -/
theorem forDrivers_eq_none (update : Nat → Driver → Driver) {state : SharedState}
    (beyond : (maxDrivers : Int) < state.driverCount) :
    state.forDrivers update = none := by
  apply countedLoop_eq_none (i := maxDrivers) (by omega)
  intro before
  rw [checkedIndex_eq_none (Or.inr (Int.le_refl _))]
  rfl

end SharedState

end RideHailing.Common
