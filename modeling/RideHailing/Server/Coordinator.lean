import RideHailing.Common.Protocol
import RideHailing.Server.RideService

/-!
# Fresh start and driver registration

`server_main` clears the shared memory and fills the first records;
`process_driver_join` appends one more record while the table has room.
-/

namespace RideHailing.Server

open RideHailing.Common
open RideHailing.Loop

/-- The outcomes of the `rand()` calls that initialise one driver. -/
structure InitDraws where
  lat : Nat
  lon : Nat
  rating : Nat

/-- The loop body of `server_main` for one driver. -/
def initDriver (i : Nat) (draws : InitDraws) (d : Driver) : Driver :=
  { d with
    driverId := UInt32.ofNat (1000 + i + 1)
    isAvailable := true
    lat := baseLat + ((draws.lat % 100 : Nat) : ℚ) * 0.0001
    lon := baseLon + ((draws.lon % 100 : Nat) : ℚ) * 0.0001
    fuel := 10
    isRefueling := false
    hasTarget := false
    targetLat := 0
    targetLon := 0
    rating :=
      if i < 2 then 4.9 + ((draws.rating % 2 : Nat) : ℚ) / 10
      else 3.5 + ((draws.rating % 15 : Nat) : ℚ) / 10 }

/-- The initialisation of the shared state in `server_main`. -/
def serverMain (driverCount mode : Int) (draws : Nat → InitDraws) : Option SharedState :=
  { SharedState.zeroed with driverCount, dispatchMode := mode }.forDrivers
    fun i d => initDriver i (draws i) d

/-- The record update of `process_driver_join`. -/
def joinDriver (driverId : UInt32) (d : Driver) : Driver :=
  { d with driverId, isAvailable := true, fuel := 10 }

/-- The critical section of `process_driver_join`. -/
def processDriverJoin (driverId : UInt32) (state : SharedState) : Option SharedState :=
  if state.driverCount < maxDrivers then
    (checkedIndex maxDrivers state.driverCount).map fun slot =>
      { state.setDriver slot (joinDriver driverId (state.drivers slot)) with
        driverCount := state.driverCount + 1 }
  else some state

/-- The acknowledgement that `process_driver_join` sends in every case. -/
def driverJoinResponse : ProtocolHeader where
  length := 0
  type := msgTypeRideResp
  opcode := opResponse
  checksum := 0

/-- What a join does: nothing to a full table, else it appends a record. -/
theorem processDriverJoin_cases {driverId : UInt32} {state next : SharedState}
    (step : processDriverJoin driverId state = some next) :
    ((maxDrivers : Int) ≤ state.driverCount ∧ next = state) ∨
      ∃ slot : Fin maxDrivers, state.driverCount = slot.val ∧
        next =
          { state.setDriver slot (joinDriver driverId (state.drivers slot)) with
            driverCount := state.driverCount + 1 } := by
  unfold processDriverJoin at step
  by_cases room : state.driverCount < maxDrivers
  · rw [if_pos room] at step
    obtain ⟨slot, index_eq, rfl⟩ := Option.map_eq_some_iff.mp step
    exact Or.inr ⟨slot, checkedIndex_eq_some_iff.mp index_eq, rfl⟩
  · rw [if_neg room] at step
    cases step
    exact Or.inl ⟨Int.not_lt.mp room, rfl⟩

theorem processDriverJoin_total (driverId : UInt32) {state : SharedState}
    (nonneg : 0 ≤ state.driverCount) :
    ∃ next, processDriverJoin driverId state = some next := by
  unfold processDriverJoin
  by_cases room : state.driverCount < maxDrivers
  · obtain ⟨count, count_eq⟩ := Int.eq_ofNat_of_zero_le nonneg
    rw [if_pos room, count_eq, checkedIndex_natCast (by omega)]
    exact ⟨_, rfl⟩
  · rw [if_neg room]
    exact ⟨state, rfl⟩

end RideHailing.Server
