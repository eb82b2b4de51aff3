import RideHailing.Arithmetic.Machine
import RideHailing.Bytes.Region
import RideHailing.Common.Crypto
import RideHailing.Server.MapMonitor

/-!
# Driver selection and the ride service

`find_driver_basic` and `find_driver_smart` are two uses of one scan for the
nearest driver.  `handle_ride_request_logic` selects and updates under the
mutex and formats its answer from the shared record afterwards.  A selected
index is kept as an optional slot, `none` standing for `-1`.
-/

namespace RideHailing.Server

open RideHailing.Arithmetic
open RideHailing.Bytes
open RideHailing.Common
open RideHailing.Loop

/-! ## Selection -/

/-- The condition under which both strategies consider a driver. -/
def eligible (d : Driver) : Bool :=
  d.isAvailable && !d.isRefueling && decide (0 < d.fuel)

/-- `VIP_RATING_THRESHOLD`. -/
def vipRatingThreshold : ℚ := 4.8

/-- The distance that the scans minimise. -/
def baseDistance (d : Driver) : ℚ :=
  distanceSq baseLat baseLon d.lat d.lon

/-- One iteration of a scan over the best index and the least distance. -/
def scanStep (accepts : Driver → Bool) (state : SharedState) (i : Nat)
    (best : Option (Fin maxDrivers) × ℚ) : Option (Option (Fin maxDrivers) × ℚ) :=
  (checkedIndex maxDrivers i).map fun slot =>
    let d := state.drivers slot
    if accepts d ∧ baseDistance d < best.2 then (some slot, baseDistance d) else best

/-- The scan for the nearest accepted driver below the distance 1000000. -/
def scanDrivers (accepts : Driver → Bool) (state : SharedState) :
    Option (Option (Fin maxDrivers)) :=
  (countedLoop (scanStep accepts state) state.driverCount.toNat (none, 1000000 ^ 2)).map
    Prod.fst

/-- `find_driver_basic`. -/
def findDriverBasic (state : SharedState) : Option (Option (Fin maxDrivers)) :=
  scanDrivers eligible state

/-- `find_driver_smart`. -/
def findDriverSmart (state : SharedState) (isVip : Bool) :
    Option (Option (Fin maxDrivers)) := do
  if isVip then
    let best ← scanDrivers (fun d => eligible d && decide (vipRatingThreshold ≤ d.rating)) state
    match best with
    | some slot => return some slot
    | none => findDriverBasic state
  else findDriverBasic state

theorem scanStep_accepts {accepts : Driver → Bool} {state : SharedState} {i : Nat}
    {before after : Option (Fin maxDrivers) × ℚ}
    (sound : ∀ slot, before.1 = some slot → slot.val < i ∧ accepts (state.drivers slot))
    (step : scanStep accepts state i before = some after) :
    ∀ slot, after.1 = some slot → slot.val < i + 1 ∧ accepts (state.drivers slot) := by
  intro slot chosen
  obtain ⟨found, index_eq, rfl⟩ := Option.map_eq_some_iff.mp step
  have position : i = found.val := by
    exact_mod_cast checkedIndex_eq_some_iff.mp index_eq
  by_cases better : accepts (state.drivers found) ∧ baseDistance (state.drivers found) < before.2
  · rw [if_pos better] at chosen
    cases chosen
    exact ⟨by omega, better.1⟩
  · rw [if_neg better] at chosen
    exact ⟨Nat.lt_succ_of_lt (sound slot chosen).1, (sound slot chosen).2⟩

/-- A scan selects only active drivers that it accepts. -/
theorem scanDrivers_sound {accepts : Driver → Bool} {state : SharedState}
    {slot : Fin maxDrivers} (scanned : scanDrivers accepts state = some (some slot)) :
    state.Active slot ∧ accepts (state.drivers slot) := by
  obtain ⟨result, finished, chosen⟩ := Option.map_eq_some_iff.mp scanned
  have sound := countedLoop_partial
    (P := fun i best => ∀ slot, best.1 = some slot →
      slot.val < i ∧ accepts (state.drivers slot))
    (by simp) (fun i _ before after holds step => scanStep_accepts holds step) finished
  obtain ⟨small, accepted⟩ := sound slot chosen
  refine ⟨?_, accepted⟩
  unfold SharedState.Active
  omega

/-- A scan of a count within the table returns. -/
theorem scanDrivers_total (accepts : Driver → Bool) {state : SharedState}
    (fits : state.driverCount ≤ maxDrivers) :
    ∃ best, scanDrivers accepts state = some best := by
  have step : ∀ i < state.driverCount.toNat, ∀ best, True →
      ∃ next, scanStep accepts state i best = some next ∧ True := by
    intro i small best _
    have inside : i < maxDrivers := by omega
    rw [scanStep, checkedIndex_natCast inside]
    exact ⟨_, rfl, trivial⟩
  have loop : ∃ result, countedLoop (scanStep accepts state) state.driverCount.toNat
      (none, 1000000 ^ 2) = some result ∧ True :=
    countedLoop_total (P := fun _ _ => True) trivial step
  obtain ⟨result, finished, -⟩ := loop
  exact ⟨result.1, by rw [scanDrivers, finished]; rfl⟩

theorem findDriverSmart_sound {state : SharedState} {isVip : Bool} {slot : Fin maxDrivers}
    (found : findDriverSmart state isVip = some (some slot)) :
    state.Active slot ∧ eligible (state.drivers slot) := by
  cases isVip with
  | false => exact scanDrivers_sound found
  | true =>
      simp only [findDriverSmart, if_true, Option.bind_eq_bind] at found
      obtain ⟨best, scanned, rest⟩ := Option.bind_eq_some_iff.mp found
      cases best with
      | none => exact scanDrivers_sound rest
      | some chosen =>
          cases rest
          obtain ⟨active, accepted⟩ := scanDrivers_sound scanned
          exact ⟨active, (Bool.and_eq_true_iff.mp accepted).1⟩

theorem findDriverSmart_total {state : SharedState} (isVip : Bool)
    (fits : state.driverCount ≤ maxDrivers) :
    ∃ best, findDriverSmart state isVip = some best := by
  cases isVip with
  | false => exact scanDrivers_total _ fits
  | true =>
      obtain ⟨best, scanned⟩ := scanDrivers_total
        (fun d => eligible d && decide (vipRatingThreshold ≤ d.rating)) fits
      simp only [findDriverSmart, if_true, scanned, Option.bind_eq_bind, Option.bind_some]
      cases best with
      | none => exact scanDrivers_total _ fits
      | some slot => exact ⟨some slot, rfl⟩

/-! ## The critical section -/

/-- The outcomes of the two `rand()` calls that choose a destination. -/
structure TargetDraws where
  lat : Nat
  lon : Nat

/-- The test for VIP treatment. -/
def isVipClient (clientId : Int) : Bool :=
  decide (clientId ≤ 10)

/-- The fare, converted from `double` exactly. -/
def fare (isVip : Bool) : Int :=
  100 + if isVip then 50 else 0

/-- The updates of the selected driver's record. -/
def assignRide (draws : TargetDraws) (d : Driver) : Driver :=
  { d with
    isAvailable := false
    ridesCount := wrap32 (d.ridesCount + 1)
    fuel := d.fuel - 1
    hasTarget := true
    targetLat := baseLat + ((draws.lat % 90 : Nat) : ℚ) * 0.0001
    targetLon := baseLon + ((draws.lon % 180 : Nat) : ℚ) * 0.0001 }

/-- All updates of a successful request. -/
def dispatchTo (slot : Fin maxDrivers) (isVip : Bool) (draws : TargetDraws)
    (state : SharedState) : SharedState :=
  { state.setDriver slot (assignRide draws (state.drivers slot)) with
    totalRequestsHandled := state.totalRequestsHandled + 1
    totalSuccessRequests := state.totalSuccessRequests + 1
    totalRevenue := wrap64 (state.totalRevenue + fare isVip) }

/-- The choice of the strategy by the dispatch mode. -/
def selectDriver (isVip : Bool) (state : SharedState) : Option (Option (Fin maxDrivers)) :=
  if state.dispatchMode = 0 then findDriverBasic state else findDriverSmart state isVip

/-- The part of `handle_ride_request_logic` under the mutex: the new state, and
the selected slot with its distance at selection when the request succeeds. -/
def rideCriticalSection (clientId : Int) (draws : TargetDraws) (state : SharedState) :
    Option (SharedState × Option (Fin maxDrivers × ℚ)) := do
  let isVip := isVipClient clientId
  let best ← selectDriver isVip state
  match best with
  | some slot =>
      return (dispatchTo slot isVip draws state, some (slot, baseDistance (state.drivers slot)))
  | none => return (state, none)

theorem selectDriver_sound {isVip : Bool} {state : SharedState} {slot : Fin maxDrivers}
    (selected : selectDriver isVip state = some (some slot)) :
    state.Active slot ∧ eligible (state.drivers slot) := by
  unfold selectDriver at selected
  split at selected
  · exact scanDrivers_sound selected
  · exact findDriverSmart_sound selected

theorem selectDriver_total (isVip : Bool) {state : SharedState}
    (fits : state.driverCount ≤ maxDrivers) :
    ∃ best, selectDriver isVip state = some best := by
  unfold selectDriver
  split
  · exact scanDrivers_total _ fits
  · exact findDriverSmart_total _ fits

/-- Everything a request can do to the shared state: nothing, or the dispatch
of an active, eligible driver. -/
theorem rideCriticalSection_cases {clientId : Int} {draws : TargetDraws}
    {state next : SharedState} {result : Option (Fin maxDrivers × ℚ)}
    (step : rideCriticalSection clientId draws state = some (next, result)) :
    (result = none ∧ next = state) ∨
      ∃ slot, result = some (slot, baseDistance (state.drivers slot)) ∧
        state.Active slot ∧ eligible (state.drivers slot) ∧
        next = dispatchTo slot (isVipClient clientId) draws state := by
  simp only [rideCriticalSection, Option.bind_eq_bind] at step
  obtain ⟨best, selected, rest⟩ := Option.bind_eq_some_iff.mp step
  cases best with
  | none =>
      cases rest
      exact Or.inl ⟨rfl, rfl⟩
  | some slot =>
      cases rest
      obtain ⟨active, accepted⟩ := selectDriver_sound selected
      exact Or.inr ⟨slot, rfl, active, accepted, rfl⟩

theorem rideCriticalSection_total (clientId : Int) (draws : TargetDraws)
    {state : SharedState} (fits : state.driverCount ≤ maxDrivers) :
    ∃ outcome, rideCriticalSection clientId draws state = some outcome := by
  obtain ⟨best, selected⟩ := selectDriver_total (isVipClient clientId) fits
  simp only [rideCriticalSection, selected, Option.bind_eq_bind, Option.bind_some]
  cases best with
  | none => exact ⟨_, rfl⟩
  | some slot => exact ⟨_, rfl⟩

/-! ## The answer -/

/-- The `%.1f` conversion of a rating and the `%.4f` conversion of a distance,
the latter from the square of the distance. -/
structure FloatFormat where
  rating : ℚ → CString
  distance : ℚ → CString

/-- The text formatted after the mutex is released, from the record as it is
then. -/
def rideResponse (format : FloatFormat) (state : SharedState) :
    Option (Fin maxDrivers × ℚ) → CString
  | some (slot, dist) =>
      let d := state.drivers slot
      ascii "Ride Confirmed! Driver ID: " ++ printDecimal (wrap32 d.driverId.toNat) ++
        ascii " (Rating: " ++ format.rating d.rating ++ ascii ", Dist: " ++
        format.distance dist ++ ascii ") [Mode: " ++
        (if state.dispatchMode = 1 then ascii "SMART" else ascii "BASIC") ++ ascii "]"
  | none => ascii "Error: No drivers available."

/-- The `%.4f` conversion of a coordinate in the log. -/
structure LogFormat extends FloatFormat where
  coordinate : ℚ → CString

/-- The line that `log_info` is given after the response was formatted, from the
record as it is then. -/
def dispatchLog (format : LogFormat) (clientId : Int) (state : SharedState)
    (slot : Fin maxDrivers) : CString :=
  let d := state.drivers slot
  ascii "Dispatched Driver " ++ printDecimal (wrap32 d.driverId.toNat) ++ ascii " (Rate " ++
    format.rating d.rating ++ ascii ") to Client " ++ printDecimal clientId ++
    ascii ". Heading to (" ++ format.coordinate d.targetLat ++ ascii ", " ++
    format.coordinate d.targetLon ++ ascii ")"

/-- `handle_ride_request_logic` run without interference: the new state, the
return value and the text handed to `snprintf`, which is that of
`rideResponse`. -/
def handleRideRequestLogic
    (response : SharedState → Option (Fin maxDrivers × ℚ) → CString) (clientId : Int)
    (draws : TargetDraws) (state : SharedState) : Option (SharedState × Int × CString) :=
  (rideCriticalSection clientId draws state).map fun outcome =>
    (outcome.1, if outcome.2.isSome then 0 else -1, response outcome.1 outcome.2)

end RideHailing.Server
