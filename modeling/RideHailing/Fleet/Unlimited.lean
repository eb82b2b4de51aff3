import RideHailing.Fleet.RateLimit
import RideHailing.Server.Selection

/-!
# The limiter beside the fleet

The limiter's tables are read and written by the limiter alone, and it reads and
writes nothing else.  So a run of the secure server is one of a server without
limiter and one of the limiter without a server, side by side.
-/

namespace RideHailing.Fleet

open RideHailing.Common
open RideHailing.Server
open RideHailing.Transition

variable {state next : SharedState} {event : Event} {seen count : Fin maxClients → Int}

/-- The state with other limiter tables. -/
def withTables (seen count : Fin maxClients → Int) (state : SharedState) : SharedState :=
  { state with clientLastSeen := seen, clientReqCount := count }

/-- The events that are not the limiter's. -/
def unlimited : Event → Prop
  | .rideRequest _ _ => True
  | .monitorTick => True
  | .driverJoin _ => True
  | .rateLimitCheck _ _ _ => False

instance (event : Event) : Decidable (unlimited event) := by
  cases event <;> unfold unlimited <;> infer_instance

/-- The server without its limiter. -/
def unlimitedServer : System SharedState Event where
  initial := secureServer.initial
  step state event next := unlimited event ∧ CriticalSection state event next

/-- The limiter without a server. -/
def loneLimiter : System SharedState Event where
  initial state := state = SharedState.zeroed
  step state event next := ¬ unlimited event ∧ CriticalSection state event next

/-- The state as a server without limiter keeps it. -/
def eraseTables : SharedState → SharedState :=
  withTables (fun _ => 0) (fun _ => 0)

/-- The state as the limiter keeps it. -/
def onlyTables (state : SharedState) : SharedState :=
  withTables state.clientLastSeen state.clientReqCount SharedState.zeroed

@[simp]
theorem withTables_self (state : SharedState) :
    withTables state.clientLastSeen state.clientReqCount state = state :=
  rfl

theorem withTables_eraseTables (state : SharedState) :
    withTables seen count (eraseTables state) = withTables seen count state :=
  rfl

/-! ## The critical sections -/

theorem selectDriver_withTables (isVip : Bool) (state : SharedState) :
    selectDriver isVip (withTables seen count state) = selectDriver isVip state :=
  rfl

/-- The tables pass through a ride request, and its result does not depend on
them. -/
theorem rideCriticalSection_withTables (clientId : Int) (draws : TargetDraws)
    (state : SharedState) :
    rideCriticalSection clientId draws (withTables seen count state) =
      (rideCriticalSection clientId draws state).map fun outcome =>
        (withTables seen count outcome.1, outcome.2) := by
  rw [rideCriticalSection_eq, rideCriticalSection_eq, selectDriver_withTables, Option.map_map]
  congr 1
  funext best
  cases best with
  | none => rfl
  | some slot => rfl

theorem forDrivers_withTables (update : Nat → Driver → Driver) (state : SharedState) :
    (withTables seen count state).forDrivers update =
      (state.forDrivers update).map (withTables seen count) := by
  by_cases fits : state.driverCount ≤ maxDrivers
  · rw [SharedState.forDrivers_eq_some _ fits, SharedState.forDrivers_eq_some _ (by exact fits)]
    rfl
  · have beyond : (maxDrivers : Int) < state.driverCount := Int.not_le.mp fits
    rw [SharedState.forDrivers_eq_none _ beyond, SharedState.forDrivers_eq_none _ (by exact beyond)]
    rfl

theorem processDriverJoin_withTables (driverId : UInt32) (state : SharedState) :
    processDriverJoin driverId (withTables seen count state) =
      (processDriverJoin driverId state).map (withTables seen count) := by
  have same : (withTables seen count state).driverCount = state.driverCount := rfl
  rw [processDriverJoin, processDriverJoin, same]
  split
  · rw [Option.map_map]
    rfl
  · rfl

/-- A critical section that is not the limiter's leaves the tables alone and
does the same whatever they hold. -/
theorem criticalSection_withTables (seen count : Fin maxClients → Int) (allowed : unlimited event)
    (step : CriticalSection state event next) :
    CriticalSection (withTables seen count state) event (withTables seen count next) := by
  cases event with
  | rideRequest clientId chosen =>
      obtain ⟨draws, result, section_, rfl⟩ := step
      refine ⟨draws, result, ?_, rfl⟩
      rw [rideCriticalSection_withTables, section_]
      rfl
  | monitorTick =>
      obtain ⟨draws, tick⟩ := step
      refine ⟨draws, ?_⟩
      rw [mapMonitorTick, forDrivers_withTables]
      exact Option.map_eq_some_iff.mpr ⟨next, tick, rfl⟩
  | driverJoin driverId =>
      have joined : processDriverJoin driverId state = some next := step
      have same : processDriverJoin driverId (withTables seen count state) = _ :=
        processDriverJoin_withTables driverId state
      rw [joined] at same
      exact same
  | rateLimitCheck clientId now blocked => exact allowed.elim

theorem eraseTables_recordRequest (slot : Fin maxClients) (now : Int) (state : SharedState) :
    eraseTables (recordRequest slot now state) = eraseTables state := by
  rw [recordRequest]
  split
  · rfl
  · rfl

/-- The limiter changes nothing but its tables. -/
theorem eraseTables_checkAndUpdateRateLimit (clientId now : Int) (state : SharedState) :
    eraseTables (checkAndUpdateRateLimit clientId now state).2 = eraseTables state := by
  have call : checkAndUpdateRateLimit clientId now state =
      ((checkAndUpdateRateLimit clientId now state).1,
        (checkAndUpdateRateLimit clientId now state).2) := rfl
  rcases checkAndUpdateRateLimit_cases call with ⟨_, _, same⟩ | ⟨slot, _, recorded, _⟩
  · rw [same]
  · rw [recorded, eraseTables_recordRequest]

theorem unlimited_or_limiter (event : Event) :
    unlimited event ∨ ∃ clientId now blocked, event = .rateLimitCheck clientId now blocked := by
  cases event with
  | rideRequest clientId chosen => exact Or.inl trivial
  | monitorTick => exact Or.inl trivial
  | driverJoin driverId => exact Or.inl trivial
  | rateLimitCheck clientId now blocked => exact Or.inr ⟨clientId, now, blocked, rfl⟩

theorem recordRequest_onlyTables (slot : Fin maxClients) (now : Int) (state : SharedState) :
    recordRequest slot now (onlyTables state) = onlyTables (recordRequest slot now state) := by
  rw [recordRequest, recordRequest]
  by_cases same : state.clientLastSeen slot = now
  · have same' : (onlyTables state).clientLastSeen slot = now := same
    rw [if_pos same, if_pos same']
    rfl
  · have same' : ¬ (onlyTables state).clientLastSeen slot = now := same
    rw [if_neg same, if_neg same']
    rfl

/-- The limiter's verdict and its tables depend on nothing but its tables. -/
theorem checkAndUpdateRateLimit_onlyTables (clientId now : Int) (state : SharedState) :
    checkAndUpdateRateLimit clientId now (onlyTables state) =
      ((checkAndUpdateRateLimit clientId now state).1,
        onlyTables (checkAndUpdateRateLimit clientId now state).2) := by
  rw [checkAndUpdateRateLimit, checkAndUpdateRateLimit]
  cases limiterSlot clientId with
  | none => rfl
  | some slot =>
      simp only
      rw [recordRequest_onlyTables]
      rfl

/-! ## Runs -/

theorem unlimitedServer_step {shown : Event} (step : CriticalSection state event next)
    (visible : Option.guard (fun event => decide (unlimited event)) event = some shown) :
    unlimitedServer.step (eraseTables state) shown (eraseTables next) := by
  obtain ⟨rfl, allowed⟩ := Option.guard_eq_some_iff.mp visible
  have allowed := of_decide_eq_true allowed
  exact ⟨allowed, criticalSection_withTables _ _ allowed step⟩

theorem eraseTables_of_hidden (step : CriticalSection state event next)
    (hidden : Option.guard (fun event => decide (unlimited event)) event = none) :
    eraseTables next = eraseTables state := by
  rcases unlimited_or_limiter event with allowed | ⟨clientId, now, blocked, rfl⟩
  · simp [Option.guard, allowed] at hidden
  · have check : checkAndUpdateRateLimit clientId now state = (blocked, next) := step
    have same := eraseTables_checkAndUpdateRateLimit clientId now state
    rwa [check] at same

theorem loneLimiter_step {shown : Event} (step : CriticalSection state event next)
    (visible : Option.guard (fun event => decide (¬ unlimited event)) event = some shown) :
    loneLimiter.step (onlyTables state) shown (onlyTables next) := by
  obtain ⟨rfl, limits⟩ := Option.guard_eq_some_iff.mp visible
  have limits := of_decide_eq_true limits
  rcases unlimited_or_limiter event with allowed | ⟨clientId, now, blocked, rfl⟩
  · exact absurd allowed limits
  · have check : checkAndUpdateRateLimit clientId now state = (blocked, next) := step
    have alone := checkAndUpdateRateLimit_onlyTables clientId now state
    rw [check] at alone
    exact ⟨limits, alone⟩

theorem onlyTables_of_hidden (step : CriticalSection state event next)
    (hidden : Option.guard (fun event => decide (¬ unlimited event)) event = none) :
    onlyTables next = onlyTables state := by
  have other : ∀ clientId now blocked, event ≠ .rateLimitCheck clientId now blocked := by
    rintro clientId now blocked rfl
    simp [Option.guard, unlimited] at hidden
  obtain ⟨seen, count⟩ := criticalSection_limiter other step
  rw [onlyTables, seen, count, ← onlyTables]

theorem initial_eraseTables (initial : secureServer.initial state) : eraseTables state = state := by
  obtain ⟨driverCount, mode, draws, _, fits, started⟩ := initial
  rw [serverMain, SharedState.forDrivers_eq_some _ (by exact fits)] at started
  cases started
  rfl

/-- The part of a run of the secure server that is not the limiter's is a run of a
server without limiter, and the limiter's part, with all its verdicts, is a run of
the limiter on tables of its own. -/
theorem limiter_noninterference {trace : List Event} (run : Run secureServer trace state) :
    Run unlimitedServer (trace.filter fun event => unlimited event) (eraseTables state) ∧
      Run loneLimiter (trace.filter fun event => ¬ unlimited event) (onlyTables state) := by
  constructor
  · rw [← List.filterMap_eq_filter]
    refine run.refines eraseTables _ ?_
      (fun _ _ _ _ step hidden => eraseTables_of_hidden step hidden)
      (fun _ _ _ _ _ step visible => unlimitedServer_step step visible)
    intro start initial
    rw [initial_eraseTables initial]
    exact initial
  · rw [← List.filterMap_eq_filter]
    refine run.refines onlyTables _ ?_
      (fun _ _ _ _ step hidden => onlyTables_of_hidden step hidden)
      (fun _ _ _ _ _ step visible => loneLimiter_step step visible)
    intro start initial
    rw [← initial_eraseTables initial]
    rfl

/-- The lone driver after a request of client 5 was counted. -/
def countedDriver : SharedState :=
  (checkAndUpdateRateLimit 5 1 loneDriver).2

/-- The same client has got its ride. -/
def countedRide : SharedState :=
  withTables countedDriver.clientLastSeen countedDriver.clientReqCount servedRide

/-- The client asks again within the same second. -/
theorem countedRide_run :
    Run secureServer
      [.driverJoin 7, .rateLimitCheck 5 1 false, .rideRequest 5 (some 0),
        .rateLimitCheck 5 1 false]
      (checkAndUpdateRateLimit 5 1 countedRide).2 := by
  have counts : secureServer.step loneDriver (.rateLimitCheck 5 1 false) countedDriver := rfl
  have dispatched : CriticalSection loneDriver (.rideRequest 5 (some 0)) servedRide :=
    ⟨⟨0, 0⟩, _, loneDriver_dispatch 5 ⟨0, 0⟩, rfl⟩
  have served : secureServer.step countedDriver (.rideRequest 5 (some 0)) countedRide :=
    criticalSection_withTables countedDriver.clientLastSeen countedDriver.clientReqCount
      (show unlimited (.rideRequest 5 (some 0)) from trivial) dispatched
  have again : secureServer.step countedRide (.rateLimitCheck 5 1 false)
      (checkAndUpdateRateLimit 5 1 countedRide).2 := rfl
  exact ((loneDriver_run.snoc counts).snoc served).snoc again

theorem limiter_noninterference_countedRide :
    Run unlimitedServer [.driverJoin 7, .rideRequest 5 (some 0)] servedRide ∧
      Run loneLimiter [.rateLimitCheck 5 1 false, .rateLimitCheck 5 1 false]
        (onlyTables (checkAndUpdateRateLimit 5 1 countedRide).2) := by
  obtain ⟨fleet, limiter⟩ := limiter_noninterference countedRide_run
  have same : eraseTables (checkAndUpdateRateLimit 5 1 countedRide).2 = servedRide :=
    eraseTables_checkAndUpdateRateLimit 5 1 countedRide
  rw [same] at fleet
  exact ⟨fleet, limiter⟩

end RideHailing.Fleet
