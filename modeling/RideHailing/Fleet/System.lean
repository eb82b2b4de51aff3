import RideHailing.Server.Coordinator
import RideHailing.Server.ResourceService
import RideHailing.Transition.Labelled

/-!
# The secure server as a transition system

Every access to the shared state by the secure server is one of four critical
sections under one mutex.  A run interleaves them in any order, with any
arguments and any outcomes of `rand()`; its states are the states at the
releases of the mutex.
-/

namespace RideHailing.Fleet

open RideHailing.Common
open RideHailing.Server
open RideHailing.Transition

/-- A completed critical section with what it returned. -/
inductive Event
  | rideRequest (clientId : Int) (chosen : Option (Fin maxDrivers))
  | monitorTick
  | driverJoin (driverId : UInt32)
  | rateLimitCheck (clientId now : Int) (blocked : Bool)
  deriving DecidableEq

/-- One critical section, for some outcomes of the `rand()` calls inside it. -/
def CriticalSection (state : SharedState) : Event → SharedState → Prop
  | .rideRequest clientId chosen, next =>
      ∃ draws result, rideCriticalSection clientId draws state = some (next, result) ∧
        chosen = result.map Prod.fst
  | .monitorTick, next => ∃ draws, mapMonitorTick initMapObstacles draws state = some next
  | .driverJoin driverId, next => processDriverJoin driverId state = some next
  | .rateLimitCheck clientId now blocked, next =>
      checkAndUpdateRateLimit clientId now state = (blocked, next)

/-- The server started with a driver count that its table can hold. -/
def secureServer : System SharedState Event where
  initial state := ∃ (driverCount mode : Int) (draws : Nat → InitDraws),
    0 ≤ driverCount ∧ driverCount ≤ maxDrivers ∧
      serverMain driverCount mode draws = some state
  step := CriticalSection

/-- Everything that a critical section can do to the shared state, with the
guard of each case. -/
inductive SharedStep (state : SharedState) : Event → SharedState → Prop
  | unserved (clientId : Int) : SharedStep state (.rideRequest clientId none) state
  | dispatched (clientId : Int) (draws : TargetDraws) (slot : Fin maxDrivers)
      (active : state.Active slot) (able : eligible (state.drivers slot)) :
      SharedStep state (.rideRequest clientId (some slot))
        (dispatchTo slot (isVipClient clientId) draws state)
  | ticked (draws : Nat → TickDraws) (drivers : Fin maxDrivers → Driver)
      (pass : mapMonitorTick initMapObstacles draws state = some { state with drivers }) :
      SharedStep state .monitorTick { state with drivers }
  | refused (driverId : UInt32) (full : (maxDrivers : Int) ≤ state.driverCount) :
      SharedStep state (.driverJoin driverId) state
  | joined (driverId : UInt32) (slot : Fin maxDrivers) (position : state.driverCount = slot.val) :
      SharedStep state (.driverJoin driverId)
        { state.setDriver slot (joinDriver driverId (state.drivers slot)) with
          driverCount := state.driverCount + 1 }
  | uncounted (clientId now : Int) (absent : limiterSlot clientId = none) :
      SharedStep state (.rateLimitCheck clientId now false) state
  | counted (clientId now : Int) (blocked : Bool) (slot : Fin maxClients)
      (entry : limiterSlot clientId = some slot)
      (verdict : blocked = decide (3 < (recordRequest slot now state).clientReqCount slot)) :
      SharedStep state (.rateLimitCheck clientId now blocked) (recordRequest slot now state)

theorem criticalSection_shared {state next : SharedState} {event : Event}
    (step : CriticalSection state event next) : SharedStep state event next := by
  cases event with
  | rideRequest clientId chosen =>
      obtain ⟨draws, result, section_, rfl⟩ := step
      rcases rideCriticalSection_cases section_ with ⟨rfl, rfl⟩ | ⟨found, rfl, active, able, rfl⟩
      · exact .unserved clientId
      · exact .dispatched clientId draws found active able
  | monitorTick =>
      obtain ⟨draws, tick⟩ := step
      have frame := SharedState.forDrivers_frame tick
      generalize next.drivers = drivers at frame
      subst frame
      exact .ticked draws drivers tick
  | driverJoin driverId =>
      rcases processDriverJoin_cases step with ⟨full, rfl⟩ | ⟨added, position, rfl⟩
      · exact .refused driverId full
      · exact .joined driverId added position
  | rateLimitCheck clientId now blocked =>
      rcases checkAndUpdateRateLimit_cases step with
        ⟨absent, rfl, rfl⟩ | ⟨slot, entry, rfl, verdict⟩
      · exact .uncounted clientId now absent
      · exact .counted clientId now blocked slot entry verdict

/-! ## Well-formed tables -/

/-- The count lies within the table and unused records are still zero. -/
structure WellFormed (state : SharedState) : Prop where
  nonneg : 0 ≤ state.driverCount
  fits : state.driverCount ≤ maxDrivers
  unused : ∀ slot, ¬ state.Active slot → state.drivers slot = Driver.zeroed

/-- How a critical section treats one record. -/
inductive RecordStep (state : SharedState) (event : Event) (next : SharedState)
    (slot : Fin maxDrivers) : Prop
  | kept (other : ∀ clientId, event ≠ .rideRequest clientId (some slot))
      (record : next.drivers slot = state.drivers slot)
      (active : next.Active slot ↔ state.Active slot)
  | assigned (clientId : Int) (draws : TargetDraws)
      (request : event = .rideRequest clientId (some slot))
      (record : next.drivers slot = assignRide draws (state.drivers slot))
      (was : state.Active slot) (active : next.Active slot)
      (able : eligible (state.drivers slot))
  | ticked (draws : TickDraws) (tick : event = .monitorTick)
      (record : next.drivers slot =
        tickDriver initMapObstacles draws (state.drivers slot))
      (was : state.Active slot) (active : next.Active slot)
  | joined (driverId : UInt32) (join : event = .driverJoin driverId)
      (record : next.drivers slot = joinDriver driverId Driver.zeroed)
      (was : ¬ state.Active slot) (active : next.Active slot)

/-- Everything that a critical section can do to one record of a well-formed
table. -/
theorem criticalSection_record {state next : SharedState} {event : Event}
    (wellFormed : WellFormed state) (step : CriticalSection state event next)
    (slot : Fin maxDrivers) : RecordStep state event next slot := by
  cases criticalSection_shared step with
  | unserved | refused | uncounted => exact .kept nofun rfl Iff.rfl
  | dispatched clientId draws found active able =>
      by_cases same : slot = found
      · subst same
        exact .assigned clientId draws rfl (Function.update_self _ _ _) active active able
      · have other : ∀ client, Event.rideRequest clientId (some found) ≠
            .rideRequest client (some slot) := by
          rintro _ ⟨⟩
          exact same rfl
        exact .kept other (Function.update_of_ne same _ _) Iff.rfl
  | ticked draws drivers pass =>
      rw [mapMonitorTick, SharedState.forDrivers_eq_some _ wellFormed.fits] at pass
      have records := congrArg SharedState.drivers (Option.some.inj pass)
      subst records
      by_cases active : state.Active slot
      · exact .ticked (draws slot) rfl (if_pos active) active active
      · exact .kept nofun (if_neg active) Iff.rfl
  | joined driverId added position =>
      have inactive : ¬ state.Active added := by
        unfold SharedState.Active
        omega
      by_cases same : slot = added
      · subst same
        apply RecordStep.joined driverId rfl _ inactive
        · unfold SharedState.Active
          simp only
          omega
        · rw [← wellFormed.unused slot inactive]
          exact Function.update_self _ _ _
      · have distinct : slot.val ≠ added.val := fun equal => same (Fin.ext equal)
        have activity : ((slot.val : Int) < state.driverCount + 1) ↔ state.Active slot := by
          unfold SharedState.Active
          omega
        exact .kept nofun (Function.update_of_ne same _ _) activity
  | counted clientId now blocked entry =>
      have frame := recordRequest_frame entry now state
      have activity : (recordRequest entry now state).Active slot ↔ state.Active slot := by
        unfold SharedState.Active
        rw [frame.driverCount]
      exact .kept nofun (congrFun frame.drivers slot) activity

/-- The count never shrinks and never leaves the table. -/
theorem criticalSection_driverCount {state next : SharedState} {event : Event}
    (wellFormed : WellFormed state) (step : CriticalSection state event next) :
    state.driverCount ≤ next.driverCount ∧ next.driverCount ≤ maxDrivers := by
  have fits := wellFormed.fits
  cases criticalSection_shared step with
  | unserved | dispatched | ticked | refused | uncounted => exact ⟨Int.le_refl _, fits⟩
  | joined driverId added position =>
      have inside := added.isLt
      constructor
      · simp only
        omega
      · simp only
        omega
  | counted clientId now blocked slot =>
      rw [(recordRequest_frame slot now state).driverCount]
      exact ⟨Int.le_refl _, fits⟩

theorem serverMain_wellFormed {driverCount mode : Int} {draws : Nat → InitDraws}
    {state : SharedState} (nonneg : 0 ≤ driverCount) (fits : driverCount ≤ maxDrivers)
    (started : serverMain driverCount mode draws = some state) :
    WellFormed state ∧
      ∀ slot, state.Active slot →
        state.drivers slot = initDriver slot (draws slot) Driver.zeroed := by
  rw [serverMain, SharedState.forDrivers_eq_some _ (by exact fits)] at started
  cases started
  refine ⟨⟨nonneg, fits, ?_⟩, ?_⟩
  · intro slot inactive
    exact if_neg inactive
  · intro slot active
    exact if_pos active

theorem criticalSection_wellFormed {state next : SharedState} {event : Event}
    (wellFormed : WellFormed state) (step : CriticalSection state event next) :
    WellFormed next := by
  obtain ⟨grows, fits⟩ := criticalSection_driverCount wellFormed step
  refine ⟨Int.le_trans wellFormed.nonneg grows, fits, ?_⟩
  intro slot inactive
  cases criticalSection_record wellFormed step slot with
  | kept _ record active =>
      rw [record]
      exact wellFormed.unused slot fun was => inactive (active.mpr was)
  | assigned _ _ _ _ _ active _ => exact absurd active inactive
  | ticked _ _ _ _ active => exact absurd active inactive
  | joined _ _ _ _ active => exact absurd active inactive

theorem reachable_wellFormed {state : SharedState}
    (reachable : Reachable secureServer state) : WellFormed state := by
  refine reachable.invariant ?_ ?_
  · rintro start ⟨driverCount, mode, draws, nonneg, fits, started⟩
    exact (serverMain_wellFormed nonneg fits started).1
  · intro before event after wellFormed step
    exact criticalSection_wellFormed wellFormed step

/-! ## Invariants of single records -/

/-- A property of one record that initialisation, assignment, ticks and joins
establish or keep, under a condition on the steps, holds of every active driver
in every run whose steps meet the condition. -/
theorem active_invariant_of {P : Driver → Prop} {condition : SharedState → Event → Prop}
    (initialised : ∀ i draws, P (initDriver i draws Driver.zeroed))
    (assigned : ∀ state clientId slot draws,
      condition state (.rideRequest clientId (some slot)) → P (state.drivers slot) →
        eligible (state.drivers slot) → P (assignRide draws (state.drivers slot)))
    (ticked : ∀ draws d, P d → P (tickDriver initMapObstacles draws d))
    (joined : ∀ driverId, P (joinDriver driverId Driver.zeroed))
    {trace : List Event} {state : SharedState}
    (run : Run (secureServer.restrict condition) trace state) :
    ∀ slot, state.Active slot → P (state.drivers slot) := by
  have strengthened : WellFormed state ∧
      ∀ slot, state.Active slot → P (state.drivers slot) := by
    refine run.invariant
      (P := fun _ state => WellFormed state ∧
        ∀ slot, state.Active slot → P (state.drivers slot)) ?_ ?_
    · rintro start ⟨driverCount, mode, draws, nonneg, fits, started⟩
      obtain ⟨wellFormed, records⟩ := serverMain_wellFormed nonneg fits started
      refine ⟨wellFormed, fun slot active => ?_⟩
      rw [records slot active]
      exact initialised slot (draws slot)
    · rintro _ before event after ⟨wellFormed, holds⟩ ⟨step, met⟩
      refine ⟨criticalSection_wellFormed wellFormed step, fun slot active => ?_⟩
      cases criticalSection_record wellFormed step slot with
      | kept _ record same =>
          rw [record]
          exact holds slot (same.mp active)
      | assigned clientId draws request record was _ able =>
          rw [record]
          rw [request] at met
          exact assigned before clientId slot draws met (holds slot was) able
      | ticked draws _ record was _ =>
          rw [record]
          exact ticked draws _ (holds slot was)
      | joined driverId _ record _ _ =>
          rw [record]
          exact joined driverId
  exact strengthened.2

/-- The form of the invariant without a condition. -/
theorem active_invariant {P : Driver → Prop}
    (initialised : ∀ i draws, P (initDriver i draws Driver.zeroed))
    (assigned : ∀ draws d, P d → eligible d → P (assignRide draws d))
    (ticked : ∀ draws d, P d → P (tickDriver initMapObstacles draws d))
    (joined : ∀ driverId, P (joinDriver driverId Driver.zeroed))
    {state : SharedState} (reachable : Reachable secureServer state) :
    ∀ slot, state.Active slot → P (state.drivers slot) := by
  obtain ⟨trace, run⟩ := reachable
  exact active_invariant_of initialised (fun _ _ _ draws _ => assigned draws _) ticked joined
    run.restrict_true

/-- No critical section ever faults: from every reachable state each of the
four can run to its end, for all arguments and all outcomes of `rand()`. -/
theorem criticalSection_progress {state : SharedState}
    (reachable : Reachable secureServer state) :
    (∀ clientId draws, ∃ outcome, rideCriticalSection clientId draws state = some outcome) ∧
      (∀ draws, ∃ next, mapMonitorTick initMapObstacles draws state = some next) ∧
      ∀ driverId, ∃ next, processDriverJoin driverId state = some next := by
  have wellFormed := reachable_wellFormed reachable
  refine ⟨?_, ?_, ?_⟩
  · intro clientId draws
    exact rideCriticalSection_total clientId draws wellFormed.fits
  · intro draws
    exact ⟨_, SharedState.forDrivers_eq_some _ wellFormed.fits⟩
  · intro driverId
    exact processDriverJoin_total driverId wellFormed.nonneg

/-! ## A run that serves a ride -/

theorem zeroed_initial : secureServer.initial SharedState.zeroed :=
  ⟨0, 0, fun _ => ⟨0, 0, 0⟩, by decide, by decide, rfl⟩

theorem zeroed_reachable : Reachable secureServer SharedState.zeroed :=
  (Run.start zeroed_initial).reachable

/-- A single driver with the identifier 7, as a join leaves it. -/
def loneDriver : SharedState :=
  { SharedState.zeroed with
    drivers := Function.update SharedState.zeroed.drivers 0 (joinDriver 7 Driver.zeroed)
    driverCount := 1 }

/-- The same driver on its way to the destination of a VIP client. -/
def servedRide : SharedState :=
  dispatchTo 0 (isVipClient 5) ⟨0, 0⟩ loneDriver

theorem loneDriver_selected (clientId : Int) :
    selectDriver (isVipClient clientId) loneDriver = some (some 0) :=
  (by decide +kernel : ∀ isVip, selectDriver isVip loneDriver = some (some 0)) _

theorem loneDriver_dispatch (clientId : Int) (draws : TargetDraws) :
    rideCriticalSection clientId draws loneDriver =
      some (dispatchTo 0 (isVipClient clientId) draws loneDriver,
        some (0, baseDistance (loneDriver.drivers 0))) := by
  rw [rideCriticalSection, loneDriver_selected]
  rfl

theorem loneDriver_run : Run secureServer [.driverJoin 7] loneDriver :=
  Run.snoc (Run.start zeroed_initial)
    (rfl : processDriverJoin 7 SharedState.zeroed = some loneDriver)

theorem servedRide_run :
    Run secureServer [.driverJoin 7, .rideRequest 5 (some 0)] servedRide := by
  have dispatched : secureServer.step loneDriver (.rideRequest 5 (some 0)) servedRide :=
    ⟨⟨0, 0⟩, _, loneDriver_dispatch 5 ⟨0, 0⟩, rfl⟩
  exact Run.snoc loneDriver_run dispatched

end RideHailing.Fleet
