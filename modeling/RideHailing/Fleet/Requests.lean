import RideHailing.Fleet.Ledger
import RideHailing.Server.Selection

/-!
# The two request totals

`total_requests_handled` is raised in the branch of a successful request only,
together with `total_success_requests`.  The two totals are therefore equal in
every state, and the first one counts the handled requests exactly when none of
them has failed.
-/

namespace RideHailing.Fleet

open RideHailing.Common
open RideHailing.Server
open RideHailing.Transition

variable {trace : List Event} {state next : SharedState} {event : Event}

/-- A call of `handle_ride_request_logic` that found no driver and returned -1. -/
def Event.failedCall : Event → Bool
  | .rideRequest _ none => true
  | _ => false

/-- A completed call of `handle_ride_request_logic`. -/
def Event.completedCall : Event → Bool
  | .rideRequest _ _ => true
  | _ => false

def failedCalls (trace : List Event) : Nat :=
  trace.countP Event.failedCall

def completedCalls (trace : List Event) : Nat :=
  trace.countP Event.completedCall

/-- The totals tell the number of completed calls and, by their difference, the
number of failed ones. -/
def Counted (trace : List Event) (state : SharedState) : Prop :=
  state.totalRequestsHandled = UInt64.ofNat (completedCalls trace) ∧
    state.totalRequestsHandled - state.totalSuccessRequests = UInt64.ofNat (failedCalls trace)

theorem rides_cons_none (idle : event.ride = none) : rides (event :: trace) = rides trace := by
  rw [rides, List.filterMap_cons_none idle, rides]

theorem rides_cons_some {ride : Ride} (success : event.ride = some ride) :
    rides (event :: trace) = ride :: rides trace := by
  rw [rides, List.filterMap_cons_some success, rides]

/-- A call either dispatches a ride or fails. -/
theorem completedCalls_eq (trace : List Event) :
    completedCalls trace = (rides trace).length + failedCalls trace := by
  induction trace with
  | nil => rfl
  | cons event trace ih =>
      rw [completedCalls, failedCalls, List.countP_cons, List.countP_cons, ← completedCalls, ih,
        ← failedCalls]
      rcases event with ⟨clientId, _ | slot⟩ | _ | driverId | ⟨clientId, now, blocked⟩
      · rw [rides_cons_none rfl]
        simp [Event.completedCall, Event.failedCall, Nat.add_assoc]
      · rw [rides_cons_some rfl, List.length_cons]
        simp [Event.completedCall, Event.failedCall, Nat.add_right_comm]
      · rw [rides_cons_none rfl]
        simp [Event.completedCall, Event.failedCall]
      · rw [rides_cons_none rfl]
        simp [Event.completedCall, Event.failedCall]
      · rw [rides_cons_none rfl]
        simp [Event.completedCall, Event.failedCall]

/-- One step raises both totals or neither. -/
theorem criticalSection_handled (step : CriticalSection state event next)
    (same : state.totalRequestsHandled = state.totalSuccessRequests) :
    next.totalRequestsHandled = next.totalSuccessRequests := by
  cases criticalSection_shared step with
  | unserved | ticked | refused | joined | uncounted => exact same
  | dispatched => exact congrArg (· + 1) same
  | counted clientId now blocked slot =>
      have frame := recordRequest_frame slot now state
      rw [frame.totalRequestsHandled, frame.totalSuccessRequests]
      exact same

theorem reachable_handled (reachable : Reachable secureServer state) :
    state.totalRequestsHandled = state.totalSuccessRequests := by
  apply reachable.invariant (P := fun state => state.totalRequestsHandled =
    state.totalSuccessRequests)
  · rintro start ⟨driverCount, mode, draws, _, _, started⟩
    rw [SharedState.forDrivers_frame started]
    rfl
  · intro before event after same step
    exact criticalSection_handled step same

/-- A number that a 64-bit counter shows as zero. -/
theorem ofNat_eq_zero_iff (number : Nat) : UInt64.ofNat number = 0 ↔ 2 ^ 64 ∣ number := by
  rw [← UInt64.toNat_inj, UInt64.toNat_ofNat', Nat.dvd_iff_mod_eq_zero]
  rfl

/-- A ride request meets a driver that it can be assigned. -/
def Servable (state : SharedState) : Event → Prop
  | .rideRequest _ _ => ∃ slot, Selectable state slot
  | _ => True

/-- Exactly the calls that meet no such driver fail. -/
theorem failedCall_iff (wellFormed : WellFormed state) (step : CriticalSection state event next) :
    event.failedCall = true ↔ ¬ Servable state event := by
  cases event with
  | monitorTick | driverJoin | rateLimitCheck =>
      exact iff_of_false Bool.false_ne_true fun unserved => unserved trivial
  | rideRequest clientId chosen =>
      obtain ⟨draws, found, section_, rfl⟩ := step
      have fits := wellFormed.fits
      rw [rideCriticalSection_eq] at section_
      obtain ⟨selected, scanned, outcome⟩ := Option.map_eq_some_iff.mp section_
      rw [Servable, ← selectDriver_found_iff (isVipClient clientId) fits, scanned]
      cases selected with
      | none =>
          cases outcome
          exact iff_of_true rfl (by rintro ⟨slot, found⟩; cases found)
      | some slot =>
          cases outcome
          exact iff_of_false Bool.false_ne_true fun unserved => unserved ⟨slot, rfl⟩

theorem failedCalls_snoc (trace : List Event) (event : Event) :
    failedCalls (trace ++ [event]) = failedCalls trace + if event.failedCall then 1 else 0 := by
  rw [failedCalls, List.countP_append, List.countP_singleton, failedCalls]

/-- No call fails in a run in which each of them meets a driver. -/
theorem failedCalls_of_servable (run : Run (secureServer.restrict Servable) trace state) :
    failedCalls trace = 0 := by
  induction run with
  | start starts => rfl
  | @snoc trace before after event run step ih =>
      have wellFormed := reachable_wellFormed run.of_restrict.reachable
      have succeeds : ¬ event.failedCall = true := fun fails =>
        (failedCall_iff wellFormed step.1).mp fails step.2
      rw [failedCalls_snoc, ih, if_neg succeeds]

/-- Where none fails, each of them has met a driver. -/
theorem servable_of_failedCalls (run : Run secureServer trace state)
    (none_ : failedCalls trace = 0) : Run (secureServer.restrict Servable) trace state := by
  induction run with
  | start starts => exact Run.start starts
  | @snoc trace before after event run step ih =>
      rw [failedCalls_snoc] at none_
      obtain ⟨earlier, latest⟩ := Nat.add_eq_zero_iff.mp none_
      refine Run.snoc (ih earlier) ⟨step, ?_⟩
      by_contra unserved
      have fails := (failedCall_iff (reachable_wellFormed run.reachable) step).mpr unserved
      rw [if_pos fails] at latest
      cases latest

/-- What the totals show depends on the failed calls alone. -/
theorem counted_iff (run : Run secureServer trace state) :
    Counted trace state ↔ 2 ^ 64 ∣ failedCalls trace := by
  have same := reachable_handled run.reachable
  have total := (run_balanced run).total
  rw [Counted, same, UInt64.sub_self, total, completedCalls_eq, UInt64.ofNat_add,
    ← ofNat_eq_zero_iff]
  constructor
  · exact fun both => both.2.symm
  · intro none_
    rw [none_, UInt64.add_zero]
    exact ⟨rfl, rfl⟩

/-- A step keeps the totals telling the calls exactly when it is no ride request
that meets no driver. -/
theorem counted_step_iff (run : Run secureServer trace state)
    (step : secureServer.step state event next) (before : Counted trace state) :
    Counted (trace ++ [event]) next ↔ Servable state event := by
  have fails := failedCall_iff (reachable_wellFormed run.reachable) step
  have divides := (counted_iff run).mp before
  rw [counted_iff (run.snoc step), failedCalls_snoc, (Nat.dvd_add_iff_right divides).symm]
  by_cases served : Servable state event
  · rw [if_neg fun failed => fails.mp failed served]
    exact iff_of_true (Nat.dvd_zero _) served
  · rw [if_pos (fails.mpr served)]
    exact iff_of_false (by decide) served

/-- The two totals are always equal.  In a run whose ride requests each meet a driver
that they can be assigned, they tell the calls; the first request that meets none
breaks this; and with fewer failed calls than a 64-bit counter can show the totals
tell the calls in no other run. -/
theorem requests_counted_iff (run : Run secureServer trace state) :
    state.totalRequestsHandled = state.totalSuccessRequests ∧
      (Run (secureServer.restrict Servable) trace state → Counted trace state) ∧
      (∀ event next, secureServer.step state event next → Counted trace state →
        (Counted (trace ++ [event]) next ↔ Servable state event)) ∧
      (failedCalls trace < 2 ^ 64 → Counted trace state →
        Run (secureServer.restrict Servable) trace state) := by
  refine ⟨reachable_handled run.reachable, ?_, ?_, ?_⟩
  · intro served
    rw [counted_iff run, failedCalls_of_servable served]
    exact Nat.dvd_zero _
  · intro event next step before
    exact counted_step_iff run step before
  · intro few told
    apply servable_of_failedCalls run
    exact Nat.eq_zero_of_dvd_of_lt ((counted_iff run).mp told) few

/-- A run of one ride that a second request ends, as the only driver is on its
way. -/
theorem requests_counted_servedRide :
    Counted [.driverJoin 7, .rideRequest 5 (some 0)] servedRide ∧
      ¬ Counted [.driverJoin 7, .rideRequest 5 (some 0), .rideRequest 6 none] servedRide := by
  obtain ⟨_, told, broken, _⟩ := requests_counted_iff servedRide_run
  have counted := told (servable_of_failedCalls servedRide_run (by decide))
  have nobody : selectDriver (isVipClient 6) servedRide = some none := by decide +kernel
  have section_ : rideCriticalSection 6 ⟨0, 0⟩ servedRide = some (servedRide, none) := by
    rw [rideCriticalSection_eq, nobody]
    rfl
  have refused : CriticalSection servedRide (.rideRequest 6 none) servedRide :=
    ⟨⟨0, 0⟩, none, section_, rfl⟩
  refine ⟨counted, fun again => ?_⟩
  have servable := (broken (.rideRequest 6 none) servedRide refused counted).mp again
  exact (failedCall_iff (reachable_wellFormed servedRide_run.reachable) refused).mp rfl servable

/-- A request to a server without drivers completes, and nothing counts it. -/
theorem requests_counted_noDriver :
    Run secureServer [.rideRequest 5 none] SharedState.zeroed ∧
      ¬ Counted [.rideRequest 5 none] SharedState.zeroed := by
  have failed : secureServer.step SharedState.zeroed (.rideRequest 5 none) SharedState.zeroed :=
    ⟨⟨0, 0⟩, none, rfl, rfl⟩
  refine ⟨Run.snoc (Run.start zeroed_initial) failed, ?_⟩
  rintro ⟨total, _⟩
  exact absurd total (by decide)

end RideHailing.Fleet
