import RideHailing.Fleet.System
import Mathlib.Algebra.BigOperators.Fin
import Mathlib.Algebra.BigOperators.Ring.Finset
import Mathlib.Tactic.Ring

/-!
# Accounting over whole runs

The history of a run is the list of its successful requests.  The books are
what that history says the four counters should hold; the counters follow it
modulo their width along every run, and exactly while the history is short.
-/

namespace RideHailing.Fleet

open RideHailing.Arithmetic
open RideHailing.Common
open RideHailing.Server
open RideHailing.Transition

/-! ## The history -/

/-- A successful request: its client and the chosen driver's slot. -/
structure Ride where
  clientId : Int
  slot : Fin maxDrivers
  deriving DecidableEq

/-- The ride that a critical section dispatched, when it is a request for which
`handle_ride_request_logic` returns 0. -/
def Event.ride : Event → Option Ride
  | .rideRequest clientId (some slot) => some ⟨clientId, slot⟩
  | _ => none

/-- The successful requests of a run, oldest first. -/
def rides (trace : List Event) : List Ride :=
  trace.filterMap Event.ride

/-- The successful requests that were treated as VIP. -/
def vipRides (trace : List Event) : List Ride :=
  (rides trace).filter fun ride => isVipClient ride.clientId

/-- The number of successful requests that chose a slot. -/
def ridesOf (slot : Fin maxDrivers) (trace : List Event) : Nat :=
  ((rides trace).map Ride.slot).count slot

/-- The fares of a run in whole units. -/
def income (trace : List Event) : Int :=
  100 * (rides trace).length + 50 * (vipRides trace).length

section Append

variable {trace : List Event} {event : Event}

theorem rides_snoc_none (idle : event.ride = none) : rides (trace ++ [event]) = rides trace := by
  simp [rides, idle]

theorem rides_snoc_some {ride : Ride} (success : event.ride = some ride) :
    rides (trace ++ [event]) = rides trace ++ [ride] := by
  simp [rides, success]

theorem ridesOf_snoc_of_ne {slot : Fin maxDrivers}
    (other : ∀ clientId, event ≠ .rideRequest clientId (some slot)) :
    ridesOf slot (trace ++ [event]) = ridesOf slot trace := by
  cases success : event.ride with
  | none => rw [ridesOf, rides_snoc_none success, ridesOf]
  | some ride =>
      have elsewhere : ride.slot ≠ slot := by
        rintro rfl
        rcases event with ⟨clientId, _ | chosen⟩ | _ | _ | _ <;> cases success
        exact other clientId rfl
      simp [ridesOf, rides_snoc_some success, elsewhere]

theorem ridesOf_snoc_self (clientId : Int) (slot : Fin maxDrivers) :
    ridesOf slot (trace ++ [.rideRequest clientId (some slot)]) = ridesOf slot trace + 1 := by
  have success : (Event.rideRequest clientId (some slot)).ride = some ⟨clientId, slot⟩ := rfl
  simp [ridesOf, rides_snoc_some success]

theorem income_snoc {ride : Ride} (success : event.ride = some ride) :
    income (trace ++ [event]) = income trace + fare (isVipClient ride.clientId) := by
  rw [income, vipRides, rides_snoc_some success, income, vipRides, fare, List.filter_append]
  cases vip : isVipClient ride.clientId with
  | true =>
      have counted : [ride].filter (fun ride => isVipClient ride.clientId) = [ride] :=
        List.filter_cons_of_pos vip
      rw [counted, if_pos rfl]
      push_cast [List.length_append, List.length_singleton]
      ring
  | false =>
      have skipped : [ride].filter (fun ride => isVipClient ride.clientId) = [] :=
        List.filter_cons_of_neg (Bool.eq_false_iff.mp vip)
      rw [skipped, List.append_nil, if_neg Bool.false_ne_true]
      push_cast [List.length_append, List.length_singleton]
      ring

end Append

/-! ## The counters follow the history -/

/-- The counters hold what the history says, modulo their width, and rides are
only ever charged to active slots. -/
structure Balanced (trace : List Event) (state : SharedState) : Prop where
  total : state.totalSuccessRequests = UInt64.ofNat (rides trace).length
  revenue : state.totalRevenue = wrap64 (income trace)
  perDriver : ∀ slot, (state.drivers slot).ridesCount = wrap32 (ridesOf slot trace)
  charged : ∀ ride ∈ rides trace, state.Active ride.slot

theorem wrap32_zero : wrap32 0 = 0 := by decide

theorem wrap64_zero : wrap64 0 = 0 := by decide

/-- A slot that was never active has no rides in the history. -/
theorem ridesOf_eq_zero {trace : List Event} {state : SharedState} {slot : Fin maxDrivers}
    (charged : ∀ ride ∈ rides trace, state.Active ride.slot) (inactive : ¬ state.Active slot) :
    ridesOf slot trace = 0 := by
  apply List.count_eq_zero_of_not_mem
  intro member
  rcases List.mem_map.mp member with ⟨ride, recorded, rfl⟩
  exact inactive (charged ride recorded)

/-- A ride count that holds the rides of a history holds them after the next
critical section. -/
theorem ridesCount_step {trace : List Event} {event : Event} {state next : SharedState}
    {slot : Fin maxDrivers} (wellFormed : WellFormed state)
    (step : CriticalSection state event next)
    (before : (state.drivers slot).ridesCount = wrap32 (ridesOf slot trace))
    (unused : ¬ state.Active slot → ridesOf slot trace = 0) :
    (next.drivers slot).ridesCount = wrap32 (ridesOf slot (trace ++ [event])) := by
  cases criticalSection_record wellFormed step slot with
  | kept other record _ => rw [ridesOf_snoc_of_ne other, record, before]
  | assigned clientId draws request record _ _ _ =>
      subst request
      rw [ridesOf_snoc_self, record, assignRide, before, wrap32_wrap32_add, Nat.cast_succ]
  | ticked draws tick record _ _ =>
      subst tick
      have other : ∀ clientId, Event.monitorTick ≠ .rideRequest clientId (some slot) := nofun
      rw [ridesOf_snoc_of_ne other, record, tickDriver_ridesCount, before]
  | joined driverId join record was _ =>
      subst join
      have other : ∀ clientId, Event.driverJoin driverId ≠ .rideRequest clientId (some slot) :=
        nofun
      rw [ridesOf_snoc_of_ne other, record, unused was, Nat.cast_zero, wrap32_zero]
      rfl

/-- A critical section other than a successful request leaves the totals. -/
theorem criticalSection_totals {event : Event} {state next : SharedState}
    (step : CriticalSection state event next) (idle : event.ride = none) :
    next.totalSuccessRequests = state.totalSuccessRequests ∧
      next.totalRevenue = state.totalRevenue := by
  cases criticalSection_shared step with
  | unserved | ticked | refused | joined | uncounted => exact ⟨rfl, rfl⟩
  | dispatched => cases idle
  | counted clientId now blocked slot =>
      have frame := recordRequest_frame slot now state
      exact ⟨frame.totalSuccessRequests, frame.totalRevenue⟩

/-- A successful request raises the totals by one ride and its fare. -/
theorem criticalSection_success {event : Event} {ride : Ride} {state next : SharedState}
    (step : CriticalSection state event next) (success : event.ride = some ride) :
    next.totalSuccessRequests = state.totalSuccessRequests + 1 ∧
      next.totalRevenue = wrap64 (state.totalRevenue + fare (isVipClient ride.clientId)) ∧
      next.Active ride.slot := by
  cases criticalSection_shared step with
  | unserved | ticked | refused | joined | uncounted | counted => cases success
  | dispatched clientId draws slot active able =>
      cases success
      exact ⟨rfl, rfl, active⟩

theorem totalSuccessRequests_step {trace : List Event} {event : Event} {state next : SharedState}
    (step : CriticalSection state event next)
    (before : state.totalSuccessRequests = UInt64.ofNat (rides trace).length) :
    next.totalSuccessRequests = UInt64.ofNat (rides (trace ++ [event])).length := by
  cases success : event.ride with
  | none => rw [rides_snoc_none success, (criticalSection_totals step success).1, before]
  | some ride =>
      rw [rides_snoc_some success, List.length_append, List.length_singleton, UInt64.ofNat_add,
        (criticalSection_success step success).1, before]
      rfl

theorem totalRevenue_step {trace : List Event} {event : Event} {state next : SharedState}
    (step : CriticalSection state event next)
    (before : state.totalRevenue = wrap64 (income trace)) :
    next.totalRevenue = wrap64 (income (trace ++ [event])) := by
  cases success : event.ride with
  | none =>
      rw [income, vipRides, rides_snoc_none success, (criticalSection_totals step success).2,
        before]
      rfl
  | some ride =>
      rw [income_snoc success, (criticalSection_success step success).2.1, before,
        wrap64_wrap64_add]

theorem charged_step {trace : List Event} {event : Event} {state next : SharedState}
    (wellFormed : WellFormed state) (step : CriticalSection state event next)
    (before : ∀ ride ∈ rides trace, state.Active ride.slot) :
    ∀ ride ∈ rides (trace ++ [event]), next.Active ride.slot := by
  have grows := (criticalSection_driverCount wellFormed step).1
  have earlier : ∀ ride ∈ rides trace, next.Active ride.slot := by
    intro ride member
    exact lt_of_lt_of_le (before ride member) grows
  cases success : event.ride with
  | none =>
      rw [rides_snoc_none success]
      exact earlier
  | some ride =>
      intro other member
      rw [rides_snoc_some success] at member
      rcases List.mem_append.mp member with old | latest
      · exact earlier other old
      · rw [List.mem_singleton.mp latest]
        exact (criticalSection_success step success).2.2

theorem criticalSection_balanced {trace : List Event} {event : Event} {state next : SharedState}
    (balanced : Balanced trace state) (wellFormed : WellFormed state)
    (step : CriticalSection state event next) : Balanced (trace ++ [event]) next where
  total := totalSuccessRequests_step step balanced.total
  revenue := totalRevenue_step step balanced.revenue
  perDriver slot := ridesCount_step wellFormed step (balanced.perDriver slot)
    fun inactive => ridesOf_eq_zero balanced.charged inactive
  charged := charged_step wellFormed step balanced.charged

theorem serverMain_balanced {driverCount mode : Int} {draws : Nat → InitDraws}
    {state : SharedState} (fits : driverCount ≤ maxDrivers)
    (started : serverMain driverCount mode draws = some state) : Balanced [] state := by
  rw [serverMain, SharedState.forDrivers_eq_some _ (by exact fits)] at started
  cases started
  constructor
  · rfl
  · exact wrap64_zero.symm
  · intro slot
    simp only
    split
    · exact wrap32_zero.symm
    · exact wrap32_zero.symm
  · intro ride member
    cases member

/-- The counters follow the history along every run, however long. -/
theorem run_balanced {trace : List Event} {state : SharedState}
    (run : Run secureServer trace state) : Balanced trace state := by
  have strengthened : WellFormed state ∧ Balanced trace state := by
    apply run.invariant (P := fun trace state => WellFormed state ∧ Balanced trace state)
    · rintro start ⟨driverCount, mode, draws, nonneg, fits, started⟩
      exact ⟨(serverMain_wellFormed nonneg fits started).1, serverMain_balanced fits started⟩
    · rintro trace before event after ⟨wellFormed, balanced⟩ step
      exact ⟨criticalSection_wellFormed wellFormed step,
        criticalSection_balanced balanced wellFormed step⟩
  exact strengthened.2

/-! ## Short histories -/

theorem ridesOf_le (slot : Fin maxDrivers) (trace : List Event) :
    ridesOf slot trace ≤ (rides trace).length := by
  rw [ridesOf, ← List.length_map Ride.slot]
  exact List.count_le_length

theorem income_bounds (trace : List Event) :
    0 ≤ income trace ∧ income trace ≤ 150 * (rides trace).length := by
  have vips : (vipRides trace).length ≤ (rides trace).length := List.length_filter_le _ _
  rw [income]
  omega

/-- Every ride is charged to exactly one active slot. -/
theorem Balanced.sum_ridesOf {trace : List Event} {state : SharedState}
    (balanced : Balanced trace state) :
    ∑ slot with state.Active slot, ridesOf slot trace = (rides trace).length := by
  have inside : ∀ slot ∈ (Multiset.ofList ((rides trace).map Ride.slot)),
      slot ∈ Finset.univ.filter fun slot => state.Active slot := by
    intro slot member
    rcases List.mem_map.mp (Multiset.mem_coe.mp member) with ⟨ride, recorded, rfl⟩
    exact Finset.mem_filter.mpr ⟨Finset.mem_univ _, balanced.charged ride recorded⟩
  have counted := Multiset.sum_count_eq_card inside
  rw [Multiset.coe_card, List.length_map] at counted
  rw [← counted]
  apply Finset.sum_congr rfl
  intro slot _
  rw [Multiset.coe_count, ridesOf]

/-- While the history is short, the counters are exactly what it says. -/
theorem Balanced.exact {trace : List Event} {state : SharedState}
    (balanced : Balanced trace state) (short : (rides trace).length < 2 ^ 31) :
    state.totalSuccessRequests.toNat = (rides trace).length ∧
      ∑ slot with state.Active slot, (state.drivers slot).ridesCount =
        state.totalSuccessRequests.toNat ∧
      state.totalRevenue = 100 * (rides trace).length + 50 * (vipRides trace).length ∧
      ∀ slot, (state.drivers slot).ridesCount = ridesOf slot trace := by
  have total : state.totalSuccessRequests.toNat = (rides trace).length := by
    rw [balanced.total, UInt64.toNat_ofNat']
    exact Nat.mod_eq_of_lt (lt_trans short (by norm_num))
  have perDriver : ∀ slot, (state.drivers slot).ridesCount = ridesOf slot trace := by
    intro slot
    have small := ridesOf_le slot trace
    rw [balanced.perDriver slot]
    exact wrap32_eq_self (by omega) (by omega)
  have revenue : state.totalRevenue = income trace := by
    obtain ⟨lower, upper⟩ := income_bounds trace
    rw [balanced.revenue]
    exact wrap64_eq_self (by omega) (by omega)
  refine ⟨total, ?_, revenue, perDriver⟩
  rw [total, ← balanced.sum_ridesOf, Nat.cast_sum]
  exact Finset.sum_congr rfl fun slot _ => perDriver slot

/-- In every run with fewer than 2³¹ successful requests the totals and the ride
counts of the drivers are exactly those of the history. -/
theorem accounting_conserved {trace : List Event} {state : SharedState}
    (run : Run secureServer trace state) (short : (rides trace).length < 2 ^ 31) :
    state.totalSuccessRequests.toNat = (rides trace).length ∧
      ∑ slot with state.Active slot, (state.drivers slot).ridesCount =
        state.totalSuccessRequests.toNat ∧
      state.totalRevenue = 100 * (rides trace).length + 50 * (vipRides trace).length ∧
      ∀ slot, (state.drivers slot).ridesCount = ridesOf slot trace :=
  (run_balanced run).exact short

theorem accounting_conserved_servedRide :
    servedRide.totalSuccessRequests.toNat = 1 ∧
      ∑ slot with servedRide.Active slot, (servedRide.drivers slot).ridesCount = 1 ∧
      servedRide.totalRevenue = 150 ∧ (servedRide.drivers 0).ridesCount = 1 := by
  obtain ⟨total, sum, revenue, perDriver⟩ := accounting_conserved servedRide_run (by decide)
  exact ⟨total, sum.trans (congrArg Nat.cast total), revenue, perDriver 0⟩

end RideHailing.Fleet
