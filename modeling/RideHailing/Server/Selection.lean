import RideHailing.Loop.FirstLeast
import RideHailing.Server.RideService

/-!
# Which driver is selected

Both strategies are scans for the first minimum of the distance to the base.
From the rule for such a scan follows which driver a request is assigned, when
it fails, and that nothing else in the shared state changes.
-/

namespace RideHailing.Server

open RideHailing.Bytes
open RideHailing.Common
open RideHailing.Loop

variable {state : SharedState} {accepts : Driver → Bool}

/-- The distance of a slot's driver. -/
def slotDistance (state : SharedState) (slot : Fin maxDrivers) : ℚ :=
  baseDistance (state.drivers slot)

/-- The active drivers that a scan accepts. -/
def Candidate (accepts : Driver → Bool) (state : SharedState) (slot : Fin maxDrivers) : Prop :=
  state.Active slot ∧ accepts (state.drivers slot) = true

/-- The accepted drivers among the first ones. -/
def CandidateBelow (accepts : Driver → Bool) (state : SharedState) (done : Nat)
    (slot : Fin maxDrivers) : Prop :=
  slot.val < done ∧ accepts (state.drivers slot) = true

theorem scanStep_eq (slot : Fin maxDrivers) (best : Option (Fin maxDrivers) × ℚ) :
    scanStep accepts state slot.val best =
      some (if accepts (state.drivers slot) ∧ slotDistance state slot < best.2 then
        (some slot, slotDistance state slot) else best) := by
  rw [scanStep, checkedIndex_natCast slot.isLt]
  rfl

/-- One iteration of a scan. -/
theorem scanStep_scanned (slot : Fin maxDrivers) {best : Option (Fin maxDrivers) × ℚ} {bound : ℚ}
    (scanned : Scanned (CandidateBelow accepts state slot.val) (slotDistance state) bound best) :
    ∃ next, scanStep accepts state slot.val best = some next ∧
      Scanned (CandidateBelow accepts state (slot.val + 1)) (slotDistance state) bound next := by
  refine ⟨_, scanStep_eq slot best, ?_⟩
  by_cases accepted : accepts (state.drivers slot) = true
  · have wider : ∀ other, CandidateBelow accepts state (slot.val + 1) other ↔
        CandidateBelow accepts state slot.val other ∨ other = slot :=
      below_succ_of_accepted accepted
    by_cases closer : slotDistance state slot < best.2
    · rw [if_pos ⟨accepted, closer⟩]
      exact scanned.replace wider closer
    · rw [if_neg fun both => closer both.2]
      exact scanned.keep wider (fun other member => member.1) closer
  · rw [if_neg fun both => accepted both.1]
    exact scanned.skip (below_succ_of_rejected accepted)

/-- The state in which a scan over all active drivers ends. -/
theorem scanDrivers_scanned (accepts : Driver → Bool) (fits : state.driverCount ≤ maxDrivers) :
    ∃ best, scanDrivers accepts state = some best.1 ∧
      Scanned (Candidate accepts state) (slotDistance state) (1000000 ^ 2) best := by
  have start : Scanned (CandidateBelow accepts state 0) (slotDistance state) (1000000 ^ 2)
      (none, 1000000 ^ 2) :=
    .nothing fun other member => absurd member.1 (Nat.not_lt_zero _)
  obtain ⟨best, finished, scanned⟩ := countedLoop_total
    (P := fun i best =>
      Scanned (CandidateBelow accepts state i) (slotDistance state) (1000000 ^ 2) best)
    start (n := state.driverCount.toNat)
    (fun i small _ scanned => scanStep_scanned ⟨i, by omega⟩ scanned)
  have active : ∀ slot, Candidate accepts state slot ↔
      CandidateBelow accepts state state.driverCount.toNat slot := by
    intro slot
    unfold Candidate CandidateBelow SharedState.Active
    rw [Int.lt_toNat]
  refine ⟨best, ?_, scanned.skip active⟩
  rw [scanDrivers, finished]
  rfl

/-- A scan over drivers nearer than its bound finds the first nearest accepted
one, or there is none. -/
theorem scanDrivers_firstLeast (accepts : Driver → Bool) (fits : state.driverCount ≤ maxDrivers)
    (near : ∀ slot, state.Active slot → slotDistance state slot < 1000000 ^ 2) :
    (scanDrivers accepts state = some none ∧ ∀ slot, ¬ Candidate accepts state slot) ∨
      ∃ slot, scanDrivers accepts state = some (some slot) ∧
        FirstLeast (Candidate accepts state) (slotDistance state) slot := by
  obtain ⟨best, finished, scanned⟩ := scanDrivers_scanned accepts fits
  rw [finished]
  rcases scanned.result fun slot member => near slot member.1 with
    ⟨nothing, none_⟩ | ⟨slot, found, first⟩
  · exact Or.inl ⟨congrArg some nothing, none_⟩
  · exact Or.inr ⟨slot, congrArg some found, first⟩

/-- A scan finds somebody exactly when it accepts a driver below its bound. -/
theorem scanDrivers_found_iff (accepts : Driver → Bool) (fits : state.driverCount ≤ maxDrivers) :
    (∃ slot, scanDrivers accepts state = some (some slot)) ↔
      ∃ slot, Candidate accepts state slot ∧ slotDistance state slot < 1000000 ^ 2 := by
  obtain ⟨best, finished, scanned⟩ := scanDrivers_scanned accepts fits
  rw [← scanned.found_iff, finished]
  simp only [Option.some.injEq]

/-! ## The two strategies -/

/-- The test of the VIP tier. -/
def eligibleVip (d : Driver) : Bool :=
  eligible d && decide (vipRatingThreshold ≤ d.rating)

/-- The tier of highly rated drivers is used. -/
def VipTier (isVip : Bool) (state : SharedState) : Prop :=
  state.dispatchMode ≠ 0 ∧ isVip = true ∧ ∃ slot, Candidate eligibleVip state slot

/-- The driver that a request should get: the first nearest one of its tier. -/
structure Preferred (isVip : Bool) (state : SharedState) (slot : Fin maxDrivers) : Prop where
  vip : VipTier isVip state → FirstLeast (Candidate eligibleVip state) (slotDistance state) slot
  regular : ¬ VipTier isVip state →
    FirstLeast (Candidate eligible state) (slotDistance state) slot

theorem eligible_of_eligibleVip {d : Driver} (able : eligibleVip d = true) : eligible d = true :=
  (Bool.and_eq_true_iff.mp able).1

/-- Without a highly rated driver the VIP search is the regular one. -/
theorem findDriverSmart_of_none (nothing : scanDrivers eligibleVip state = some none) :
    findDriverSmart state true = findDriverBasic state := by
  have tier : scanDrivers (fun d => eligible d && decide (vipRatingThreshold ≤ d.rating)) state =
      some none := nothing
  simp only [findDriverSmart, if_true, tier, Option.bind_eq_bind, Option.bind_some]

theorem findDriverSmart_of_some {slot : Fin maxDrivers}
    (found : scanDrivers eligibleVip state = some (some slot)) :
    findDriverSmart state true = some (some slot) := by
  have tier : scanDrivers (fun d => eligible d && decide (vipRatingThreshold ≤ d.rating)) state =
      some (some slot) := found
  simp only [findDriverSmart, if_true, tier, Option.bind_eq_bind, Option.bind_some]
  rfl

/-- The regular search, when the tier is not used. -/
theorem findDriverBasic_preferred (isVip : Bool) (fits : state.driverCount ≤ maxDrivers)
    (near : ∀ slot, state.Active slot → slotDistance state slot < 1000000 ^ 2)
    (regular : ¬ VipTier isVip state) :
    (findDriverBasic state = some none ∧ ∀ slot, ¬ Candidate eligible state slot) ∨
      ∃ slot, findDriverBasic state = some (some slot) ∧ Preferred isVip state slot := by
  rcases scanDrivers_firstLeast eligible fits near with nothing | ⟨slot, found, first⟩
  · exact Or.inl nothing
  · exact Or.inr ⟨slot, found, ⟨fun vip => absurd vip regular, fun _ => first⟩⟩

/-- The selection finds the preferred driver, or nobody is eligible. -/
theorem selectDriver_preferred (isVip : Bool) (fits : state.driverCount ≤ maxDrivers)
    (near : ∀ slot, state.Active slot → slotDistance state slot < 1000000 ^ 2) :
    (selectDriver isVip state = some none ∧ ∀ slot, ¬ Candidate eligible state slot) ∨
      ∃ slot, selectDriver isVip state = some (some slot) ∧ Preferred isVip state slot := by
  unfold selectDriver
  by_cases basic : state.dispatchMode = 0
  · rw [if_pos basic]
    exact findDriverBasic_preferred isVip fits near fun tier => tier.1 basic
  · rw [if_neg basic]
    cases isVip with
    | false =>
        exact findDriverBasic_preferred false fits near fun tier => Bool.noConfusion tier.2.1
    | true =>
        rcases scanDrivers_firstLeast eligibleVip fits near with
          ⟨nothing, none_⟩ | ⟨slot, found, first⟩
        · rw [findDriverSmart_of_none nothing]
          exact findDriverBasic_preferred true fits near fun tier =>
            tier.2.2.elim fun slot member => none_ slot member
        · rw [findDriverSmart_of_some found]
          have tier : VipTier true state := ⟨basic, rfl, slot, first.among⟩
          exact Or.inr ⟨slot, rfl, ⟨fun _ => first, fun regular => absurd tier regular⟩⟩

/-- A driver that a request can be assigned: active, eligible and below the bound
of the scans. -/
def Selectable (state : SharedState) (slot : Fin maxDrivers) : Prop :=
  Candidate eligible state slot ∧ slotDistance state slot < 1000000 ^ 2

/-- A driver keeps what makes it selectable with its record. -/
theorem Selectable.of_record {next : SharedState} {slot : Fin maxDrivers}
    (selectable : Selectable state slot) (record : next.drivers slot = state.drivers slot)
    (active : next.Active slot) : Selectable next slot := by
  obtain ⟨⟨_, able⟩, near⟩ := selectable
  rw [← record] at able
  rw [slotDistance, ← record] at near
  exact ⟨⟨active, able⟩, near⟩

/-- Whatever the strategy, somebody is selected exactly when a driver is
selectable. -/
theorem selectDriver_found_iff (isVip : Bool) (fits : state.driverCount ≤ maxDrivers) :
    (∃ slot, selectDriver isVip state = some (some slot)) ↔ ∃ slot, Selectable state slot := by
  have basic : (∃ slot, findDriverBasic state = some (some slot)) ↔ ∃ slot, Selectable state slot :=
    scanDrivers_found_iff eligible fits
  unfold selectDriver
  by_cases mode : state.dispatchMode = 0
  · rw [if_pos mode]
    exact basic
  · rw [if_neg mode]
    cases isVip with
    | false => exact basic
    | true =>
        obtain ⟨best, scanned⟩ := scanDrivers_total eligibleVip fits
        cases best with
        | none =>
            rw [findDriverSmart_of_none scanned]
            exact basic
        | some found =>
            rw [findDriverSmart_of_some scanned]
            obtain ⟨slot, ⟨active, able⟩, near⟩ :=
              (scanDrivers_found_iff eligibleVip fits).mp ⟨found, scanned⟩
            exact iff_of_true ⟨found, rfl⟩ ⟨slot, ⟨active, eligible_of_eligibleVip able⟩, near⟩

/-! ## The whole request -/

/-- Nothing but one driver's record and the totals has changed. -/
structure RideFrame (slot : Fin maxDrivers) (state next : SharedState) : Prop where
  others : ∀ other ≠ slot, next.drivers other = state.drivers other
  driverCount : next.driverCount = state.driverCount
  dispatchMode : next.dispatchMode = state.dispatchMode
  clientLastSeen : next.clientLastSeen = state.clientLastSeen
  clientReqCount : next.clientReqCount = state.clientReqCount

theorem dispatchTo_frame (slot : Fin maxDrivers) (isVip : Bool) (draws : TargetDraws)
    (state : SharedState) : RideFrame slot state (dispatchTo slot isVip draws state) :=
  ⟨fun _ distinct => Function.update_of_ne distinct _ _, rfl, rfl, rfl, rfl⟩

/-- What a request does once the selection is known. -/
def rideOutcome (isVip : Bool) (draws : TargetDraws) (state : SharedState) :
    Option (Fin maxDrivers) → SharedState × Option (Fin maxDrivers × ℚ)
  | some slot => (dispatchTo slot isVip draws state, some (slot, slotDistance state slot))
  | none => (state, none)

theorem rideCriticalSection_eq (clientId : Int) (draws : TargetDraws) (state : SharedState) :
    rideCriticalSection clientId draws state =
      (selectDriver (isVipClient clientId) state).map
        (rideOutcome (isVipClient clientId) draws state) := by
  simp only [rideCriticalSection, Option.bind_eq_bind]
  cases selectDriver (isVipClient clientId) state with
  | none => rfl
  | some best =>
      cases best with
      | none => rfl
      | some slot => rfl

/-- A request fails exactly when no active driver is eligible, and then nothing
changes; otherwise it is assigned to the first nearest driver of its tier, and
only that driver's record and the totals change. -/
theorem handleRideRequestLogic_optimal
    (response : SharedState → Option (Fin maxDrivers × ℚ) → CString) (clientId : Int)
    (draws : TargetDraws) (fits : state.driverCount ≤ maxDrivers)
    (near : ∀ slot, state.Active slot → slotDistance state slot < 1000000 ^ 2) :
    ∃ next ret text, handleRideRequestLogic response clientId draws state =
        some (next, ret, text) ∧
      (ret = -1 ↔ ∀ slot, ¬ Candidate eligible state slot) ∧
      (ret = -1 → next = state) ∧
      (ret ≠ -1 → ∃ slot, Preferred (isVipClient clientId) state slot ∧
        next.drivers slot = assignRide draws (state.drivers slot) ∧ RideFrame slot state next) := by
  rw [handleRideRequestLogic, rideCriticalSection_eq]
  rcases selectDriver_preferred (isVipClient clientId) fits near with
    ⟨selected, none_⟩ | ⟨slot, selected, preferred⟩
  · rw [selected]
    exact ⟨state, -1, _, rfl, iff_of_true rfl none_, fun _ => rfl, fun failed => absurd rfl failed⟩
  · have candidate : Candidate eligible state slot := by
      by_cases tier : VipTier (isVipClient clientId) state
      · obtain ⟨active, able⟩ := (preferred.vip tier).among
        exact ⟨active, eligible_of_eligibleVip able⟩
      · exact (preferred.regular tier).among
    rw [selected]
    refine ⟨dispatchTo slot (isVipClient clientId) draws state, 0, _, rfl, ?_, nofun, ?_⟩
    · exact iff_of_false (by decide) fun none_ => none_ slot candidate
    · intro _
      exact ⟨slot, preferred, Function.update_self _ _ _, dispatchTo_frame slot _ draws state⟩

/-- An available driver at an offset from the base. -/
def waiting (lat lon rating : ℚ) : Driver :=
  { Driver.zeroed with
    lat := baseLat + lat, lon := baseLon + lon, isAvailable := true, fuel := 10, rating }

/-- Five drivers in smart mode: one that refuels at the base, one of the low tier next
to it, and three of the high tier, of which the first two are equally far. -/
def crowd : SharedState :=
  { SharedState.zeroed with
    drivers := fun slot =>
      match slot.val with
      | 0 => { waiting 0 0 4.9 with isAvailable := false, isRefueling := true }
      | 1 => waiting 0.001 0 4.5
      | 2 => waiting 0.002 0 4.9
      | 3 => waiting 0 0.002 4.9
      | 4 => waiting 0.003 0 5
      | _ => Driver.zeroed
    driverCount := 5
    dispatchMode := 1 }

theorem crowd_active {P : Fin maxDrivers → Prop} (holds : P 0 ∧ P 1 ∧ P 2 ∧ P 3 ∧ P 4)
    (slot : Fin maxDrivers) (active : crowd.Active slot) : P slot := by
  obtain ⟨zero, one, two, three, four⟩ := holds
  have small : slot.val < 5 := by
    have below : (slot.val : Int) < 5 := active
    omega
  obtain ⟨place, inside⟩ := slot
  simp only at small
  interval_cases place <;> assumption

theorem crowd_near (slot : Fin maxDrivers) (active : crowd.Active slot) :
    slotDistance crowd slot < 1000000 ^ 2 :=
  crowd_active (P := fun slot => slotDistance crowd slot < 1000000 ^ 2) (by decide +kernel) slot
    active

/-- The nearest driver of the high tier, the first of two. -/
theorem crowd_vip : FirstLeast (Candidate eligibleVip crowd) (slotDistance crowd) 2 where
  among := ⟨by decide, by decide +kernel⟩
  least other member := crowd_active
    (P := fun slot => eligibleVip (crowd.drivers slot) = true →
      slotDistance crowd 2 ≤ slotDistance crowd slot)
    (by decide +kernel) other member.1 member.2
  first other member := crowd_active
    (P := fun slot => eligibleVip (crowd.drivers slot) = true →
      slotDistance crowd slot = slotDistance crowd 2 → 2 ≤ slot)
    (by decide +kernel) other member.1 member.2

/-- The nearest driver that can take a ride. -/
theorem crowd_regular : FirstLeast (Candidate eligible crowd) (slotDistance crowd) 1 where
  among := ⟨by decide, by decide +kernel⟩
  least other member := crowd_active
    (P := fun slot => eligible (crowd.drivers slot) = true →
      slotDistance crowd 1 ≤ slotDistance crowd slot)
    (by decide +kernel) other member.1 member.2
  first other member := crowd_active
    (P := fun slot => eligible (crowd.drivers slot) = true →
      slotDistance crowd slot = slotDistance crowd 1 → 1 ≤ slot)
    (by decide +kernel) other member.1 member.2

theorem handleRideRequestLogic_optimal_crowd :
    (∃ next ret text, handleRideRequestLogic (fun _ _ => []) 5 ⟨1, 1⟩ crowd =
        some (next, ret, text) ∧ ret ≠ -1 ∧
      next.drivers 2 = assignRide ⟨1, 1⟩ (crowd.drivers 2) ∧ RideFrame 2 crowd next) ∧
    ∃ next ret text, handleRideRequestLogic (fun _ _ => []) 20 ⟨1, 1⟩ crowd =
        some (next, ret, text) ∧ ret ≠ -1 ∧
      next.drivers 1 = assignRide ⟨1, 1⟩ (crowd.drivers 1) ∧ RideFrame 1 crowd next := by
  constructor
  · obtain ⟨next, ret, text, result, fails, _, assigned⟩ :=
      handleRideRequestLogic_optimal (fun _ _ => []) 5 ⟨1, 1⟩ (by decide) crowd_near
    have served : ret ≠ -1 := fun failed =>
      fails.mp failed 2 ⟨crowd_vip.among.1, eligible_of_eligibleVip crowd_vip.among.2⟩
    obtain ⟨slot, preferred, record, frame⟩ := assigned served
    have tier : VipTier (isVipClient 5) crowd := ⟨by decide, by decide, 2, crowd_vip.among⟩
    obtain rfl := (preferred.vip tier).unique crowd_vip
    exact ⟨next, ret, text, result, served, record, frame⟩
  · obtain ⟨next, ret, text, result, fails, _, assigned⟩ :=
      handleRideRequestLogic_optimal (fun _ _ => []) 20 ⟨1, 1⟩ (by decide) crowd_near
    have served : ret ≠ -1 := fun failed => fails.mp failed 1 crowd_regular.among
    obtain ⟨slot, preferred, record, frame⟩ := assigned served
    have regular : ¬ VipTier (isVipClient 20) crowd := fun tier =>
      absurd tier.2.1 (by decide)
    obtain rfl := (preferred.regular regular).unique crowd_regular
    exact ⟨next, ret, text, result, served, record, frame⟩

end RideHailing.Server
