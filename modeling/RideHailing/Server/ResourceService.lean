import RideHailing.Arithmetic.Machine
import RideHailing.Common.SharedData

/-!
# The rate limiter

Every client identifier below 2000 owns one entry of two tables: the second of
its last request and the number of requests within that second.  The clock is
read before the mutex is taken, so the reading is an argument of the update.
-/

namespace RideHailing.Server

open RideHailing.Arithmetic
open RideHailing.Common
open RideHailing.Loop

/-- The table entry of a client; `none` for the identifiers that the guard sends
back, as the access itself never fails (`checkedRateLimit_eq`). -/
def limiterSlot (clientId : Int) : Option (Fin maxClients) :=
  if clientId ≤ 0 ∨ (maxClients : Int) ≤ clientId then none
  else checkedIndex maxClients clientId

/-- The update of a client's entry for a request with the given clock reading. -/
def recordRequest (slot : Fin maxClients) (now : Int) (state : SharedState) : SharedState :=
  if state.clientLastSeen slot = now then
    { state with
      clientReqCount :=
        Function.update state.clientReqCount slot (wrap32 (state.clientReqCount slot + 1)) }
  else
    { state with
      clientLastSeen := Function.update state.clientLastSeen slot now
      clientReqCount := Function.update state.clientReqCount slot 1 }

/-- `check_and_update_rate_limit`; `true` is the return value 1, blocked. -/
def checkAndUpdateRateLimit (clientId now : Int) (state : SharedState) :
    Bool × SharedState :=
  match limiterSlot clientId with
  | none => (false, state)
  | some slot =>
      let updated := recordRequest slot now state
      (decide (3 < updated.clientReqCount slot), updated)

theorem limiterSlot_eq_some_iff {clientId : Int} {slot : Fin maxClients} :
    limiterSlot clientId = some slot ↔ 0 < clientId ∧ clientId = slot.val := by
  unfold limiterSlot
  have inside := slot.isLt
  by_cases outside : clientId ≤ 0 ∨ (maxClients : Int) ≤ clientId
  · rw [if_pos outside]
    simp only [reduceCtorEq, false_iff]
    omega
  · rw [if_neg outside, checkedIndex_eq_some_iff]
    omega

/-- `check_and_update_rate_limit` with the accesses to its tables checked; `none` is
an access outside of them. -/
def checkedRateLimit (clientId now : Int) (state : SharedState) :
    Option (Bool × SharedState) :=
  if clientId ≤ 0 ∨ (maxClients : Int) ≤ clientId then some (false, state)
  else (checkedIndex maxClients clientId).map fun slot =>
    let updated := recordRequest slot now state
    (decide (3 < updated.clientReqCount slot), updated)

/-- What the guard lets through has an entry. -/
theorem checkedRateLimit_eq (clientId now : Int) (state : SharedState) :
    checkedRateLimit clientId now state = some (checkAndUpdateRateLimit clientId now state) := by
  rw [checkedRateLimit, checkAndUpdateRateLimit, limiterSlot]
  by_cases outside : clientId ≤ 0 ∨ (maxClients : Int) ≤ clientId
  · rw [if_pos outside, if_pos outside]
  · rw [if_neg outside, if_neg outside]
    obtain ⟨lower, upper⟩ := not_or.mp outside
    have inside : checkedIndex maxClients clientId = some ⟨clientId.toNat, by omega⟩ :=
      checkedIndex_eq_some_iff.mpr (Int.toNat_of_nonneg (by omega)).symm
    rw [inside]
    rfl

/-- The identifiers 1, …, 1999 are exactly those with an entry. -/
theorem exists_limiterSlot {clientId : Int} (lower : 1 ≤ clientId) (upper : clientId ≤ 1999) :
    ∃ slot, limiterSlot clientId = some slot ∧ (slot.val : Int) = clientId := by
  have size : maxClients = 2000 := rfl
  refine ⟨⟨clientId.toNat, by omega⟩, ?_, by simp only; omega⟩
  rw [limiterSlot_eq_some_iff]
  simp only
  omega

/-! ## Frame -/

/-- An update leaves everything but the client's own entry alone. -/
structure LimiterFrame (slot : Fin maxClients) (state next : SharedState) : Prop where
  drivers : next.drivers = state.drivers
  driverCount : next.driverCount = state.driverCount
  totalRequestsHandled : next.totalRequestsHandled = state.totalRequestsHandled
  totalSuccessRequests : next.totalSuccessRequests = state.totalSuccessRequests
  totalRevenue : next.totalRevenue = state.totalRevenue
  dispatchMode : next.dispatchMode = state.dispatchMode
  clientLastSeen : ∀ other ≠ slot, next.clientLastSeen other = state.clientLastSeen other
  clientReqCount : ∀ other ≠ slot, next.clientReqCount other = state.clientReqCount other

theorem recordRequest_frame (slot : Fin maxClients) (now : Int) (state : SharedState) :
    LimiterFrame slot state (recordRequest slot now state) := by
  unfold recordRequest
  by_cases same : state.clientLastSeen slot = now
  · rw [if_pos same]
    exact ⟨rfl, rfl, rfl, rfl, rfl, rfl, fun _ _ => rfl,
      fun other distinct => Function.update_of_ne distinct _ _⟩
  · rw [if_neg same]
    exact ⟨rfl, rfl, rfl, rfl, rfl, rfl,
      fun other distinct => Function.update_of_ne distinct _ _,
      fun other distinct => Function.update_of_ne distinct _ _⟩

theorem recordRequest_lastSeen (slot : Fin maxClients) (now : Int) (state : SharedState) :
    (recordRequest slot now state).clientLastSeen slot = now := by
  unfold recordRequest
  by_cases same : state.clientLastSeen slot = now
  · rw [if_pos same]
    exact same
  · rw [if_neg same]
    exact Function.update_self _ _ _

theorem recordRequest_reqCount (slot : Fin maxClients) (now : Int) (state : SharedState) :
    (recordRequest slot now state).clientReqCount slot =
      if state.clientLastSeen slot = now then wrap32 (state.clientReqCount slot + 1) else 1 := by
  unfold recordRequest
  split
  · exact Function.update_self _ _ _
  · exact Function.update_self _ _ _

/-- The limiter's tables always change: either the second or the count. -/
theorem recordRequest_ne (slot : Fin maxClients) (now : Int) (state : SharedState) :
    recordRequest slot now state ≠ state := by
  intro unchanged
  by_cases same : state.clientLastSeen slot = now
  · have count := recordRequest_reqCount slot now state
    rw [unchanged, if_pos same] at count
    exact wrap32_add_one_ne _ count.symm
  · have seen := recordRequest_lastSeen slot now state
    rw [unchanged] at seen
    exact same seen

/-- What a limiter call does: nothing for an identifier without an entry, else
one update of the entry. -/
theorem checkAndUpdateRateLimit_cases {clientId now : Int} {state next : SharedState}
    {blocked : Bool} (call : checkAndUpdateRateLimit clientId now state = (blocked, next)) :
    (limiterSlot clientId = none ∧ blocked = false ∧ next = state) ∨
      ∃ slot, limiterSlot clientId = some slot ∧ next = recordRequest slot now state ∧
        blocked = decide (3 < next.clientReqCount slot) := by
  unfold checkAndUpdateRateLimit at call
  cases entry : limiterSlot clientId with
  | none =>
      rw [entry] at call
      cases call
      exact Or.inl ⟨rfl, rfl, rfl⟩
  | some slot =>
      rw [entry] at call
      cases call
      exact Or.inr ⟨slot, rfl, rfl, rfl⟩

/-- No limiter call touches the drivers, the count or the totals. -/
theorem checkAndUpdateRateLimit_keeps {clientId now : Int} {state next : SharedState}
    {blocked : Bool} (call : checkAndUpdateRateLimit clientId now state = (blocked, next)) :
    next.drivers = state.drivers ∧ next.driverCount = state.driverCount ∧
      next.totalSuccessRequests = state.totalSuccessRequests ∧
      next.totalRevenue = state.totalRevenue := by
  rcases checkAndUpdateRateLimit_cases call with ⟨_, _, rfl⟩ | ⟨slot, _, rfl, _⟩
  · exact ⟨rfl, rfl, rfl, rfl⟩
  · have frame := recordRequest_frame slot now state
    exact ⟨frame.drivers, frame.driverCount, frame.totalSuccessRequests, frame.totalRevenue⟩

end RideHailing.Server
