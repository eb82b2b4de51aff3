import RideHailing.Fleet.Shutdown

/-!
# The records between two releases

Whoever reads the shared memory without the mutex may find a dispatch or a join
half done.  Here every update of the two is a step of its own; a pass of the map
monitor is one step, as it is the monitor's thread that also draws the screen, and
so is what stores nothing in the records.
-/

namespace RideHailing.Fleet

open RideHailing.Common
open RideHailing.Loop
open RideHailing.Server
open RideHailing.Transition

/-! ## Updates -/

/-- An update under the mutex: one of a dispatch to a slot, or one of
`process_driver_join`. -/
inductive LiveWrite
  | dispatch (slot : Fin maxDrivers) (write : FieldWrite)
  | driverCount
  | driverId (slot : Fin maxDrivers) (value : UInt32)
  | isAvailable (slot : Fin maxDrivers)
  | fuel (slot : Fin maxDrivers)

def LiveWrite.store (state : SharedState) : LiveWrite → SharedState
  | .dispatch slot write => write.store slot state
  | .driverCount => { state with driverCount := state.driverCount + 1 }
  | .driverId slot value => state.setDriver slot { state.drivers slot with driverId := value }
  | .isAvailable slot => state.setDriver slot { state.drivers slot with isAvailable := true }
  | .fuel slot => state.setDriver slot { state.drivers slot with fuel := 10 }

/-- The state after some updates. -/
def storeLive (state : SharedState) (writes : List LiveWrite) : SharedState :=
  writes.foldl LiveWrite.store state

theorem storeLive_snoc (state : SharedState) (writes : List LiveWrite) (write : LiveWrite) :
    storeLive state (writes ++ [write]) = write.store (storeLive state writes) := by
  rw [storeLive, List.foldl_append]
  rfl

theorem storeLive_append (state : SharedState) (first second : List LiveWrite) :
    storeLive state (first ++ second) = storeLive (storeLive state first) second :=
  List.foldl_append

/-- The updates of a join in the order of the source. -/
def joinWrites (slot : Fin maxDrivers) (driverId : UInt32) : List LiveWrite :=
  [.driverCount, .driverId slot driverId, .isAvailable slot, .fuel slot]

theorem storeLive_dispatch (slot : Fin maxDrivers) (state : SharedState)
    (writes : List FieldWrite) :
    storeLive state (writes.map (.dispatch slot)) = storeAll slot state writes := by
  rw [storeLive, List.foldl_map]
  rfl

/-- All updates of a join together. -/
theorem storeLive_joinWrites (slot : Fin maxDrivers) (driverId : UInt32) (state : SharedState) :
    storeLive state (joinWrites slot driverId) =
      { state.setDriver slot (joinDriver driverId (state.drivers slot)) with
        driverCount := state.driverCount + 1 } := by
  simp [storeLive, joinWrites, LiveWrite.store, SharedState.setDriver, joinDriver]

/-! ## The updates one by one -/

/-- The shared memory, with what the holder of the mutex has still to store. -/
structure Live where
  shared : SharedState
  pending : List LiveWrite

/-- The updates of a critical section that starts in a state. -/
inductive Section (state : SharedState) : List LiveWrite → Prop
  | dispatch (clientId : Int) (draws : TargetDraws) (slot : Fin maxDrivers)
      (selected : selectDriver (isVipClient clientId) state = some (some slot)) :
      Section state ((dispatchWrites (isVipClient clientId) draws).map (.dispatch slot))
  | join (driverId : UInt32) (slot : Fin maxDrivers) (room : state.driverCount = slot.val) :
      Section state (joinWrites slot driverId)

inductive LiveAction
  | whole (event : Event)
  | enter
  | write

/-- A section is entered when the mutex is free.  What is neither a dispatch nor a
join that registers is one step. -/
inductive LiveStep : Live → LiveAction → Live → Prop
  | whole {shared next : SharedState} (event : Event) (single : event.ride = none)
      (step : CriticalSection shared event next)
      (kept : next.driverCount = shared.driverCount) :
      LiveStep ⟨shared, []⟩ (.whole event) ⟨next, []⟩
  | enter {shared : SharedState} (writes : List LiveWrite) (opens : Section shared writes) :
      LiveStep ⟨shared, []⟩ .enter ⟨shared, writes⟩
  | write {shared : SharedState} (write : LiveWrite) (rest : List LiveWrite) :
      LiveStep ⟨shared, write :: rest⟩ .write ⟨write.store shared, rest⟩

/-- The secure server with its updates one by one. -/
def liveServer : System Live LiveAction where
  initial live := secureServer.initial live.shared ∧ live.pending = []
  step := LiveStep

variable {live next : Live} {action : LiveAction} {released : SharedState}
  {writes written pending : List LiveWrite}

/-- All updates of a section together are the critical section. -/
theorem Section.criticalSection (opens : Section released writes) :
    ∃ event, CriticalSection released event (storeLive released writes) := by
  cases opens with
  | dispatch clientId draws slot selected =>
      refine ⟨.rideRequest clientId (some slot), draws,
        some (slot, baseDistance (released.drivers slot)), ?_, rfl⟩
      rw [storeLive_dispatch, storeAll_dispatchWrites, rideCriticalSection, selected]
      rfl
  | join driverId slot room =>
      have joined : processDriverJoin driverId released =
          some (storeLive released (joinWrites slot driverId)) := by
        have inside : released.driverCount < maxDrivers := by
          rw [room]
          exact_mod_cast slot.isLt
        rw [processDriverJoin, if_pos inside, room, checkedIndex_fin, storeLive_joinWrites, room]
        rfl
      exact ⟨.driverJoin driverId, joined⟩

/-- The shared memory is a state at a release, with the first updates of a section
that was entered there. -/
inductive Between : Live → Prop
  | free (shared : SharedState) (reachable : Reachable secureServer shared) :
      Between ⟨shared, []⟩
  | held (released : SharedState) (written pending : List LiveWrite)
      (reachable : Reachable secureServer released)
      (opens : Section released (written ++ pending)) :
      Between ⟨storeLive released written, pending⟩

/-- Whenever the mutex is free the shared memory is a state of the server. -/
theorem Between.reachable (between : Between live) (free : live.pending = []) :
    Reachable secureServer live.shared := by
  cases between with
  | free shared reachable => exact reachable
  | held released written pending reachable opens =>
      cases free
      rw [List.append_nil] at opens
      obtain ⟨event, step⟩ := opens.criticalSection
      obtain ⟨trace, run⟩ := reachable
      exact (run.snoc step).reachable

theorem Between.step (between : Between live) (step : LiveStep live action next) :
    Between next := by
  cases step with
  | whole event single step kept =>
      obtain ⟨trace, run⟩ := between.reachable rfl
      exact .free _ (run.snoc step).reachable
  | enter writes opens => exact .held _ [] writes (between.reachable rfl) opens
  | write write rest =>
      cases between with
      | held released written _ reachable opens =>
          rw [← storeLive_snoc]
          refine .held released _ rest reachable ?_
          rw [List.append_assoc]
          exact opens

/-- The holder of the mutex goes on with its updates. -/
theorem leads_writes (shared : SharedState) (written pending : List LiveWrite) :
    ∃ trace, Leads liveServer ⟨shared, written ++ pending⟩ trace
      ⟨storeLive shared written, pending⟩ := by
  induction written using List.reverseRecOn generalizing pending with
  | nil => exact ⟨[], Leads.refl⟩
  | append_singleton written write ih =>
      obtain ⟨trace, path⟩ := ih (write :: pending)
      rw [List.append_assoc, storeLive_snoc]
      exact ⟨_, path.snoc (.write write pending)⟩

theorem reachable_between (reachable : Reachable liveServer live) : Between live := by
  apply reachable.invariant (P := Between)
  · rintro ⟨shared, _⟩ ⟨starts, rfl⟩
    exact .free shared (Run.start starts).reachable
  · intro before action after between step
    exact between.step step

/-! ## The records -/

variable {slot other : Fin maxDrivers} {state : SharedState}

theorem FieldWrite.store_frame (write : FieldWrite) (distinct : other ≠ slot) :
    (write.store slot state).drivers other = state.drivers other := by
  cases write with
  | totalRequestsHandled | totalSuccessRequests | totalRevenue => rfl
  | isAvailable | ridesCount | fuel | hasTarget | targetLat | targetLon =>
      exact Function.update_of_ne distinct _ _

theorem FieldWrite.store_driverCount (write : FieldWrite) :
    (write.store slot state).driverCount = state.driverCount := by
  cases write <;> rfl

/-- A dispatch stores in one record only. -/
theorem storeAll_frame (slot : Fin maxDrivers) (state : SharedState) (stores : List FieldWrite) :
    (storeAll slot state stores).driverCount = state.driverCount ∧
      ∀ other ≠ slot, (storeAll slot state stores).drivers other = state.drivers other := by
  induction stores using List.reverseRecOn with
  | nil => exact ⟨rfl, fun _ _ => rfl⟩
  | append_singleton stores write ih =>
      rw [storeAll_snoc]
      exact ⟨write.store_driverCount.trans ih.1,
        fun other distinct => (write.store_frame distinct).trans (ih.2 other distinct)⟩

/-- The flags and the tank of the driver after the first updates of its dispatch. -/
theorem storeAll_take (slot : Fin maxDrivers) (state : SharedState) {k : Nat} (some_ : k ≤ 9)
    (isVip : Bool) (draws : TargetDraws) :
    let d := (storeAll slot state ((dispatchWrites isVip draws).take k)).drivers slot
    d.isAvailable = (decide (k = 0) && (state.drivers slot).isAvailable) ∧
      d.hasTarget = (decide (4 ≤ k) || (state.drivers slot).hasTarget) ∧
      d.isRefueling = (state.drivers slot).isRefueling ∧
      d.fuel = (state.drivers slot).fuel - if 3 ≤ k then 1 else 0 := by
  interval_cases k <;> simp [storeAll, dispatchWrites, FieldWrite.store, SharedState.setDriver]

/-- The counters after the first updates of a dispatch. -/
theorem storeAll_take_counters (slot : Fin maxDrivers) (state : SharedState) {k : Nat}
    (some_ : k ≤ 9) (isVip : Bool) (draws : TargetDraws) :
    let after := storeAll slot state ((dispatchWrites isVip draws).take k)
    (after.totalSuccessRequests =
        if 8 ≤ k then state.totalSuccessRequests + 1 else state.totalSuccessRequests) ∧
      (after.totalRevenue =
        if 9 ≤ k then Arithmetic.wrap64 (state.totalRevenue + fare isVip)
        else state.totalRevenue) ∧
      ((after.drivers slot).ridesCount =
        if 2 ≤ k then Arithmetic.wrap32 ((state.drivers slot).ridesCount + 1)
        else (state.drivers slot).ridesCount) ∧
      after.dispatchMode = state.dispatchMode := by
  interval_cases k <;> simp [storeAll, dispatchWrites, FieldWrite.store, SharedState.setDriver]

/-- The record and the count after the first updates of a join. -/
theorem storeLive_take (slot : Fin maxDrivers) (state : SharedState) {k : Nat} (some_ : k ≤ 4)
    (driverId : UInt32) :
    let after := storeLive state ((joinWrites slot driverId).take k)
    (after.driverCount = state.driverCount + if k = 0 then 0 else 1) ∧
      (∀ other ≠ slot, after.drivers other = state.drivers other) ∧
      (after.drivers slot).isAvailable = (decide (3 ≤ k) || (state.drivers slot).isAvailable) ∧
      (after.drivers slot).hasTarget = (state.drivers slot).hasTarget ∧
      (after.drivers slot).isRefueling = (state.drivers slot).isRefueling ∧
      (after.drivers slot).fuel = if k = 4 then 10 else (state.drivers slot).fuel := by
  interval_cases k <;>
    simp +contextual [storeLive, joinWrites, LiveWrite.store, SharedState.setDriver,
      Function.update_of_ne]

/-- The counters after the first updates of a join. -/
theorem storeLive_take_counters (slot : Fin maxDrivers) (state : SharedState) {k : Nat}
    (some_ : k ≤ 4) (driverId : UInt32) :
    let after := storeLive state ((joinWrites slot driverId).take k)
    ((∀ other, (after.drivers other).ridesCount = (state.drivers other).ridesCount) ∧
      after.totalSuccessRequests = state.totalSuccessRequests ∧
      after.totalRevenue = state.totalRevenue ∧ after.dispatchMode = state.dispatchMode) ∧
      state.driverCount ≤ after.driverCount := by
  obtain ⟨count, others, _⟩ := storeLive_take slot state some_ driverId
  refine ⟨⟨?_, ?_⟩, ?_⟩
  · intro other
    by_cases same : other = slot
    · subst same
      interval_cases k <;> simp [storeLive, joinWrites, LiveWrite.store, SharedState.setDriver]
    · rw [others other same]
  · interval_cases k <;> exact ⟨rfl, rfl, rfl⟩
  · simp only [count]
    split <;> omega

/-- How far the holder of the mutex has come. -/
inductive Progress (released : SharedState) : Live → Prop
  | dispatch (clientId : Int) (draws : TargetDraws) (slot : Fin maxDrivers) (k : Nat)
      (some_ : k ≤ 9)
      (selected : selectDriver (isVipClient clientId) released = some (some slot)) :
      Progress released
        ⟨storeAll slot released ((dispatchWrites (isVipClient clientId) draws).take k),
          ((dispatchWrites (isVipClient clientId) draws).map (.dispatch slot)).drop k⟩
  | join (driverId : UInt32) (slot : Fin maxDrivers) (k : Nat) (some_ : k ≤ 4)
      (room : released.driverCount = slot.val) :
      Progress released
        ⟨storeLive released ((joinWrites slot driverId).take k), (joinWrites slot driverId).drop k⟩

theorem Section.progress (opens : Section released (written ++ pending)) :
    Progress released ⟨storeLive released written, pending⟩ := by
  have first : written = (written ++ pending).take written.length := List.take_left.symm
  have rest : pending = (written ++ pending).drop written.length := List.drop_left.symm
  have short : written.length ≤ (written ++ pending).length := by simp
  generalize written.length = k at first rest short
  generalize written ++ pending = writes at opens first rest short
  subst first rest
  cases opens with
  | dispatch clientId draws slot selected =>
      rw [← List.map_take, storeLive_dispatch]
      exact .dispatch clientId draws slot k short selected
  | join driverId slot room => exact .join driverId slot k short room

/-- The table is never counted beyond its end, not even in the middle of a join. -/
theorem Between.fits (between : Between live) :
    live.shared.driverCount.toNat ≤ maxDrivers := by
  cases between with
  | free shared reachable =>
      have fits := (reachable_wellFormed reachable).fits
      exact Int.toNat_le.mpr fits
  | held released written pending reachable opens =>
      have fits := (reachable_wellFormed reachable).fits
      have progress := opens.progress
      generalize (⟨storeLive released written, pending⟩ : Live) = live at progress
      cases progress with
      | dispatch clientId draws slot k some_ selected =>
          simp only [(storeAll_frame _ _ _).1]
          exact Int.toNat_le.mpr fits
      | join driverId slot k some_ room =>
          have count := (storeLive_take slot released some_ driverId).1
          have inside := slot.isLt
          simp only [count, room]
          split <;> omega

/-- The record of a slot is in the middle of its dispatch or its join. -/
def HalfDone (live : Live) (slot : Fin maxDrivers) : Prop :=
  .dispatch slot .hasTarget ∈ live.pending ∧ .dispatch slot .isAvailable ∉ live.pending ∨
    .isAvailable slot ∈ live.pending

theorem halfDone_dispatch {k : Nat} (some_ : k ≤ 9) (isVip : Bool) (draws : TargetDraws)
    (state : SharedState) :
    HalfDone ⟨state, ((dispatchWrites isVip draws).map (.dispatch slot)).drop k⟩ other ↔
      other = slot ∧ 0 < k ∧ k < 4 := by
  interval_cases k <;> simp [HalfDone, dispatchWrites]

theorem halfDone_join {k : Nat} (some_ : k ≤ 4) (driverId : UInt32) (state : SharedState) :
    HalfDone ⟨state, (joinWrites slot driverId).drop k⟩ other ↔ other = slot ∧ k < 3 := by
  interval_cases k <;> simp [HalfDone, joinWrites]

end RideHailing.Fleet
