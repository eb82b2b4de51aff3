import RideHailing.Fleet.Ledger
import RideHailing.Fleet.Live
import RideHailing.Fleet.Reporting
import RideHailing.Fleet.Restart
import RideHailing.Fleet.Roadworthy
import RideHailing.Fleet.Unlimited
import RideHailing.Transition.Durable

/-!
# The insecure server across restarts

`insecure_server` starts with `ipc_init` and saves on SIGINT, after its workers are
dead.  Its critical sections are those of the secure server without the limiter.
`handle_sigint` may find one of them half done: a dispatch or a join whose worker it
kills, or a pass of the map monitor, whose thread runs on while the memory is saved.
-/

namespace RideHailing.Fleet

open RideHailing.Arithmetic
open RideHailing.Common
open RideHailing.Server
open RideHailing.Transition

variable {d : Driver} {state next left saved : SharedState} {slot other : Fin maxDrivers}

/-! ## The system -/

/-- A critical section that a shutdown finds half done, with the number of the
updates that the killed worker has made. -/
inductive Cut
  | dispatch (ride : Ride) (writes : Nat)
  | join (driverId : UInt32) (writes : Nat)
  | pass

/-- A record after part of a pass: the fields that the monitor stores may hold
anything. -/
def overwrite (values d : Driver) : Driver :=
  { values with driverId := d.driverId, ridesCount := d.ridesCount, rating := d.rating }

/-- What a shutdown leaves of a critical section. -/
inductive CutStep (state : SharedState) : Cut → SharedState → Prop
  | dispatch (clientId : Int) (draws : TargetDraws) (slot : Fin maxDrivers) (writes : Nat)
      (part : writes ≤ 9)
      (selected : selectDriver (isVipClient clientId) state = some (some slot)) :
      CutStep state (.dispatch ⟨clientId, slot⟩ writes)
        (storeAll slot state ((dispatchWrites (isVipClient clientId) draws).take writes))
  | join (driverId : UInt32) (slot : Fin maxDrivers) (writes : Nat) (part : writes ≤ 4)
      (room : state.driverCount = slot.val) :
      CutStep state (.join driverId writes)
        (storeLive state ((joinWrites slot driverId).take writes))
  | pass (values : Fin maxDrivers → Driver) :
      CutStep state .pass
        { state with
          drivers := fun slot =>
            if state.Active slot then overwrite (values slot) (state.drivers slot)
            else state.drivers slot }

/-- What a shutdown leaves, which finds a critical section half done or none. -/
inductive ShutdownStep (state : SharedState) : Option Cut → SharedState → Prop
  | whole : ShutdownStep state none state
  | cut (short : Cut) (left : SharedState) (cuts : CutStep state short left) :
      ShutdownStep state (some short) left

/-- The shared memory with the save file beside it. -/
structure Installation where
  shared : SharedState
  file : SaveFile

/-- A critical section, or SIGINT followed by another start of the program. -/
inductive InstallationEvent
  | entered (event : Event)
  | restarted (short : Option Cut) (outcome : WriteOutcome) (driverCount : Int)

inductive InstallationStep (installation : Installation) :
    InstallationEvent → Installation → Prop
  | enter (event : Event) (allowed : unlimited event) (next : SharedState)
      (section_ : CriticalSection installation.shared event next) :
      InstallationStep installation (.entered event) { installation with shared := next }
  | restart (short : Option Cut) (outcome : WriteOutcome) (driverCount : Int)
      (counts : 0 ≤ driverCount) (left next : SharedState)
      (stops : ShutdownStep installation.shared short left)
      (starts : ipcInit driverCount (saveState outcome left installation.file) = some next) :
      InstallationStep installation (.restarted short outcome driverCount)
        ⟨next, saveState outcome left installation.file⟩

/-- `insecure_server`, first started without a usable save file. -/
def insecureInstallation : System Installation InstallationEvent where
  initial installation := loadState installation.file = none ∧
    ∃ driverCount, 0 ≤ driverCount ∧ ipcInit driverCount installation.file =
      some installation.shared
  step := InstallationStep

/-! ## As a durable process -/

/-- What has been done to the shared memory. -/
inductive Deed
  | whole (event : Event)
  | cut (short : Cut)

inductive DeedStep (state : SharedState) : Deed → SharedState → Prop
  | whole (event : Event) (allowed : unlimited event) (next : SharedState)
      (section_ : CriticalSection state event next) : DeedStep state (.whole event) next

inductive DeedCut (state : SharedState) : Deed → SharedState → Prop
  | cut (short : Cut) (left : SharedState) (cuts : CutStep state short left) :
      DeedCut state (.cut short) left

/-- One lifetime of the program. -/
def insecureProcess : Durable SharedState Deed where
  fresh state := ∃ driverCount file, 0 ≤ driverCount ∧ loadState file = none ∧
    ipcInit driverCount file = some state
  work := DeedStep
  cut := DeedCut
  resume saved next := ∃ driverCount, ipcInit driverCount (.whole saved) = some next

def savingOf : WriteOutcome → Saving
  | .unopened => .kept
  | .short => .spoiled
  | .complete => .saved

def turnOf : InstallationEvent → Turn Deed
  | .entered event => .worked (.whole event)
  | .restarted short outcome _ => .restarted (short.map .cut) (savingOf outcome)

/-- What the program can load. -/
def lifetimeOf (installation : Installation) : Lifetime SharedState where
  live := installation.shared
  stored := loadState installation.file

theorem loadState_eq (outcome : WriteOutcome) (state : SharedState) (file : SaveFile) :
    loadState (saveState outcome state file) =
      (savingOf outcome).store state (loadState file) := by
  cases outcome <;> rfl

theorem whole_of_loadState {file : SaveFile} (usable : loadState file = some saved) :
    file = .whole saved := by
  cases file with
  | missing => cases usable
  | short => cases usable
  | whole contents => rw [← Option.some.inj usable]

theorem ShutdownStep.leaves {short : Option Cut} (stops : ShutdownStep state short left) :
    insecureProcess.Leaves state (short.map .cut) left := by
  cases stops with
  | whole => exact .whole
  | cut short left cuts => exact .cut _ _ (.cut short left cuts)

theorem installation_run {trace : List InstallationEvent} {installation : Installation}
    (run : Run insecureInstallation trace installation) :
    Run insecureProcess.system (trace.map turnOf) (lifetimeOf installation) := by
  suffices refined : Run insecureProcess.system
      (trace.filterMap fun event => some (turnOf event)) (lifetimeOf installation) by
    rwa [List.filterMap_eq_map'] at refined
  refine run.refines lifetimeOf (fun event => some (turnOf event)) ?_ ?_ ?_
  · rintro start ⟨unusable, driverCount, counts, starts⟩
    exact ⟨⟨driverCount, start.file, counts, unusable, starts⟩, unusable⟩
  · rintro before event after _ _ ⟨⟩
  · rintro before event after _ _ step ⟨⟩
    cases step with
    | enter event allowed next section_ =>
        exact .work (Deed.whole event) next (DeedStep.whole event allowed next section_)
    | restart short outcome driverCount counts left next stops starts =>
        have stored := loadState_eq outcome left before.file
        have view : lifetimeOf ⟨next, saveState outcome left before.file⟩ =
            ⟨next, loadState (saveState outcome left before.file)⟩ := rfl
        rw [view]
        cases usable : loadState (saveState outcome left before.file) with
        | none =>
            exact .fresh _ _ left next stops.leaves (stored.symm.trans usable)
              ⟨driverCount, _, counts, usable, starts⟩
        | some saved =>
            rw [whole_of_loadState usable] at starts
            exact .resume _ _ left saved next stops.leaves (stored.symm.trans usable)
              ⟨driverCount, starts⟩

/-! ## What the counters have counted -/

/-- A dispatch that is cut short counts from an update on. -/
def Deed.counted (update : Nat) : Deed → Option Event
  | .whole event => some event
  | .cut (.dispatch ride writes) =>
      if update ≤ writes then some (.rideRequest ride.clientId (some ride.slot)) else none
  | .cut (.join _ _) => none
  | .cut .pass => none

/-- The critical sections of a history, with the dispatches cut short that have got
as far as an update. -/
def counted (update : Nat) (history : List Deed) : List Event :=
  history.filterMap (Deed.counted update)

theorem counted_whole (update : Nat) (history : List Deed) (event : Event) :
    counted update (history ++ [.whole event]) = counted update history ++ [event] := by
  rw [counted, List.filterMap_append]
  rfl

theorem counted_dispatch (update : Nat) (history : List Deed) (ride : Ride) (writes : Nat) :
    counted update (history ++ [.cut (.dispatch ride writes)]) =
      if update ≤ writes then
        counted update history ++ [.rideRequest ride.clientId (some ride.slot)]
      else counted update history := by
  rw [counted, List.filterMap_append]
  split
  next reached => simp [Deed.counted, reached, counted]
  next missed => simp [Deed.counted, missed, counted]

theorem counted_join (update : Nat) (history : List Deed) (driverId : UInt32) (writes : Nat) :
    counted update (history ++ [.cut (.join driverId writes)]) = counted update history := by
  rw [counted, List.filterMap_append]
  exact List.append_nil _

theorem counted_pass (update : Nat) (history : List Deed) :
    counted update (history ++ [.cut .pass]) = counted update history := by
  rw [counted, List.filterMap_append]
  exact List.append_nil _

/-- The counters beside a history.  The number of rides of a driver is the second
update of a dispatch, the number of all rides the eighth and the revenue the ninth. -/
structure Booked (history : List Deed) (state : SharedState) : Prop where
  perDriver : ∀ slot, (state.drivers slot).ridesCount = wrap32 (ridesOf slot (counted 2 history))
  total : state.totalSuccessRequests = UInt64.ofNat (rides (counted 8 history)).length
  revenue : state.totalRevenue = wrap64 (income (counted 9 history))
  charged : ∀ ride ∈ rides (counted 2 history), state.Active ride.slot
  basic : state.dispatchMode = 0

variable {history : List Deed} {event : Event} {short : Cut}

theorem Booked.whole (booked : Booked history state) (wellFormed : WellFormed state)
    (section_ : CriticalSection state event next) : Booked (history ++ [.whole event]) next where
  perDriver slot := by
    rw [counted_whole]
    exact ridesCount_step wellFormed section_ (booked.perDriver slot)
      fun inactive => ridesOf_eq_zero booked.charged inactive
  total := by
    rw [counted_whole]
    exact totalSuccessRequests_step section_ booked.total
  revenue := by
    rw [counted_whole]
    exact totalRevenue_step section_ booked.revenue
  charged := by
    rw [counted_whole]
    exact charged_step wellFormed section_ booked.charged
  basic := (criticalSection_dispatchMode section_).trans booked.basic

/-- Each counter of a dispatch that is cut short counts it from its update on. -/
theorem Booked.dispatch (booked : Booked history state) (clientId : Int) (draws : TargetDraws)
    {writes : Nat} (part : writes ≤ 9)
    (selected : selectDriver (isVipClient clientId) state = some (some slot)) :
    Booked (history ++ [.cut (.dispatch ⟨clientId, slot⟩ writes)])
      (storeAll slot state ((dispatchWrites (isVipClient clientId) draws).take writes)) := by
  obtain ⟨active, _⟩ := selectDriver_sound selected
  obtain ⟨total, revenue, ridesCount, mode⟩ :=
    storeAll_take_counters slot state part (isVipClient clientId) draws
  obtain ⟨count, frame⟩ := storeAll_frame slot state
    ((dispatchWrites (isVipClient clientId) draws).take writes)
  have success : (Event.rideRequest clientId (some slot)).ride = some ⟨clientId, slot⟩ := rfl
  constructor
  · intro other
    rw [counted_dispatch]
    by_cases same : other = slot
    · subst same
      rw [ridesCount, booked.perDriver other]
      split
      next reached => rw [ridesOf_snoc_self, wrap32_wrap32_add, Nat.cast_succ]
      next missed => rfl
    · rw [frame other same, booked.perDriver other]
      split
      next reached =>
        rw [ridesOf_snoc_of_ne]
        rintro client ⟨⟩
        exact same rfl
      next missed => rfl
  · rw [counted_dispatch, total, booked.total]
    split
    next reached =>
      rw [rides_snoc_some success, List.length_append, List.length_singleton, UInt64.ofNat_add]
      rfl
    next missed => rfl
  · rw [counted_dispatch, revenue, booked.revenue]
    split
    next reached => rw [income_snoc success, wrap64_wrap64_add]
    next missed => rfl
  · intro ride member
    rw [SharedState.Active, count]
    rw [counted_dispatch] at member
    split at member
    next reached =>
      rw [rides_snoc_some success] at member
      rcases List.mem_append.mp member with earlier | latest
      · exact booked.charged ride earlier
      · rw [List.mem_singleton.mp latest]
        exact active
    next missed => exact booked.charged ride member
  · exact mode.trans booked.basic

/-- What leaves the counters and the active drivers leaves the books. -/
theorem Booked.kept (booked : Booked history state) {history' : List Deed}
    (same : ∀ update, counted update history' = counted update history)
    (ridesCount : ∀ slot, (left.drivers slot).ridesCount = (state.drivers slot).ridesCount)
    (total : left.totalSuccessRequests = state.totalSuccessRequests)
    (revenue : left.totalRevenue = state.totalRevenue)
    (grows : state.driverCount ≤ left.driverCount)
    (mode : left.dispatchMode = state.dispatchMode) : Booked history' left where
  perDriver slot := by rw [same, ridesCount, booked.perDriver slot]
  total := by rw [same, total, booked.total]
  revenue := by rw [same, revenue, booked.revenue]
  charged := by
    rw [same]
    intro ride member
    exact lt_of_lt_of_le (booked.charged ride member) grows
  basic := mode.trans booked.basic

theorem Booked.cut (booked : Booked history state) (cuts : CutStep state short left) :
    Booked (history ++ [.cut short]) left := by
  cases cuts with
  | dispatch clientId draws slot writes part selected =>
      exact booked.dispatch clientId draws part selected
  | join driverId slot writes part room =>
      obtain ⟨counters, grows⟩ := storeLive_take_counters slot state part driverId
      exact booked.kept (fun update => counted_join update history driverId writes)
        counters.1 counters.2.1 counters.2.2.1 grows counters.2.2.2
  | pass values =>
      refine booked.kept (fun update => counted_pass update history) ?_ rfl rfl le_rfl rfl
      intro slot
      simp only
      split <;> rfl

/-! ## Every lifetime -/

theorem CutStep.wellFormed (wellFormed : WellFormed state) (cuts : CutStep state short left) :
    WellFormed left := by
  obtain ⟨nonneg, fits, unused⟩ := wellFormed
  cases cuts with
  | dispatch clientId draws slot writes part selected =>
      obtain ⟨active, _⟩ := selectDriver_sound selected
      obtain ⟨count, frame⟩ := storeAll_frame slot state
        ((dispatchWrites (isVipClient clientId) draws).take writes)
      refine ⟨count ▸ nonneg, count ▸ fits, ?_⟩
      intro other inactive
      rw [SharedState.Active, count] at inactive
      have elsewhere : other ≠ slot := by
        rintro rfl
        exact inactive active
      rw [frame other elsewhere]
      exact unused other inactive
  | join driverId slot writes part room =>
      obtain ⟨count, others, _⟩ := storeLive_take slot state part driverId
      have inside := slot.isLt
      refine ⟨?_, ?_, ?_⟩
      · rw [count]
        split <;> omega
      · rw [count, room]
        split <;> omega
      · intro other inactive
        rw [SharedState.Active, count] at inactive
        by_cases started : writes = 0
        · subst started
          rw [if_pos rfl, add_zero] at inactive
          exact unused other inactive
        · rw [if_neg started] at inactive
          have elsewhere : other ≠ slot := by
            rintro rfl
            omega
          rw [others other elsewhere]
          refine unused other ?_
          rw [SharedState.Active]
          omega
  | pass values =>
      exact ⟨nonneg, fits, fun slot inactive => (if_neg inactive).trans (unused slot inactive)⟩

/-- The tanks after a dispatch or a join that is cut short. -/
theorem CutStep.fuelled (wellFormed : WellFormed state)
    (records : ∀ slot, state.Active slot → Roadworthy (state.drivers slot))
    (cuts : CutStep state short left) (orderly : short ≠ .pass) :
    ∀ slot, left.Active slot → Fuelled (left.drivers slot) := by
  cases cuts with
  | dispatch clientId draws slot writes part selected =>
      obtain ⟨active, able⟩ := selectDriver_sound selected
      obtain ⟨_, _, outside, fuel⟩ :=
        storeAll_take slot state part (isVipClient clientId) draws
      obtain ⟨count, frame⟩ := storeAll_frame slot state
        ((dispatchWrites (isVipClient clientId) draws).take writes)
      intro other active'
      rw [SharedState.Active, count] at active'
      by_cases same : other = slot
      · subst same
        simp only [eligible, Bool.and_eq_true, decide_eq_true_iff] at able
        obtain ⟨⟨_, idle⟩, tank⟩ := able
        have le := (records other active).le
        refine .of_outside ?_ ?_ ?_
        · rw [fuel]
          split <;> omega
        · rw [fuel]
          split <;> omega
        · rw [outside]
          simpa using idle
      · rw [frame other same]
        exact (records other active').toFuelled
  | join driverId slot writes part room =>
      obtain ⟨count, others, _, _, outside, fuel⟩ := storeLive_take slot state part driverId
      intro other active
      rw [SharedState.Active, count] at active
      by_cases same : other = slot
      · subst same
        have inactive : ¬ state.Active other := by
          rw [SharedState.Active]
          omega
        rw [wellFormed.unused other inactive] at outside fuel
        refine .of_outside ?_ ?_ outside
        · rw [fuel]
          split <;> simp [Driver.zeroed]
        · rw [fuel]
          split <;> simp [Driver.zeroed]
      · rw [others other same]
        refine (records other ?_).toFuelled
        rw [SharedState.Active]
        have distinct : other.val ≠ slot.val := fun equal => same (Fin.ext equal)
        split at active <;> omega
  | pass values => exact absurd rfl orderly

/-- A state of the insecure server beside the history that it remembers.  As long as
no shutdown of it met the map monitor at work, the records meet a condition. -/
structure Remembers (fit : Driver → Prop) (history : List Deed) (state : SharedState) : Prop where
  wellFormed : WellFormed state
  booked : Booked history state
  records : .cut .pass ∉ history → ∀ slot, state.Active slot → fit (state.drivers slot)

theorem remembers_fresh (fresh : insecureProcess.fresh state) : Remembers Roadworthy [] state := by
  obtain ⟨driverCount, file, counts, unusable, starts⟩ := fresh
  obtain ⟨_, same, _, records⟩ := ipcInit_fresh driverCount unusable
  obtain rfl := Option.some.inj (starts.symm.trans same)
  have le := clampCount_le driverCount
  rw [ipcInit, unusable] at starts
  simp only at starts
  rw [SharedState.forDrivers_eq_some _ (by exact le)] at starts
  cases starts
  have nonneg : 0 ≤ clampCount driverCount := by
    rw [clampCount]
    split
    · exact Int.natCast_nonneg maxDrivers
    · exact counts
  refine ⟨⟨nonneg, le, fun slot inactive => if_neg inactive⟩, ⟨?_, rfl, wrap64_zero.symm,
    fun _ ride => absurd ride List.not_mem_nil, rfl⟩, ?_⟩
  · intro slot
    simp only
    split
    · exact wrap32_zero.symm
    · exact wrap32_zero.symm
  · intro _ slot active
    rw [records slot, if_pos active]
    exact roadworthy_new _ _ _

theorem Remembers.work (remembers : Remembers Roadworthy history state)
    (section_ : CriticalSection state event next) :
    Remembers Roadworthy (history ++ [.whole event]) next := by
  have wellFormed := remembers.wellFormed
  refine ⟨criticalSection_wellFormed wellFormed section_,
    remembers.booked.whole wellFormed section_, ?_⟩
  intro orderly slot active
  have records := remembers.records fun passed => orderly (List.mem_append_left _ passed)
  cases criticalSection_record wellFormed section_ slot with
  | kept _ record same =>
      rw [record]
      exact records slot (same.mp active)
  | assigned clientId draws _ record was _ able =>
      rw [record]
      exact (records slot was).assign able draws
  | ticked draws _ record was _ =>
      rw [record]
      exact (records slot was).tick initMapObstacles draws
  | joined driverId _ record _ _ =>
      rw [record]
      exact roadworthy_new driverId 0 0

theorem Remembers.whole (remembers : Remembers Roadworthy history state) :
    Remembers Fuelled history state :=
  ⟨remembers.wellFormed, remembers.booked,
    fun orderly slot active => (remembers.records orderly slot active).toFuelled⟩

theorem Remembers.cut (remembers : Remembers Roadworthy history state)
    (cuts : CutStep state short left) : Remembers Fuelled (history ++ [.cut short]) left := by
  refine ⟨cuts.wellFormed remembers.wellFormed, remembers.booked.cut cuts, ?_⟩
  intro orderly
  refine cuts.fuelled remembers.wellFormed
    (remembers.records fun passed => orderly (List.mem_append_left _ passed)) ?_
  rintro rfl
  exact orderly (List.mem_append_right _ (List.mem_singleton_self _))

/-- The load regains the modes. -/
theorem Remembers.resume (remembers : Remembers Fuelled history saved)
    (resumes : insecureProcess.resume saved next) : Remembers Roadworthy history next := by
  obtain ⟨driverCount, starts⟩ := resumes
  obtain ⟨nonneg, fits, unused⟩ := remembers.wellFormed
  rw [ipcInit_loaded driverCount rfl fits] at starts
  cases starts
  obtain ⟨perDriver, total, revenue, charged, basic⟩ := remembers.booked
  refine ⟨⟨nonneg, fits, ?_⟩, ⟨?_, total, revenue, charged, basic⟩, ?_⟩
  · intro slot inactive
    exact (if_neg inactive).trans (unused slot inactive)
  · intro slot
    simp only
    split
    · exact perDriver slot
    · exact perDriver slot
  · intro orderly slot active
    simp only [if_pos (show saved.Active slot from active)]
    exact (remembers.records orderly slot active).resume

/-- The driver of a ride before a restart, in the middle of its next dispatch. -/
def cutDispatch : SharedState :=
  storeAll 0 resumedRide ((dispatchWrites (isVipClient 6) ⟨1, 1⟩).take 8)

/-- The same driver after the load. -/
def resumedDispatch : SharedState :=
  cutDispatch.setDriver 0 (resumeDriver (cutDispatch.drivers 0))

/-- A ride before a restart, and one whose worker is killed before it has added the
fare. -/
def cutRide : List InstallationEvent :=
  [.entered (.driverJoin 7), .entered (.rideRequest 5 (some 0)), .restarted none .complete 4,
    .restarted (some (.dispatch ⟨6, 0⟩ 8)) .complete 4]

theorem cutRide_run :
    Run insecureInstallation cutRide
      ⟨resumedDispatch, saveState .complete cutDispatch (.whole servedRide)⟩ := by
  have start : Run insecureInstallation [] ⟨SharedState.zeroed, .missing⟩ :=
    Run.start ⟨rfl, 0, Int.le_refl 0, rfl⟩
  have joined := start.snoc (.enter (.driverJoin 7) trivial loneDriver
    (rfl : processDriverJoin 7 SharedState.zeroed = some loneDriver))
  have dispatched : CriticalSection loneDriver (.rideRequest 5 (some 0)) servedRide :=
    ⟨⟨0, 0⟩, _, loneDriver_dispatch 5 ⟨0, 0⟩, rfl⟩
  have served := joined.snoc (.enter (.rideRequest 5 (some 0)) trivial servedRide dispatched)
  have again := served.snoc
    (.restart none .complete 4 (by decide) servedRide resumedRide .whole resumedRide_loaded)
  have selected : selectDriver (isVipClient 6) resumedRide = some (some 0) := by
    decide +kernel
  have stopped : ShutdownStep resumedRide (some (.dispatch ⟨6, 0⟩ 8)) cutDispatch :=
    .cut _ _ (.dispatch 6 ⟨1, 1⟩ 0 8 (by decide) selected)
  exact again.snoc (.restart (some (.dispatch ⟨6, 0⟩ 8)) .complete 4 (by decide) cutDispatch
    resumedDispatch stopped rfl)

end RideHailing.Fleet
