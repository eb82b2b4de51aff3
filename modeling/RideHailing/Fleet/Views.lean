import RideHailing.Fleet.Live
import RideHailing.Server.Views
import Mathlib.Data.Fintype.Fin
import Mathlib.Tactic.FieldSimp
import Mathlib.Tactic.Linarith

/-!
# The views of the shared state

The pricing service, the report on a save file and the screen of the monitor
tell the modes of a driver from different flags, in different orders.  Whenever
the mutex is free the first two nevertheless agree; the screen is drawn without
the mutex and shows in addition where a dispatch or a join is half done.
-/

namespace RideHailing.Fleet

open RideHailing.Common
open RideHailing.Loop
open RideHailing.Server
open RideHailing.Transition

variable {state : SharedState} {live : Live} {slot : Fin maxDrivers}

/-! ## Reading the table -/

/-- A loop within the table reaches its end, with what its body keeps. -/
theorem readDrivers_total {β : Type} {visit : Fin maxDrivers → Driver → β → β} {n : Nat}
    (fits : n ≤ maxDrivers) {start : β} {P : Nat → β → Prop} (initially : P 0 start)
    (keeps : ∀ slot current, slot.val < n → P slot.val current →
      P (slot.val + 1) (visit slot (state.drivers slot) current)) :
    ∃ result, readDrivers visit n state start = some result ∧ P n result := by
  refine countedLoop_total initially fun i small current holds => ?_
  have inside : i < maxDrivers := Nat.lt_of_lt_of_le small fits
  rw [checkedIndex_natCast inside]
  exact ⟨_, rfl, keeps ⟨i, inside⟩ current small holds⟩

/-- How many of the first `n` drivers pass a test. -/
def countBelow (test : Driver → Bool) (n : Nat) (state : SharedState) : Nat :=
  (Finset.univ.filter fun slot : Fin maxDrivers =>
    slot.val < n ∧ test (state.drivers slot) = true).card

@[simp]
theorem countBelow_zero (test : Driver → Bool) (state : SharedState) :
    countBelow test 0 state = 0 := by
  simp [countBelow]

theorem countBelow_succ (test : Driver → Bool) (slot : Fin maxDrivers) (state : SharedState) :
    countBelow test (slot.val + 1) state =
      countBelow test slot.val state + if test (state.drivers slot) then 1 else 0 := by
  have absent : slot ∉ Finset.univ.filter fun other : Fin maxDrivers =>
      other.val < slot.val ∧ test (state.drivers other) = true := by
    simp
  have before : ∀ other : Fin maxDrivers, other.val < slot.val + 1 ↔
      other = slot ∨ other.val < slot.val := by
    intro other
    rw [Fin.ext_iff]
    omega
  by_cases passes : test (state.drivers slot) = true
  · rw [if_pos passes, countBelow, countBelow, ← Finset.card_insert_of_notMem absent]
    refine congrArg Finset.card (Finset.ext fun other => ?_)
    simp only [Finset.mem_filter, Finset.mem_univ, true_and, Finset.mem_insert, before]
    constructor
    · rintro ⟨same | earlier, holds⟩
      · exact Or.inl same
      · exact Or.inr ⟨earlier, holds⟩
    · rintro (same | ⟨earlier, holds⟩)
      · exact ⟨Or.inl same, same ▸ passes⟩
      · exact ⟨Or.inr earlier, holds⟩
  · rw [if_neg passes, countBelow, countBelow]
    refine (congrArg Finset.card (Finset.ext fun other => ?_)).trans (Nat.add_zero _).symm
    simp only [Finset.mem_filter, Finset.mem_univ, true_and, before]
    constructor
    · rintro ⟨same | earlier, holds⟩
      · exact absurd (same ▸ holds) passes
      · exact ⟨earlier, holds⟩
    · rintro ⟨earlier, holds⟩
      exact ⟨Or.inr earlier, holds⟩

/-- How many active drivers pass a test. -/
def countActive (test : Driver → Bool) (state : SharedState) : Nat :=
  countBelow test state.driverCount.toNat state

/-- A loop that counts the drivers passing a test. -/
theorem readDrivers_count {visit : Fin maxDrivers → Driver → Nat → Nat} {test : Driver → Bool}
    {n : Nat} (fits : n ≤ maxDrivers)
    (counts : ∀ slot d count, visit slot d count = count + if test d then 1 else 0) :
    readDrivers visit n state 0 = some (countBelow test n state) := by
  have keeps : ∀ slot count, slot.val < n → count = countBelow test slot.val state →
      visit slot (state.drivers slot) count = countBelow test (slot.val + 1) state := by
    rintro slot count _ rfl
    rw [counts, countBelow_succ]
  obtain ⟨_, counted, rfl⟩ :=
    readDrivers_total (P := fun i count => count = countBelow test i state) fits
      (countBelow_zero test state).symm keeps
  exact counted

/-! ## The three views -/

/-- The busy drivers of the pricing service. -/
def busy (d : Driver) : Bool :=
  !d.isAvailable && !d.isRefueling

theorem countBusy_eq (slot : Fin maxDrivers) (d : Driver) (count : Nat) :
    countBusy slot d count = count + if busy d then 1 else 0 := by
  rw [countBusy, busy]
  cases d.isAvailable <;> cases d.isRefueling <;> rfl

/-- The ratio is compared exactly. -/
theorem busyRatio_iff {total : Int} (positive : 0 < total) (count : Nat) :
    (0.7 : ℚ) < count / total ↔ 7 * total < 10 * count := by
  have rational : (0 : ℚ) < total := by exact_mod_cast positive
  have scaled : (7 : ℚ) * total < 10 * count ↔ 7 * total < 10 * count := by norm_cast
  rw [lt_div_iff₀ rational, ← scaled]
  constructor
  · intro more
    norm_num at more
    linarith
  · intro more
    norm_num
    linarith

theorem calculateSurgePrice_eq (nonneg : 0 ≤ state.driverCount)
    (fits : state.driverCount ≤ maxDrivers) :
    calculateSurgePrice state =
      some (if 7 * state.driverCount < 10 * countActive busy state then (200, 1)
        else (100, 0)) := by
  have within : state.driverCount.toNat ≤ maxDrivers := by omega
  by_cases none_ : state.driverCount = 0
  · rw [calculateSurgePrice, if_pos none_, if_neg (by rw [countActive, none_]; simp)]
  · have positive : 0 < state.driverCount := by omega
    rw [calculateSurgePrice, if_neg none_, readDrivers_count within countBusy_eq, ← countActive]
    simp only [Option.map_some, busyRatio_iff positive]
    rfl

/-- The records below an index, each turned into a printed line. -/
def linesBelow {β : Type} (line : Fin maxDrivers → Driver → β) (n : Nat) (state : SharedState) :
    List β :=
  ((List.finRange maxDrivers).take n).map fun slot => line slot (state.drivers slot)

theorem linesBelow_succ {β : Type} (line : Fin maxDrivers → Driver → β) (slot : Fin maxDrivers)
    (state : SharedState) :
    linesBelow line (slot.val + 1) state =
      linesBelow line slot.val state ++ [line slot (state.drivers slot)] := by
  have inside : slot.val < (List.finRange maxDrivers).length := by
    rw [List.length_finRange]
    exact slot.isLt
  rw [linesBelow, List.take_succ_eq_append_getElem inside, List.map_append]
  simp [linesBelow]

/-- The counter of a status. -/
def counterOf (report : DumpReport) : DumpStatus → Nat
  | .available => report.availableDrivers
  | .refueling => report.refuelingDrivers
  | .busy => report.busyDrivers

theorem counterOf_count (report : DumpReport) (found status : DumpStatus) :
    counterOf (report.count found) status =
      counterOf report status + if found = status then 1 else 0 := by
  cases found <;> cases status <;> rfl

theorem rows_count (report : DumpReport) (found : DumpStatus) :
    (report.count found).rows = report.rows := by
  cases found <;> rfl

theorem counterOf_print (report : DumpReport) (slot : Fin maxDrivers) (d : Driver)
    (status : DumpStatus) : counterOf (report.print slot d) status = counterOf report status := by
  rw [DumpReport.print]
  split
  · cases status <;> rfl
  · rfl

/-- What the report holds after the first `n` drivers. -/
structure Dumped (state : SharedState) (n : Nat) (report : DumpReport) : Prop where
  rows : report.rows = linesBelow dumpRow (min 5 n) state
  counters : ∀ status, counterOf report status =
    countBelow (fun d => decide (dumpStatus d = status)) n state

theorem Dumped.driver {slot : Fin maxDrivers} {report : DumpReport}
    (dumped : Dumped state slot.val report) :
    Dumped state (slot.val + 1) (dumpDriver slot (state.drivers slot) report) := by
  constructor
  · rw [dumpDriver, DumpReport.print]
    by_cases few : slot.val < 5
    · rw [if_pos few, rows_count, dumped.rows, Nat.min_eq_right few,
        Nat.min_eq_right (Nat.le_of_lt few), linesBelow_succ]
    · rw [if_neg few, rows_count, dumped.rows, Nat.min_eq_left (by omega),
        Nat.min_eq_left (by omega)]
  · intro status
    rw [dumpDriver, counterOf_print, counterOf_count, dumped.counters, countBelow_succ]
    simp only [decide_eq_true_eq]

theorem dumpDat_whole (fits : state.driverCount.toNat ≤ maxDrivers) :
    ∃ report, dumpDat (.whole state) = some (.report report) ∧
      Dumped state state.driverCount.toNat report := by
  have initially : Dumped state 0
      { totalRequestsHandled := state.totalRequestsHandled
        totalSuccessRequests := state.totalSuccessRequests
        totalRevenue := state.totalRevenue
        driverCount := state.driverCount
        rows := []
        availableDrivers := 0
        refuelingDrivers := 0
        busyDrivers := 0 } := by
    constructor
    · rfl
    · intro status
      rw [countBelow_zero]
      cases status <;> rfl
  obtain ⟨report, read, dumped⟩ := readDrivers_total (P := fun i report => Dumped state i report)
    fits initially fun _ _ _ dumped => dumped.driver
  exact ⟨report, by rw [dumpDat, read]; rfl, dumped⟩

/-! ## The screen -/

theorem screenRows_eq (fits : state.driverCount.toNat ≤ maxDrivers) :
    screenRows state = some (linesBelow screenRow (min 10 state.driverCount.toNat) state) := by
  have keeps : ∀ (slot : Fin maxDrivers) (rows : List ScreenRow),
      slot.val < min 10 state.driverCount.toNat → rows = linesBelow screenRow slot.val state →
        printRow slot (state.drivers slot) rows =
          linesBelow screenRow (slot.val + 1) state := by
    rintro slot _ _ rfl
    exact (linesBelow_succ screenRow slot state).symm
  obtain ⟨_, read, rfl⟩ :=
    readDrivers_total (P := fun i rows => rows = linesBelow screenRow i state)
      (Nat.le_trans (Nat.min_le_right 10 _) fits) rfl keeps
  exact read

/-! ## Agreement -/

theorem countBelow_congr {first second : Driver → Bool} {n : Nat}
    (agree : ∀ slot : Fin maxDrivers, slot.val < n →
      first (state.drivers slot) = second (state.drivers slot)) :
    countBelow first n state = countBelow second n state := by
  rw [countBelow, countBelow]
  refine congrArg Finset.card (Finset.filter_congr fun slot _ => ?_)
  constructor
  · rintro ⟨below, holds⟩
    exact ⟨below, agree slot below ▸ holds⟩
  · rintro ⟨below, holds⟩
    exact ⟨below, (agree slot below).symm ▸ holds⟩

/-- Every driver has one status in the report. -/
theorem countBelow_statuses (state : SharedState) {n : Nat} (fits : n ≤ maxDrivers) :
    countBelow (fun d => decide (dumpStatus d = .available)) n state +
      countBelow (fun d => decide (dumpStatus d = .refueling)) n state +
      countBelow (fun d => decide (dumpStatus d = .busy)) n state = n := by
  induction n with
  | zero => simp
  | succ n ih =>
      have before := ih (Nat.le_of_succ_le fits)
      have step := fun status => countBelow_succ (fun d => decide (dumpStatus d = status))
        ⟨n, fits⟩ state
      simp only at step
      rw [step, step, step]
      cases dumpStatus (state.drivers ⟨n, fits⟩) <;> simp <;> omega

/-- The flags of a represented driver, as every view reads them. -/
theorem Represents.views {d : Driver} {l : Lifecycle} (represents : Represents d l) :
    (decide (dumpStatus d = .available) = d.isAvailable ∧
      decide (dumpStatus d = .refueling) = d.isRefueling ∧
      decide (dumpStatus d = .busy) = d.hasTarget ∧ busy d = d.hasTarget) ∧
      screenStatus d ≠ .busy := by
  rw [dumpStatus, busy, screenStatus, represents.isAvailable, represents.isRefueling,
    represents.hasTarget]
  cases l.mode <;> decide

/-- The bar of a tank shows its level. -/
theorem count_fuelBar {fuel : Int} (nonneg : 0 ≤ fuel) (most : fuel ≤ 10) :
    ((fuelBar fuel).count '#' : Int) = fuel := by
  obtain ⟨level, rfl⟩ := Int.eq_ofNat_of_zero_le nonneg
  have small : level < 11 := by omega
  interval_cases level <;> rfl

/-- A row of the screen is marked busy for the flags that no mode has. -/
theorem screenStatus_busy_iff (d : Driver) :
    screenStatus d = .busy ↔
      d.hasTarget = false ∧ d.isRefueling = false ∧ d.isAvailable = false := by
  rw [screenStatus]
  cases d.hasTarget <;> cases d.isRefueling <;> cases d.isAvailable <;> decide

/-- What a row of the screen shows of a record. -/
structure RowShows (live : Live) (slot : Fin maxDrivers) : Prop where
  busy : screenStatus (live.shared.drivers slot) = .busy ↔ HalfDone live slot
  nonneg : 0 ≤ (live.shared.drivers slot).fuel
  most : (live.shared.drivers slot).fuel ≤ 10

/-- A record that the holder of the mutex has not touched. -/
theorem rowShows_untouched {released : SharedState} (reachable : Reachable secureServer released)
    (active : released.Active slot)
    (same : live.shared.drivers slot = released.drivers slot) (whole : ¬ HalfDone live slot) :
    RowShows live slot := by
  obtain ⟨l, represents⟩ := reachable_represents reachable slot active
  refine ⟨iff_of_false ?_ whole, ?_, ?_⟩
  · rw [same]
    exact represents.views.2
  · rw [same, represents.fuel]
    exact l.fuel_nonneg
  · rw [same, represents.fuel]
    exact l.fuel_le

/-- The rows in the middle of a dispatch. -/
theorem rowShows_dispatch {released : SharedState} (reachable : Reachable secureServer released)
    {isVip : Bool} {chosen : Fin maxDrivers}
    (selected : selectDriver isVip released = some (some chosen)) (draws : TargetDraws) {k : Nat}
    (some_ : k ≤ 9) (active : released.Active slot) :
    RowShows ⟨storeAll chosen released ((dispatchWrites isVip draws).take k),
      ((dispatchWrites isVip draws).map (.dispatch chosen)).drop k⟩ slot := by
  generalize half : (⟨storeAll chosen released ((dispatchWrites isVip draws).take k),
    ((dispatchWrites isVip draws).map (.dispatch chosen)).drop k⟩ : Live) = live
  have shared : live.shared = storeAll chosen released ((dispatchWrites isVip draws).take k) := by
    rw [← half]
  have holds : HalfDone live slot ↔ slot = chosen ∧ 0 < k ∧ k < 4 := by
    rw [← half]
    exact halfDone_dispatch some_ isVip draws _
  by_cases same : slot = chosen
  · subst same
    obtain ⟨available, target, refueling, fuel⟩ :=
      storeAll_take slot released some_ isVip draws
    obtain ⟨_, able⟩ := selectDriver_sound selected
    simp only [eligible, Bool.and_eq_true, decide_eq_true_iff] at able
    obtain ⟨⟨free, _⟩, fuelled⟩ := able
    obtain ⟨l, represents⟩ := reachable_represents reachable slot active
    have idle : l.mode = .available := represents.mode_available.mp free
    obtain ⟨_, outside, untargeted⟩ := represents.flags idle
    have most : (released.drivers slot).fuel ≤ 10 := represents.fuel ▸ l.fuel_le
    rw [← shared] at available target refueling fuel
    refine ⟨?_, ?_, ?_⟩
    · rw [screenStatus_busy_iff, holds, available, target, refueling, free, outside, untargeted]
      simp
      omega
    · rw [fuel]
      split <;> omega
    · rw [fuel]
      split <;> omega
  · apply rowShows_untouched reachable active
    · rw [shared]
      exact (storeAll_frame _ _ _).2 slot same
    · rw [holds]
      exact fun both => same both.1

/-- The rows in the middle of a join; the record was unused before. -/
theorem rowShows_join {released : SharedState} (reachable : Reachable secureServer released)
    {joined : Fin maxDrivers} (room : released.driverCount = joined.val) (driverId : UInt32)
    {k : Nat} (some_ : k ≤ 4)
    (active : (storeLive released ((joinWrites joined driverId).take k)).Active slot) :
    RowShows ⟨storeLive released ((joinWrites joined driverId).take k),
      (joinWrites joined driverId).drop k⟩ slot := by
  generalize half : (⟨storeLive released ((joinWrites joined driverId).take k),
    (joinWrites joined driverId).drop k⟩ : Live) = live
  have shared : live.shared = storeLive released ((joinWrites joined driverId).take k) := by
    rw [← half]
  have holds : HalfDone live slot ↔ slot = joined ∧ k < 3 := by
    rw [← half]
    exact halfDone_join some_ driverId _
  obtain ⟨count, others, available, target, refueling, fuel⟩ :=
    storeLive_take joined released some_ driverId
  rw [← shared] at count others available target refueling fuel active
  rw [SharedState.Active, count, room] at active
  by_cases same : slot = joined
  · subst same
    have unused : released.drivers slot = Driver.zeroed := by
      apply (reachable_wellFormed reachable).unused
      rw [SharedState.Active, room]
      exact Int.lt_irrefl _
    rw [unused] at available target refueling fuel
    refine ⟨?_, ?_, ?_⟩
    · rw [screenStatus_busy_iff, holds, available, target, refueling]
      simp [Driver.zeroed]
    · rw [fuel]
      split <;> decide
    · rw [fuel]
      split <;> decide
  · have earlier : released.Active slot := by
      rw [SharedState.Active, room]
      have distinct : slot.val ≠ joined.val := fun equal => same (Fin.ext equal)
      split at active <;> omega
    apply rowShows_untouched reachable earlier (others slot same)
    rw [holds]
    exact fun both => same both.1

theorem reachable_rowShows (reachable : Reachable liveServer live)
    (active : live.shared.Active slot) : RowShows live slot := by
  cases reachable_between reachable with
  | free shared known =>
      apply rowShows_untouched known active rfl
      simp [HalfDone]
  | held released written pending known opens =>
      have progress := opens.progress
      generalize (⟨storeLive released written, pending⟩ : Live) = live at progress active
      cases progress with
      | dispatch clientId draws chosen k some_ selected =>
          rw [SharedState.Active, (storeAll_frame _ _ _).1] at active
          exact rowShows_dispatch known selected draws some_ active
      | join driverId joined k some_ room => exact rowShows_join known room driverId some_ active

/-! ## Agreement at the releases -/

/-- What the pricing service and the report make of a state, with the number of
drivers in each mode. -/
structure ViewsAgree (state : SharedState) (available refueling navigating : Nat) : Prop where
  partition : (available + refueling + navigating : Int) = state.driverCount
  pricing : calculateSurgePrice state =
    some (if 7 * state.driverCount < 10 * navigating then (200, 1) else (100, 0))
  report : ∃ report, dumpDat (.whole state) = some (.report report) ∧
    report.rows = linesBelow dumpRow (min 5 state.driverCount.toNat) state ∧
    report.availableDrivers = available ∧ report.refuelingDrivers = refueling ∧
    report.busyDrivers = navigating

/-- In a state that the server can reach both tell the drivers with a target by
other flags, and count the same ones. -/
theorem viewsAgree_of_reachable (reachable : Reachable secureServer state) :
    ViewsAgree state (countActive Driver.isAvailable state) (countActive Driver.isRefueling state)
      (countActive Driver.hasTarget state) := by
  have wellFormed := reachable_wellFormed reachable
  have nonneg := wellFormed.nonneg
  have table := wellFormed.fits
  have fits : state.driverCount.toNat ≤ maxDrivers := by omega
  have represented : ∀ slot : Fin maxDrivers, slot.val < state.driverCount.toNat →
      ∃ l, Represents (state.drivers slot) l := by
    intro slot below
    have active : state.Active slot := by
      rw [SharedState.Active]
      omega
    exact reachable_represents reachable slot active
  have available : countBelow (fun d => decide (dumpStatus d = .available))
      state.driverCount.toNat state = countActive Driver.isAvailable state :=
    countBelow_congr fun slot below => (represented slot below).choose_spec.views.1.1
  have refueling : countBelow (fun d => decide (dumpStatus d = .refueling))
      state.driverCount.toNat state = countActive Driver.isRefueling state :=
    countBelow_congr fun slot below => (represented slot below).choose_spec.views.1.2.1
  have navigating : countBelow (fun d => decide (dumpStatus d = .busy))
      state.driverCount.toNat state = countActive Driver.hasTarget state :=
    countBelow_congr fun slot below => (represented slot below).choose_spec.views.1.2.2.1
  have working : countActive busy state = countActive Driver.hasTarget state :=
    countBelow_congr fun slot below => (represented slot below).choose_spec.views.1.2.2.2
  constructor
  · have all := countBelow_statuses state fits
    omega
  · rw [calculateSurgePrice_eq nonneg table, working]
  · obtain ⟨report, dumped, holds⟩ := dumpDat_whole fits
    exact ⟨report, dumped, holds.rows, (holds.counters .available).trans available,
      (holds.counters .refueling).trans refueling, (holds.counters .busy).trans navigating⟩

/-- What the screen shows, drawn from the live records: the first ten drivers, one
row each, marked busy exactly in the middle of a dispatch or a join of this very
driver, with as many marks in the bar as there is fuel in the tank. -/
structure ScreenShows (live : Live) : Prop where
  rows : screenRows live.shared =
    some (linesBelow screenRow (min 10 live.shared.driverCount.toNat) live.shared)
  busy : ∀ slot, live.shared.Active slot →
    ((screenRow slot (live.shared.drivers slot)).status = .busy ↔ HalfDone live slot)
  fuel : ∀ slot, live.shared.Active slot →
    ((screenRow slot (live.shared.drivers slot)).fuelBar.count '#' : Int) =
      (live.shared.drivers slot).fuel

/-- The updates of a dispatch for client 5 after the first. -/
def laterWrites : List LiveWrite :=
  ((dispatchWrites (isVipClient 5) ⟨0, 0⟩).map (.dispatch 0)).drop 1

/-- A dispatch to the only driver, after its first update. -/
def halfDispatched : Live :=
  ⟨storeLive loneDriver [.dispatch 0 .isAvailable], laterWrites⟩

theorem join_loneDriver : storeLive SharedState.zeroed (joinWrites 0 7) = loneDriver := by
  rw [storeLive_joinWrites]
  rfl

theorem dispatch_servedRide : storeLive halfDispatched.shared laterWrites = servedRide := by
  have whole : [.dispatch 0 .isAvailable] ++ laterWrites =
      (dispatchWrites (isVipClient 5) ⟨0, 0⟩).map (.dispatch 0) := rfl
  rw [halfDispatched, ← storeLive_append, whole, storeLive_dispatch, storeAll_dispatchWrites]
  rfl

/-- The server comes by that state to the one after the ride. -/
theorem halfDispatched_reachable :
    Reachable liveServer halfDispatched ∧ Reachable liveServer ⟨servedRide, []⟩ := by
  have start : Run liveServer [] ⟨SharedState.zeroed, []⟩ := Run.start ⟨zeroed_initial, rfl⟩
  have joins : Section SharedState.zeroed (joinWrites 0 7) := .join 7 0 rfl
  have dispatches : Section loneDriver ([.dispatch 0 .isAvailable] ++ laterWrites) :=
    .dispatch 5 ⟨0, 0⟩ 0 (loneDriver_selected 5)
  obtain ⟨_, joined⟩ := leads_writes SharedState.zeroed (joinWrites 0 7) []
  obtain ⟨_, half⟩ := leads_writes loneDriver [.dispatch 0 .isAvailable] laterWrites
  obtain ⟨_, rest⟩ := leads_writes halfDispatched.shared laterWrites []
  rw [List.append_nil] at joined rest
  rw [join_loneDriver] at joined
  rw [dispatch_servedRide] at rest
  have run := (((start.snoc (.enter _ joins)).append joined).snoc (.enter _ dispatches)).append half
  exact ⟨run.reachable, (run.append rest).reachable⟩

end RideHailing.Fleet
