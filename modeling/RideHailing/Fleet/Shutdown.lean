import RideHailing.Fleet.Ledger
import RideHailing.Fleet.Lifecycle
import RideHailing.Server.Persistence
import RideHailing.Session.Workers

/-!
# Shutdown in the middle of a dispatch

`handle_ride_request_logic` updates the shared memory field by field while it
holds the mutex.  `handle_sigint` kills the workers and saves the memory without
the mutex.  Here the updates are single steps of a worker, and workers may be
killed between any two of them; the other critical sections are one step each.
What is saved is a state at a release of the mutex as long as no worker is
killed between its first update and its release.
-/

namespace RideHailing.Fleet

open RideHailing.Common
open RideHailing.Server
open RideHailing.Session
open RideHailing.Transition

/-! ## The updates of a dispatch -/

/-- One update of `handle_ride_request_logic`, with what it stores. -/
inductive FieldWrite
  | isAvailable
  | ridesCount
  | fuel
  | hasTarget
  | targetLat (value : ℚ)
  | targetLon (value : ℚ)
  | totalRequestsHandled
  | totalSuccessRequests
  | totalRevenue (amount : Int)

/-- The effect of an update on the shared state, for the selected slot. -/
def FieldWrite.store (slot : Fin maxDrivers) (state : SharedState) : FieldWrite → SharedState
  | .isAvailable => state.setDriver slot { state.drivers slot with isAvailable := false }
  | .ridesCount =>
      state.setDriver slot
        { state.drivers slot with
          ridesCount := Arithmetic.wrap32 ((state.drivers slot).ridesCount + 1) }
  | .fuel =>
      state.setDriver slot { state.drivers slot with fuel := (state.drivers slot).fuel - 1 }
  | .hasTarget => state.setDriver slot { state.drivers slot with hasTarget := true }
  | .targetLat value => state.setDriver slot { state.drivers slot with targetLat := value }
  | .targetLon value => state.setDriver slot { state.drivers slot with targetLon := value }
  | .totalRequestsHandled =>
      { state with totalRequestsHandled := state.totalRequestsHandled + 1 }
  | .totalSuccessRequests =>
      { state with totalSuccessRequests := state.totalSuccessRequests + 1 }
  | .totalRevenue amount =>
      { state with totalRevenue := Arithmetic.wrap64 (state.totalRevenue + amount) }

/-- The updates of a dispatch in the order of the source. -/
def dispatchWrites (isVip : Bool) (draws : TargetDraws) : List FieldWrite :=
  [.isAvailable, .ridesCount, .fuel, .hasTarget,
    .targetLat (baseLat + ((draws.lat % 90 : Nat) : ℚ) * 0.0001),
    .targetLon (baseLon + ((draws.lon % 180 : Nat) : ℚ) * 0.0001),
    .totalRequestsHandled, .totalSuccessRequests, .totalRevenue (fare isVip)]

/-- The state after some updates. -/
def storeAll (slot : Fin maxDrivers) (state : SharedState) (writes : List FieldWrite) :
    SharedState :=
  writes.foldl (FieldWrite.store slot) state

@[simp]
theorem storeAll_nil (slot : Fin maxDrivers) (state : SharedState) :
    storeAll slot state [] = state :=
  rfl

theorem storeAll_snoc (slot : Fin maxDrivers) (state : SharedState) (writes : List FieldWrite)
    (write : FieldWrite) :
    storeAll slot state (writes ++ [write]) = write.store slot (storeAll slot state writes) := by
  rw [storeAll, List.foldl_append]
  rfl

/-- All updates together are the dispatch. -/
theorem storeAll_dispatchWrites (slot : Fin maxDrivers) (isVip : Bool) (draws : TargetDraws)
    (state : SharedState) :
    storeAll slot state (dispatchWrites isVip draws) = dispatchTo slot isVip draws state := by
  simp [storeAll, dispatchWrites, FieldWrite.store, SharedState.setDriver, dispatchTo, assignRide]

/-! ## The processes -/

/-- A worker in the critical section of a successful request: the updates it has
made and those to come. -/
structure Holder where
  worker : Fin workerCount
  clientId : Int
  slot : Fin maxDrivers
  written : List FieldWrite
  remaining : List FieldWrite

/-- The shared memory with the holder of its mutex, the processes that use it,
and the save file.  The states at the releases of the mutex and the critical
sections completed so far are recorded. -/
structure Processes where
  shared : SharedState
  holder : Option Holder
  alive : Fin workerCount → Bool
  stopping : Bool
  exited : Bool
  file : SaveFile
  releases : List SharedState
  history : List Event

/-- A step of a worker, of the monitor thread or of `handle_sigint`. -/
inductive ProcessAction
  | section_ (event : Event)
  | enter (worker : Fin workerCount)
  | write
  | release
  | signal
  | kill (victims : Fin workerCount → Bool)
  | save

/-- The processes after a critical section that is one step. -/
def Processes.complete (processes : Processes) (event : Event) (next : SharedState) :
    Processes :=
  { processes with
    shared := next
    releases := processes.releases ++ [next]
    history := processes.history ++ [event] }

/-- The steps.  Only a holder that is alive goes on; a mutex whose holder was
killed is never released. -/
inductive ProcessStep : Processes → ProcessAction → Processes → Prop
  | section_ {processes : Processes} {event : Event} {next : SharedState}
      (running : processes.exited = false) (free : processes.holder = none)
      (single : event.ride = none) (step : CriticalSection processes.shared event next) :
      ProcessStep processes (.section_ event) (processes.complete event next)
  | enter {processes : Processes} {worker : Fin workerCount} {clientId : Int}
      {slot : Fin maxDrivers} (draws : TargetDraws)
      (running : processes.exited = false) (free : processes.holder = none)
      (alive : processes.alive worker = true)
      (selected : selectDriver (isVipClient clientId) processes.shared = some (some slot)) :
      ProcessStep processes (.enter worker)
        { processes with
          holder := some
            { worker, clientId, slot, written := []
              remaining := dispatchWrites (isVipClient clientId) draws } }
  | write {processes : Processes} {holder : Holder} {write : FieldWrite} {rest : List FieldWrite}
      (running : processes.exited = false) (holds : processes.holder = some holder)
      (alive : processes.alive holder.worker = true) (next : holder.remaining = write :: rest) :
      ProcessStep processes .write
        { processes with
          shared := write.store holder.slot processes.shared
          holder := some
            { holder with written := holder.written ++ [write], remaining := rest } }
  | release {processes : Processes} {holder : Holder}
      (running : processes.exited = false) (holds : processes.holder = some holder)
      (alive : processes.alive holder.worker = true) (finished : holder.remaining = []) :
      ProcessStep processes .release
        { processes.complete (.rideRequest holder.clientId (some holder.slot)) processes.shared with
          holder := none }
  | signal {processes : Processes} (running : processes.exited = false) :
      ProcessStep processes .signal { processes with stopping := true }
  | kill {processes : Processes} {victims : Fin workerCount → Bool}
      (running : processes.exited = false) (stopping : processes.stopping = true) :
      ProcessStep processes (.kill victims)
        { processes with alive := fun worker => processes.alive worker && !victims worker }
  | save {processes : Processes} (running : processes.exited = false)
      (stopping : processes.stopping = true) (dead : ∀ worker, processes.alive worker = false) :
      ProcessStep processes .save
        { processes with
          file := saveState .complete processes.shared processes.file
          exited := true }

/-- The server with its workers, from its start to its exit. -/
def shutdownServer : System Processes ProcessAction where
  initial processes :=
    secureServer.initial processes.shared ∧ processes.holder = none ∧
      (∀ worker, processes.alive worker = true) ∧ processes.stopping = false ∧
      processes.exited = false ∧ processes.releases = [processes.shared] ∧
      processes.history = []
  step := ProcessStep

/-! ## Between two releases -/

variable {processes next : Processes} {action : ProcessAction} {trace : List ProcessAction}
  {released : SharedState}

/-- The shared memory is what the last release left, with the updates that the
holder of the mutex has made since. -/
structure SinceRelease (processes : Processes) (released : SharedState) : Prop where
  recorded : released ∈ processes.releases
  run : Run secureServer processes.history released
  free : processes.holder = none → processes.shared = released
  held : ∀ holder, processes.holder = some holder →
    processes.shared = storeAll holder.slot released holder.written ∧
      ∃ draws,
        holder.written ++ holder.remaining =
          dispatchWrites (isVipClient holder.clientId) draws ∧
        selectDriver (isVipClient holder.clientId) released = some (some holder.slot)

theorem sinceRelease_initial (initial : shutdownServer.initial processes) :
    SinceRelease processes processes.shared := by
  obtain ⟨started, free, _, _, _, releases, history⟩ := initial
  constructor
  · rw [releases]
    exact List.mem_singleton_self _
  · rw [history]
    exact Run.start started
  · exact fun _ => rfl
  · intro holder holds
    rw [free] at holds
    cases holds

/-- A completed critical section is a release of its own. -/
theorem SinceRelease.complete (since : SinceRelease processes released) {event : Event}
    {state : SharedState} (step : CriticalSection released event state)
    (free : next.holder = none) (shared : next.shared = state)
    (releases : next.releases = processes.releases ++ [state])
    (history : next.history = processes.history ++ [event]) : SinceRelease next state := by
  constructor
  · rw [releases]
    exact List.mem_append_right _ (List.mem_singleton_self _)
  · rw [history]
    exact since.run.snoc step
  · exact fun _ => shared
  · intro holder holds
    rw [free] at holds
    cases holds

/-- The dispatch of a holder that has made all its updates is the critical
section of its request. -/
theorem SinceRelease.dispatched (since : SinceRelease processes released) {holder : Holder}
    (holds : processes.holder = some holder) (finished : holder.remaining = []) :
    CriticalSection released (.rideRequest holder.clientId (some holder.slot))
      processes.shared := by
  obtain ⟨shared, draws, writes, selected⟩ := since.held holder holds
  rw [finished, List.append_nil] at writes
  rw [shared, writes, storeAll_dispatchWrites]
  refine ⟨draws, some (holder.slot, baseDistance (released.drivers holder.slot)), ?_, rfl⟩
  rw [rideCriticalSection, selected]
  rfl

/-- Every step starts from the last release or makes a new one. -/
theorem SinceRelease.step (since : SinceRelease processes released)
    (step : ProcessStep processes action next) : ∃ later, SinceRelease next later := by
  cases step with
  | section_ running free single step =>
      rw [since.free free] at step
      exact ⟨_, since.complete step free rfl rfl rfl⟩
  | enter draws running free alive selected =>
      have shared := since.free free
      refine ⟨released, since.recorded, since.run, nofun, ?_⟩
      rintro _ ⟨⟩
      rw [shared] at selected
      exact ⟨shared, draws, rfl, selected⟩
  | @write holder write rest running holds alive next =>
      obtain ⟨shared, draws, writes, selected⟩ := since.held holder holds
      refine ⟨released, since.recorded, since.run, nofun, ?_⟩
      rintro _ ⟨⟩
      refine ⟨?_, draws, ?_, selected⟩
      · rw [storeAll_snoc, shared]
      · rw [← writes, next, List.append_assoc]
        rfl
  | release running holds alive finished =>
      exact ⟨_, since.complete (since.dispatched holds finished) rfl rfl rfl rfl⟩
  | signal running => exact ⟨released, since.recorded, since.run, since.free, since.held⟩
  | kill running stopping => exact ⟨released, since.recorded, since.run, since.free, since.held⟩
  | save running stopping dead =>
      exact ⟨released, since.recorded, since.run, since.free, since.held⟩

/-! ## What is saved -/

/-- The saved state is one at a release of the mutex, its counters agree with
each other and with the requests served, and every driver is in some mode. -/
structure Consistent (processes : Processes) (saved : SharedState) : Prop where
  released : saved ∈ processes.releases
  counted : saved.totalSuccessRequests.toNat = (rides processes.history).length
  perDriver : ∑ slot with saved.Active slot, (saved.drivers slot).ridesCount =
    saved.totalSuccessRequests.toNat
  revenue : saved.totalRevenue =
    100 * (rides processes.history).length + 50 * (vipRides processes.history).length
  modes : ∀ slot, saved.Active slot →
    ¬ ((saved.drivers slot).isAvailable = false ∧ (saved.drivers slot).hasTarget = false ∧
      (saved.drivers slot).isRefueling = false)

/-- No worker is killed between its first update and its release of the mutex,
and the ride counters have not overflowed when the state is saved. -/
def KillsOutside (processes : Processes) : ProcessAction → Prop
  | .kill victims =>
      ∀ holder, processes.holder = some holder → victims holder.worker = true →
        holder.written = []
  | .save => (rides processes.history).length < 2 ^ 31
  | _ => True

theorem SinceRelease.consistent (since : SinceRelease processes released)
    (short : (rides processes.history).length < 2 ^ 31) : Consistent processes released := by
  obtain ⟨counted, perDriver, revenue, _⟩ := (run_balanced since.run).exact short
  refine ⟨since.recorded, counted, perDriver, revenue, ?_⟩
  rintro slot active ⟨unavailable, untargeted, outside⟩
  obtain ⟨_, represents⟩ := reachable_represents since.run.reachable slot active
  have oneMode := represents.exactlyOneMode
  rw [ExactlyOneMode, unavailable, untargeted, outside] at oneMode
  exact absurd oneMode (by decide)

/-- The invariant of the runs without a kill inside a dispatch. -/
structure Orderly (processes : Processes) : Prop where
  since : ∃ released, SinceRelease processes released
  dead : ∀ holder, processes.holder = some holder →
    processes.alive holder.worker = true ∨ holder.written = []
  saved : processes.exited = true →
    ∃ saved, processes.file = .whole saved ∧ Consistent processes saved

/-- When all workers are dead, none has left a dispatch unfinished. -/
theorem Orderly.settled (orderly : Orderly processes)
    (dead : ∀ worker, processes.alive worker = false) :
    SinceRelease processes processes.shared := by
  obtain ⟨released, since⟩ := orderly.since
  have shared : processes.shared = released := by
    cases holds : processes.holder with
    | none => exact since.free holds
    | some holder =>
        have untouched : holder.written = [] := by
          rcases orderly.dead holder holds with alive | untouched
          · rw [dead] at alive
            cases alive
          · exact untouched
        obtain ⟨stored, _⟩ := since.held holder holds
        rw [stored, untouched, storeAll_nil]
  rw [shared]
  exact since

theorem Orderly.step (orderly : Orderly processes) (step : ProcessStep processes action next)
    (outside : KillsOutside processes action) : Orderly next := by
  obtain ⟨released, since⟩ := orderly.since
  have running : ∀ {processes : Processes}, processes.exited = false →
      processes.exited = true →
        ∃ saved, processes.file = .whole saved ∧ Consistent processes saved := by
    intro processes running exited
    rw [running] at exited
    cases exited
  refine ⟨since.step step, ?_, ?_⟩
  · cases step with
    | section_ _ free _ _ =>
        intro holder holds
        have none_ : processes.holder = some holder := holds
        rw [free] at none_
        cases none_
    | enter draws _ _ alive _ =>
        rintro _ ⟨⟩
        exact Or.inl alive
    | write _ _ alive _ =>
        rintro _ ⟨⟩
        exact Or.inl alive
    | release => nofun
    | signal => exact orderly.dead
    | @kill victims _ _ =>
        intro holder holds
        rcases orderly.dead holder holds with alive | untouched
        · cases victim : victims holder.worker with
          | false =>
              left
              simp only [alive, victim, Bool.not_false, Bool.and_true]
          | true => exact Or.inr (outside holder holds victim)
        · exact Or.inr untouched
    | save => exact orderly.dead
  · cases step with
    | section_ stays _ _ _ => exact running stays
    | enter _ stays _ _ _ => exact running stays
    | write stays _ _ _ => exact running stays
    | release stays _ _ _ => exact running stays
    | signal stays => exact running stays
    | kill stays _ => exact running stays
    | save _ _ dead =>
        intro _
        have consistent := (orderly.settled dead).consistent outside
        exact ⟨processes.shared, rfl, consistent.released, consistent.counted,
          consistent.perDriver, consistent.revenue, consistent.modes⟩

/-- In every run in which no worker is killed between its first update and its
release of the mutex, the file holds a consistent state. -/
theorem shutdown_saves_consistent
    (run : Run (shutdownServer.restrict KillsOutside) trace processes)
    (exited : processes.exited = true) :
    ∃ saved, processes.file = .whole saved ∧ Consistent processes saved := by
  have orderly : Orderly processes := by
    apply run.invariant (P := fun _ processes => Orderly processes)
    · rintro processes initial
      refine ⟨⟨_, sinceRelease_initial initial⟩, ?_, ?_⟩
      · intro holder holds
        rw [initial.2.1] at holds
        cases holds
      · intro exited
        rw [initial.2.2.2.2.1] at exited
        cases exited
    · rintro _ before action after orderly ⟨step, outside⟩
      exact orderly.step step outside
  exact orderly.saved exited

/-! ## Two shutdowns -/

/-- The server without drivers, before its first connection. -/
def emptyServer : Processes where
  shared := SharedState.zeroed
  holder := none
  alive _ := true
  stopping := false
  exited := false
  file := .missing
  releases := [SharedState.zeroed]
  history := []

def firstWorker : Fin workerCount :=
  ⟨0, by decide⟩

/-- A worker that has selected the lone driver for client 5. -/
def selecting : Holder where
  worker := firstWorker
  clientId := 5
  slot := 0
  written := []
  remaining := dispatchWrites (isVipClient 5) ⟨0, 0⟩

/-- The lone driver has joined and a worker has entered its critical section. -/
def dispatching : Processes :=
  { emptyServer.complete (.driverJoin 7) loneDriver with holder := some selecting }

theorem dispatching_run {condition : Processes → ProcessAction → Prop}
    (joins : condition emptyServer (.section_ (.driverJoin 7)))
    (enters : condition (emptyServer.complete (.driverJoin 7) loneDriver) (.enter firstWorker)) :
    Run (shutdownServer.restrict condition)
      [.section_ (.driverJoin 7), .enter firstWorker] dispatching := by
  have initial : shutdownServer.initial emptyServer :=
    ⟨zeroed_initial, rfl, fun _ => rfl, rfl, rfl, rfl, rfl⟩
  have joined : ProcessStep emptyServer (.section_ (.driverJoin 7))
      (emptyServer.complete (.driverJoin 7) loneDriver) :=
    .section_ rfl rfl rfl (rfl : processDriverJoin 7 SharedState.zeroed = some loneDriver)
  have entered : ProcessStep (emptyServer.complete (.driverJoin 7) loneDriver) (.enter firstWorker)
      dispatching := .enter ⟨0, 0⟩ rfl rfl rfl (loneDriver_selected 5)
  have start : Run (shutdownServer.restrict condition) [] emptyServer := .start initial
  exact (start.snoc ⟨joined, joins⟩).snoc ⟨entered, enters⟩

/-- The signal, the death of all workers and the save. -/
def shutDown (processes : Processes) : Processes :=
  { processes with
    stopping := true
    alive := fun worker => processes.alive worker && !true
    file := saveState .complete processes.shared processes.file
    exited := true }

theorem shutDown_run {condition : Processes → ProcessAction → Prop}
    (run : Run (shutdownServer.restrict condition) trace processes)
    (running : processes.exited = false) (signals : condition processes .signal)
    (kills : condition { processes with stopping := true } (.kill fun _ => true))
    (saves : condition
      { processes with
        stopping := true, alive := fun worker => processes.alive worker && !true } .save) :
    Run (shutdownServer.restrict condition) (trace ++ [.signal] ++ [.kill fun _ => true] ++ [.save])
      (shutDown processes) := by
  have signalled : ProcessStep processes .signal { processes with stopping := true } :=
    .signal running
  have killed : ProcessStep { processes with stopping := true } (.kill fun _ => true)
      { processes with
        stopping := true, alive := fun worker => processes.alive worker && !true } :=
    .kill running rfl
  have saved : ProcessStep
      { processes with
        stopping := true, alive := fun worker => processes.alive worker && !true } .save
      (shutDown processes) := .save running rfl fun worker => Bool.and_false _
  exact ((run.snoc ⟨signalled, signals⟩).snoc ⟨killed, kills⟩).snoc ⟨saved, saves⟩

/-- A worker that is killed before its first update. -/
theorem shutdown_saves_consistent_dispatching :
    ∃ saved, (shutDown dispatching).file = .whole saved ∧
      Consistent (shutDown dispatching) saved := by
  have untouched : ∀ holder, dispatching.holder = some holder → holder.written = [] := by
    rintro _ ⟨⟩
    rfl
  have short : (rides dispatching.history).length < 2 ^ 31 := by decide
  have start : Run (shutdownServer.restrict KillsOutside) _ dispatching :=
    dispatching_run trivial trivial
  have run := shutDown_run start rfl trivial (fun holder holds _ => untouched holder holds) short
  exact shutdown_saves_consistent run rfl

/-- The same worker after its first update. -/
def interrupted : Processes :=
  { dispatching with
    shared := FieldWrite.isAvailable.store 0 loneDriver
    holder := some
      { selecting with
        written := [.isAvailable]
        remaining := (dispatchWrites (isVipClient 5) ⟨0, 0⟩).tail } }

/-- Killed after its first update, a worker leaves the driver in no mode at all
in the save file. -/
theorem shutdown_saves_torn :
    ∃ trace, Run shutdownServer trace (shutDown interrupted) ∧
      (shutDown interrupted).exited = true ∧
      ∃ saved, (shutDown interrupted).file = .whole saved ∧ saved.Active 0 ∧
        (saved.drivers 0).isAvailable = false ∧ (saved.drivers 0).hasTarget = false ∧
        (saved.drivers 0).isRefueling = false ∧ ¬ Consistent (shutDown interrupted) saved := by
  have written : ProcessStep dispatching .write interrupted :=
    @ProcessStep.write dispatching selecting .isAvailable _ rfl rfl rfl rfl
  have run : Run (shutdownServer.restrict fun _ _ => True) _ interrupted :=
    (dispatching_run trivial trivial).snoc ⟨written, trivial⟩
  refine ⟨_, (shutDown_run run rfl trivial trivial trivial).of_restrict, rfl, _, rfl, by decide,
    rfl, rfl, rfl, ?_⟩
  intro consistent
  exact consistent.modes 0 (by decide) ⟨rfl, rfl, rfl⟩

end RideHailing.Fleet
