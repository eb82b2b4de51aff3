import RideHailing.Client.Stress
import Mathlib.Algebra.BigOperators.Fin
import Mathlib.Algebra.Order.BigOperators.Group.Finset
import Mathlib.Algebra.Order.Field.Rat
import Mathlib.Data.Fintype.Fin

/-!
# Every schedule of the stress client

Whatever the requests return and however the threads are scheduled, the
statistics count every request once, every thread comes to an end, and the
table then shows for each client what its own requests returned.
-/

namespace RideHailing.Client

open RideHailing.Loop
open RideHailing.Transition

variable {n requestsPerThread : Nat} {shared next : StressState n}
  {phase after : ThreadPhase} {action : ThreadAction}

/-! ## What a run has recorded -/

abbrev StressEvent (n : Nat) :=
  Action (Fin n) ThreadAction Empty

/-- A thread's section under the mutex, with what it records. -/
def ThreadAction.recording : ThreadAction → Option (Int × ℚ)
  | .recorded result latency => some (result, latency)
  | _ => none

/-- All recorded requests, in the order of the mutex. -/
def recordings (trace : List (StressEvent n)) : List (Int × ℚ) :=
  trace.filterMap fun
    | .own _ action => action.recording
    | .outside label => label.elim

/-- The return values of one thread's requests, in their order. -/
def resultsOf (thread : Fin n) (trace : List (StressEvent n)) : List Int :=
  trace.filterMap fun
    | .own mover action => if mover = thread then action.recording.map Prod.fst else none
    | .outside label => label.elim

theorem recordings_snoc (trace : List (StressEvent n)) (mover : Fin n) (action : ThreadAction) :
    recordings (trace ++ [.own mover action]) =
      recordings trace ++ action.recording.toList := by
  rw [recordings, List.filterMap_append]
  cases action <;> rfl

theorem resultsOf_snoc_self (trace : List (StressEvent n)) (mover : Fin n)
    (action : ThreadAction) :
    resultsOf mover (trace ++ [.own mover action]) =
      resultsOf mover trace ++ (action.recording.map Prod.fst).toList := by
  rw [resultsOf, List.filterMap_append]
  cases action <;> simp [resultsOf, ThreadAction.recording]

theorem resultsOf_snoc_other (trace : List (StressEvent n)) {thread mover : Fin n}
    (distinct : mover ≠ thread) (action : ThreadAction) :
    resultsOf thread (trace ++ [.own mover action]) = resultsOf thread trace := by
  rw [resultsOf, List.filterMap_append]
  simp [resultsOf, distinct]

/-- Every recorded request belongs to one thread. -/
theorem length_recordings (trace : List (StressEvent n)) :
    (recordings trace).length = ∑ thread, (resultsOf thread trace).length := by
  induction trace using List.reverseRecOn with
  | nil => simp [recordings, resultsOf]
  | append_singleton trace event ih =>
      cases event with
      | outside label => cases label
      | own mover action =>
          rw [← Finset.add_sum_erase _ _ (Finset.mem_univ mover)] at ih ⊢
          have others : ∑ thread ∈ Finset.univ.erase mover,
              (resultsOf thread (trace ++ [.own mover action])).length =
                ∑ thread ∈ Finset.univ.erase mover, (resultsOf thread trace).length := by
            refine Finset.sum_congr rfl fun thread member => ?_
            rw [resultsOf_snoc_other trace (Finset.ne_of_mem_erase member).symm]
          have own : (action.recording.map Prod.fst).toList.length =
              action.recording.toList.length := by
            cases action.recording with
            | none => rfl
            | some recorded => rfl
          rw [others, recordings_snoc, resultsOf_snoc_self, List.length_append, List.length_append,
            own, ih]
          omega

/-! ## The statistics -/

/-- What the statistics should be. -/
def tally (recorded : List (Int × ℚ)) : ClientStats where
  totalRequests := recorded.length
  successCount := recorded.countP fun request => request.1 = 0
  failCount := recorded.countP fun request => request.1 ≠ 0
  totalLatencyMs := ((recorded.filter fun request => request.1 = 0).map Prod.snd).sum

theorem record_tally (recorded : List (Int × ℚ)) (result : Int) (latency : ℚ) :
    (tally recorded).record result latency = tally (recorded ++ [(result, latency)]) := by
  by_cases success : result = 0
  · subst success
    simp [ClientStats.record, tally]
  · simp [ClientStats.record, tally, success]

/-- Every request is a success or a failure. -/
theorem tally_balance (recorded : List (Int × ℚ)) :
    (tally recorded).totalRequests =
      (tally recorded).successCount + (tally recorded).failCount := by
  have split := List.length_eq_countP_add_countP (fun request : Int × ℚ => decide (request.1 = 0))
    (l := recorded)
  simp only [tally, split, Nat.cast_add]
  simp

/-! ## The statuses -/

/-- The status that the first failure leaves. -/
def firstFailure (results : List Int) : ClientResultStatus :=
  match results.find? (· ≠ 0) with
  | none => .init
  | some result => if result = -2 then .failDos else .failNoDriver

/-- What the table should show for a client. -/
def finalStatus (results : List Int) : ClientResultStatus :=
  if 0 ∈ results then .success
  else if results.head? = some (-2) then .failDos
  else .failNoDriver

theorem reportResult_firstFailure (earlier : List Int) (result : Int) :
    reportResult result (firstFailure earlier) = firstFailure (earlier ++ [result]) := by
  rw [firstFailure, firstFailure, List.find?_append]
  cases found : earlier.find? (· ≠ 0) with
  | some first =>
      have failed : (if first = -2 then ClientResultStatus.failDos else .failNoDriver) ≠ .init := by
        split
        · decide
        · decide
      rw [Option.some_or]
      simp only [reportResult, if_neg failed, ite_self]
  | none =>
      by_cases success : result = 0
      · subst success
        rfl
      · simp [reportResult, success]

/-- Without a success the first failure is the first result. -/
theorem firstFailure_of_not_mem {results : List Int} (failed : 0 ∉ results) :
    firstFailure results = if results = [] then .init
      else if results.head? = some (-2) then .failDos else .failNoDriver := by
  cases results with
  | nil => rfl
  | cons first rest =>
      have nonzero : first ≠ 0 := fun zero => failed (zero ▸ List.mem_cons_self)
      simp [firstFailure, nonzero]

theorem concludeStatus_firstFailure (results : List Int) :
    concludeStatus (results.count 0) (firstFailure results) = finalStatus results := by
  rw [concludeStatus, finalStatus]
  by_cases succeeded : 0 ∈ results
  · rw [if_pos (List.count_pos_iff.mpr succeeded), if_pos succeeded]
  · rw [if_neg (fun positive => succeeded (List.count_pos_iff.mp positive)), if_neg succeeded,
      firstFailure_of_not_mem succeeded]
    cases results with
    | nil => rfl
    | cons first rest =>
        by_cases blocked : first = -2
        · simp [blocked]
        · simp [blocked]

theorem statusText_finalStatus (results : List Int) :
    statusText (finalStatus results) ≠ "❓ INCOMPLETE" := by
  rw [finalStatus]
  split
  · decide
  · split
    · decide
    · decide

/-! ## One thread beside the others -/

/-- How a thread's variables and its entry relate to what it has recorded. -/
inductive Follows (requestsPerThread : Nat) (clientId : Int) (results : List Int) :
    ClientStatusEntry → ThreadPhase → Prop
  | pending (entry : ClientStatusEntry) (nothing : results = []) :
      Follows requestsPerThread clientId results entry (.pending clientId)
  | looping (i : Nat) (within : i ≤ requestsPerThread) (few : results.length ≤ i) :
      Follows requestsPerThread clientId results ⟨clientId, firstFailure results⟩
        (.looping clientId i (results.count 0))
  | performed (i : Nat) (result : Int) (latency : ℚ) (more : i < requestsPerThread)
      (few : results.length ≤ i) :
      Follows requestsPerThread clientId results ⟨clientId, firstFailure results⟩
        (.performed clientId i (results.count 0) result latency)
  | reporting (i : Nat) (earlier : List Int) (result : Int) (more : i < requestsPerThread)
      (few : earlier.length ≤ i) (latest : results = earlier ++ [result]) :
      Follows requestsPerThread clientId results ⟨clientId, firstFailure earlier⟩
        (.reporting clientId i (results.count 0) result)
  | finished (few : results.length ≤ requestsPerThread) :
      Follows requestsPerThread clientId results ⟨clientId, finalStatus results⟩ .finished

theorem Follows.named {clientId other : Int} {results : List Int} {entry : ClientStatusEntry}
    (follows : Follows requestsPerThread clientId results entry (.pending other)) :
    other = clientId := by
  cases follows
  rfl

/-- A thread never records more requests than it may send. -/
theorem Follows.length_le {clientId : Int} {results : List Int} {entry : ClientStatusEntry}
    (follows : Follows requestsPerThread clientId results entry phase) :
    results.length ≤ requestsPerThread := by
  cases follows with
  | pending _ nothing =>
      rw [nothing]
      exact Nat.zero_le _
  | looping i within few => exact Nat.le_trans few within
  | performed i _ _ more few => exact Nat.le_trans few (Nat.le_of_lt more)
  | reporting i earlier _ more few latest =>
      rw [latest, List.length_append, List.length_singleton]
      exact Nat.le_trans (Nat.succ_le_succ few) more
  | finished few => exact few

theorem Follows.finished_entry {clientId : Int} {results : List Int} {entry : ClientStatusEntry}
    (follows : Follows requestsPerThread clientId results entry .finished) :
    entry = ⟨clientId, finalStatus results⟩ := by
  cases follows
  rfl

theorem updateStatus_eq_some {slot : Fin n} {clientId : Int}
    {update : ClientResultStatus → ClientResultStatus} (named : clientId = slot.val + 1) :
    shared.updateStatus clientId update =
      some { shared with
        statusList := Function.update shared.statusList slot
          { shared.statusList slot with
            finalStatus := update (shared.statusList slot).finalStatus } } := by
  have index : clientId - 1 = (slot.val : Int) := by omega
  rw [StressState.updateStatus, index, checkedIndex_fin]
  rfl

theorem enroll_eq_some {slot : Fin n} (turn : shared.created = slot.val) :
    shared.enroll =
      some { shared with
        statusList := Function.update shared.statusList slot
          { clientId := shared.created + 1, finalStatus := .init }
        created := shared.created + 1 } := by
  rw [StressState.enroll, turn, checkedIndex_fin]
  rfl

/-- A step of a thread keeps its record. -/
theorem Follows.step {slot : Fin n} {results : List Int}
    (follows : Follows requestsPerThread (slot.val + 1) results (shared.statusList slot) phase)
    (acts : ThreadStep requestsPerThread shared phase action next after) :
    Follows requestsPerThread (slot.val + 1)
        (results ++ (action.recording.map Prod.fst).toList) (next.statusList slot) after := by
  generalize held : shared.statusList slot = entry at follows
  cases acts with
  | create _ _ turn enrolled =>
      cases follows with
      | pending _ nothing =>
          have index : shared.created = slot.val := by omega
          cases Option.some.inj (enrolled.symm.trans (enroll_eq_some index))
          simp only [Function.update_self, index]
          subst nothing
          exact .looping 0 (Nat.zero_le _) (Nat.le_refl 0)
  | refuse _ i _ more =>
      cases follows with
      | looping _ _ few =>
          simp only [held, ThreadAction.recording, Option.map_none, Option.toList_none,
            List.append_nil]
          exact .looping (i + 1) more (Nat.le_succ_of_le few)
  | perform _ i _ result latency more =>
      cases follows with
      | looping _ _ few =>
          simp only [held, ThreadAction.recording, Option.map_none, Option.toList_none,
            List.append_nil]
          exact .performed i result latency more few
  | record _ i _ result latency =>
      cases follows with
      | performed _ _ _ more few =>
          have counted : (if result = 0 then results.count 0 + 1 else results.count 0) =
              (results ++ [result]).count 0 := by
            rw [List.count_append]
            by_cases success : result = 0
            · rw [if_pos success, success]
              rfl
            · rw [if_neg success, List.count_singleton, if_neg (by simpa using success)]
              rfl
          simp only [held, counted, ThreadAction.recording, Option.map_some, Option.toList_some]
          exact .reporting i results result more few rfl
  | report _ i _ result _ stored =>
      cases follows with
      | reporting _ earlier _ more few latest =>
          cases Option.some.inj (stored.symm.trans (updateStatus_eq_some rfl))
          simp only [Function.update_self, held, reportResult_firstFailure, ← latest,
            ThreadAction.recording, Option.map_none, Option.toList_none, List.append_nil]
          have size : results.length ≤ i + 1 := by
            rw [latest, List.length_append, List.length_singleton]
            exact Nat.succ_le_succ few
          exact .looping (i + 1) more size
  | finish _ i _ _ done stored =>
      cases follows with
      | looping _ within few =>
          cases Option.some.inj (stored.symm.trans (updateStatus_eq_some rfl))
          simp only [Function.update_self, held, concludeStatus_firstFailure,
            ThreadAction.recording, Option.map_none, Option.toList_none, List.append_nil]
          exact .finished (Nat.le_trans few within)

/-- No step of a thread reaches into the entry of another. -/
theorem ThreadStep.other_entry {mover slot : Fin n} {results : List Int} {entry}
    (distinct : slot ≠ mover)
    (follows : Follows requestsPerThread (mover.val + 1) results entry phase)
    (acts : ThreadStep requestsPerThread shared phase action next after) :
    next.statusList slot = shared.statusList slot := by
  cases acts with
  | create _ _ turn enrolled =>
      cases follows with
      | pending _ _ =>
          have index : shared.created = mover.val := by omega
          cases Option.some.inj (enrolled.symm.trans (enroll_eq_some index))
          exact Function.update_of_ne distinct _ _
  | refuse _ _ _ _ => rfl
  | perform _ _ _ _ _ _ => rfl
  | record _ _ _ _ _ => rfl
  | report _ _ _ _ _ stored =>
      cases follows with
      | reporting _ _ _ _ _ _ =>
          cases Option.some.inj (stored.symm.trans (updateStatus_eq_some rfl))
          exact Function.update_of_ne distinct _ _
  | finish _ _ _ _ _ stored =>
      cases follows with
      | looping _ _ _ =>
          cases Option.some.inj (stored.symm.trans (updateStatus_eq_some rfl))
          exact Function.update_of_ne distinct _ _

/-- A step changes the statistics by what it records, and by nothing else. -/
theorem ThreadStep.stats (acts : ThreadStep requestsPerThread shared phase action next after) :
    next.stats =
      match action.recording with
      | none => shared.stats
      | some (result, latency) => shared.stats.record result latency := by
  cases acts with
  | create _ _ _ enrolled =>
      obtain ⟨_, _, rfl⟩ := Option.map_eq_some_iff.mp enrolled
      rfl
  | refuse _ _ _ _ => rfl
  | perform _ _ _ _ _ _ => rfl
  | record _ _ _ _ _ => rfl
  | report _ _ _ _ _ stored =>
      obtain ⟨_, _, rfl⟩ := Option.map_eq_some_iff.mp stored
      rfl
  | finish _ _ _ _ _ stored =>
      obtain ⟨_, _, rfl⟩ := Option.map_eq_some_iff.mp stored
      rfl

/-- Whether `pthread_create` was called for a thread. -/
def ThreadPhase.created : ThreadPhase → Bool
  | .pending _ => false
  | _ => true

/-- A step creates the next thread, or moves one that was created. -/
theorem ThreadStep.creates (acts : ThreadStep requestsPerThread shared phase action next after) :
    (phase = .pending (shared.created + 1) ∧ after.created = true ∧
        next.created = shared.created + 1) ∨
      phase.created = true ∧ after.created = true ∧ next.created = shared.created := by
  cases acts with
  | create _ _ turn enrolled =>
      obtain ⟨_, _, rfl⟩ := Option.map_eq_some_iff.mp enrolled
      exact Or.inl ⟨turn ▸ rfl, rfl, rfl⟩
  | refuse _ _ _ _ => exact Or.inr ⟨rfl, rfl, rfl⟩
  | perform _ _ _ _ _ _ => exact Or.inr ⟨rfl, rfl, rfl⟩
  | record _ _ _ _ _ => exact Or.inr ⟨rfl, rfl, rfl⟩
  | report _ _ _ _ _ stored =>
      obtain ⟨_, _, rfl⟩ := Option.map_eq_some_iff.mp stored
      exact Or.inr ⟨rfl, rfl, rfl⟩
  | finish _ _ _ _ _ stored =>
      obtain ⟨_, _, rfl⟩ := Option.map_eq_some_iff.mp stored
      exact Or.inr ⟨rfl, rfl, rfl⟩

/-! ## Whole runs -/

abbrev StressGlobal (n : Nat) :=
  Global (Fin n) (StressState n) ThreadPhase

variable {trace : List (StressEvent n)} {global : StressGlobal n}

/-- In every interleaving each thread keeps its record. -/
theorem follows_of_run (run : Run (stressClient n requestsPerThread).system trace global)
    (thread : Fin n) :
    Follows requestsPerThread (thread.val + 1) (resultsOf thread trace)
      (global.shared.statusList thread) (global.processes thread) := by
  induction run generalizing thread with
  | start starts =>
      obtain ⟨_, _, pending⟩ := starts
      rw [pending thread]
      exact .pending _ rfl
  | @snoc trace state _ _ before step ih =>
      cases step with
      | outside label => cases label
      | own mover action shared phase acts =>
          have moved := ih mover
          by_cases same : thread = mover
          · subst same
            simp only [Function.update_self, resultsOf_snoc_self]
            exact moved.step acts
          · rw [resultsOf_snoc_other trace (Ne.symm same)]
            simp only [Function.update_of_ne same, acts.other_entry same moved]
            exact ih thread

/-- The statistics lose no request and count none twice. -/
theorem stats_of_run (run : Run (stressClient n requestsPerThread).system trace global) :
    global.shared.stats = tally (recordings trace) := by
  induction run with
  | start starts =>
      obtain ⟨stats, _, _⟩ := starts
      rw [stats]
      rfl
  | snoc before step ih =>
      cases step with
      | outside label => cases label
      | own mover action shared phase acts =>
          rw [acts.stats, ih, recordings_snoc]
          cases action.recording with
          | none => rw [Option.toList_none, List.append_nil]
          | some recorded => exact record_tally _ _ _

/-- The threads are created in order. -/
theorem pending_of_run (run : Run (stressClient n requestsPerThread).system trace global)
    (thread : Fin n) :
    (global.processes thread).created = false ↔ global.shared.created ≤ thread.val := by
  induction run generalizing thread with
  | start starts =>
      obtain ⟨_, none, pending⟩ := starts
      rw [pending thread, none]
      simp [ThreadPhase.created]
  | @snoc trace state _ _ before step ih =>
      cases step with
      | outside label => cases label
      | own mover action shared phase acts =>
          have own := ih mover
          have other := ih thread
          have moved := follows_of_run before mover
          rcases acts.creates with ⟨waits, later, count⟩ | ⟨running, later, count⟩
          · have index : state.shared.created = mover.val := by
              rw [waits] at moved
              have named := moved.named
              omega
            by_cases same : thread = mover
            · subst same
              simp only [Function.update_self, later, count]
              simp only [reduceCtorEq, false_iff]
              omega
            · have distinct : thread.val ≠ mover.val := fun equal => same (Fin.ext equal)
              simp only [Function.update_of_ne same, count]
              rw [other]
              omega
          · by_cases same : thread = mover
            · subst same
              simp only [Function.update_self, later, count]
              rw [← own, running]
            · simp only [Function.update_of_ne same, count]
              exact other

/-! ## The end -/

/-- The steps that a thread has before it. -/
def ThreadPhase.remaining (requestsPerThread : Nat) : ThreadPhase → Nat
  | .pending _ => 3 * requestsPerThread + 2
  | .looping _ i _ => 3 * (requestsPerThread - i) + 1
  | .performed _ i _ _ _ => 3 * (requestsPerThread - i)
  | .reporting _ i _ _ => 3 * (requestsPerThread - i) - 1
  | .finished => 0

def remaining (requestsPerThread : Nat) (global : StressGlobal n) : Nat :=
  ∑ thread, (global.processes thread).remaining requestsPerThread

theorem ThreadStep.remaining_lt {clientId : Int} {results : List Int} {entry : ClientStatusEntry}
    (follows : Follows requestsPerThread clientId results entry phase)
    (acts : ThreadStep requestsPerThread shared phase action next after) :
    after.remaining requestsPerThread < phase.remaining requestsPerThread := by
  cases acts with
  | create _ _ _ _ =>
      simp only [ThreadPhase.remaining]
      omega
  | refuse _ _ _ more =>
      simp only [ThreadPhase.remaining]
      omega
  | perform _ _ _ _ _ more =>
      simp only [ThreadPhase.remaining]
      omega
  | record _ _ _ _ _ =>
      cases follows with
      | performed _ _ _ more _ =>
          simp only [ThreadPhase.remaining]
          omega
  | report _ _ _ _ _ _ =>
      cases follows with
      | reporting _ _ _ more _ _ =>
          simp only [ThreadPhase.remaining]
          omega
  | finish _ _ _ _ _ _ =>
      simp only [ThreadPhase.remaining]
      omega

theorem remaining_falls {event : StressEvent n} {last : StressGlobal n}
    (run : Run (stressClient n requestsPerThread).system trace global)
    (step : (stressClient n requestsPerThread).system.step global event last) :
    remaining requestsPerThread last < remaining requestsPerThread global := by
  cases step with
  | outside label => cases label
  | own mover action shared phase acts =>
      have lower := acts.remaining_lt (follows_of_run run mover)
      have balance := Family.sum_update (ThreadPhase.remaining requestsPerThread)
        global.processes mover phase
      simp only [remaining]
      omega

/-- No schedule is longer than the threads' own steps together. -/
theorem length_run (run : Run (stressClient n requestsPerThread).system trace global) :
    trace.length + remaining requestsPerThread global ≤ n * (3 * requestsPerThread + 2) := by
  apply run.length_add_le
  · rintro start ⟨_, _, pending⟩
    have all : ∀ thread, (start.processes thread).remaining requestsPerThread =
        3 * requestsPerThread + 2 := by
      intro thread
      rw [pending thread]
      rfl
    rw [remaining, Finset.sum_congr rfl fun thread _ => all thread]
    simp
  · rintro state event last ⟨_, reaches⟩ step
    exact remaining_falls reaches step

/-- Every thread has returned. -/
def Ended (global : StressGlobal n) : Prop :=
  ∀ thread, global.processes thread = .finished

/-- A thread that was created and has not returned can go on. -/
theorem exists_threadStep (shared : StressState n) {slot : Fin n} {results : List Int}
    {entry : ClientStatusEntry}
    (follows : Follows requestsPerThread (slot.val + 1) results entry phase)
    (running : phase.created = true) (unfinished : phase ≠ .finished) :
    ∃ action next after, ThreadStep requestsPerThread shared phase action next after := by
  cases follows with
  | pending _ _ => cases running
  | looping i _ _ =>
      by_cases more : i < requestsPerThread
      · exact ⟨_, _, _, .refuse _ i _ more⟩
      · exact ⟨_, _, _, .finish _ i _ _ (Nat.le_of_not_lt more) (updateStatus_eq_some rfl)⟩
  | performed i result latency _ _ => exact ⟨_, _, _, .record _ i _ result latency⟩
  | reporting i _ result _ _ _ =>
      exact ⟨_, _, _, .report _ i _ result _ (updateStatus_eq_some rfl)⟩
  | finished _ => exact absurd rfl unfinished

/-- Before the end there is always a thread that can move: one that runs, or
the next one to be created. -/
theorem exists_step (run : Run (stressClient n requestsPerThread).system trace global)
    (unfinished : ¬ Ended global) :
    ∃ event last, (stressClient n requestsPerThread).system.step global event last := by
  obtain ⟨thread, waits⟩ := not_forall.mp unfinished
  by_cases running : (global.processes thread).created = true
  · obtain ⟨action, next, after, acts⟩ :=
      exists_threadStep global.shared (follows_of_run run thread) running waits
    exact ⟨_, _, .own thread action next after acts⟩
  · have beyond := (pending_of_run run thread).mp (Bool.eq_false_iff.mpr running)
    have inside : global.shared.created < n := Nat.lt_of_le_of_lt beyond thread.isLt
    have fresh := (pending_of_run run ⟨global.shared.created, inside⟩).mpr (Nat.le_refl _)
    have follows := follows_of_run run ⟨global.shared.created, inside⟩
    have index : global.shared.created = (⟨global.shared.created, inside⟩ : Fin n).val := rfl
    have enrolled := enroll_eq_some index
    generalize own : global.processes ⟨global.shared.created, inside⟩ = phase at fresh follows
    cases phase with
    | pending clientId =>
        have acts : ThreadStep requestsPerThread global.shared (.pending clientId) .created _ _ :=
          .create clientId _ follows.named enrolled
        rw [← own] at acts
        exact ⟨_, _, .own _ _ _ _ acts⟩
    | looping _ _ _ => cases fresh
    | performed _ _ _ _ _ => cases fresh
    | reporting _ _ _ _ => cases fresh
    | finished => cases fresh

theorem leads_to_ended (run : Run (stressClient n requestsPerThread).system trace global) :
    ∃ later last, Leads (stressClient n requestsPerThread).system global later last ∧
      Ended last := by
  have continues : ∀ state, Reachable (stressClient n requestsPerThread).system state →
      Ended state ∨ ∃ event last, (stressClient n requestsPerThread).system.step state event last ∧
        remaining requestsPerThread last < remaining requestsPerThread state := by
    rintro state ⟨_, reaches⟩
    by_cases ended : Ended state
    · exact Or.inl ended
    · obtain ⟨event, last, step⟩ := exists_step reaches ended
      exact Or.inr ⟨event, last, step, remaining_falls reaches step⟩
  exact run.reachable.leads_to_final continues

theorem clampClients_le (numClients : Int) : clampClients numClients ≤ 5000 := by
  rw [clampClients]
  split
  · decide
  · split
    · exact Nat.le_refl _
    · omega

/-- Under every schedule of the stress test and whatever the requests return,
the statistics are the tally of all requests, at most ten for each of at most 5000
clients; every schedule is finite and can be completed; and once all threads
have returned, the table shows for each client whether one of its requests
succeeded, else whether its first one was blocked, and no row is incomplete. -/
theorem stress_summary {numClients : Int} {trace : List (StressEvent (clampClients numClients))}
    {global : StressGlobal (clampClients numClients)}
    (run : Run (stressTest numClients).system trace global) :
    global.shared.stats = tally (recordings trace) ∧
      global.shared.stats.totalRequests =
        global.shared.stats.successCount + global.shared.stats.failCount ∧
      (∀ thread, (resultsOf thread trace).length ≤ 10) ∧
      global.shared.stats.totalRequests = (∑ thread, (resultsOf thread trace).length : Nat) ∧
      global.shared.stats.totalRequests ≤ 10 * clampClients numClients ∧
      clampClients numClients ≤ 5000 ∧
      trace.length ≤ 32 * clampClients numClients ∧
      (∃ later last, Leads (stressTest numClients).system global later last ∧ Ended last) ∧
      (Ended global → ∀ thread,
        global.shared.statusList thread =
            ⟨thread.val + 1, finalStatus (resultsOf thread trace)⟩ ∧
          statusText (global.shared.statusList thread).finalStatus ≠ "❓ INCOMPLETE") := by
  have stats := stats_of_run run
  have ten : ∀ thread, (resultsOf thread trace).length ≤ 10 := by
    intro thread
    have follows := follows_of_run run thread
    generalize global.shared.statusList thread = entry at follows
    exact follows.length_le
  have total : global.shared.stats.totalRequests =
      (∑ thread, (resultsOf thread trace).length : Nat) := by
    rw [stats, tally, length_recordings]
  refine ⟨stats, ?_, ten, total, ?_, clampClients_le numClients, ?_, ?_, ?_⟩
  · rw [stats]
    exact tally_balance _
  · have few := Finset.sum_le_card_nsmul Finset.univ (fun thread => (resultsOf thread trace).length)
      10 fun thread _ => ten thread
    rw [Finset.card_univ, Fintype.card_fin, nsmul_eq_mul, Nat.cast_id] at few
    omega
  · have bound := length_run run
    have each : requestsPerClient = 10 := rfl
    rw [each] at bound
    omega
  · exact leads_to_ended run
  · intro ended thread
    have follows := follows_of_run run thread
    rw [ended thread] at follows
    have entry := follows.finished_entry
    refine ⟨entry, ?_⟩
    rw [entry]
    exact statusText_finalStatus _

/-! ## Two clients -/

/-- A step that records nothing. -/
def Quiet (action : ThreadAction) : Prop :=
  action.recording = none

theorem resultsOf_quiet {mover : Fin n} {trace : List (StressEvent n)}
    (quiet : ∀ event ∈ trace, ∃ action, event = .own mover action ∧ Quiet action)
    (thread : Fin n) : resultsOf thread trace = [] := by
  apply List.filterMap_eq_nil_iff.mpr
  intro event member
  obtain ⟨action, rfl, silent⟩ := quiet event member
  have nothing : action.recording = none := silent
  simp [nothing]

abbrev QuietMoves (n requestsPerThread : Nat) :=
  (stressClient n requestsPerThread).Moves Quiet

theorem quietMove (acts : ThreadStep requestsPerThread shared phase action next after)
    (quiet : action.recording = none) :
    QuietMoves n requestsPerThread (shared, phase) (next, after) :=
  ⟨action, quiet, acts⟩

theorem resultsOf_append (thread : Fin n) (first second : List (StressEvent n)) :
    resultsOf thread (first ++ second) = resultsOf thread first ++ resultsOf thread second :=
  List.filterMap_append

/-- A thread whose further connections all fail comes to its end. -/
theorem quiet_to_finished (slot : Fin n) (shared : StressState n) (left i count : Nat) :
    ∃ last, last.created = shared.created ∧ Relation.ReflTransGen (QuietMoves n (i + left))
      (shared, .looping (slot.val + 1) i count) (last, .finished) := by
  induction left generalizing i with
  | zero =>
      refine ⟨_, ?_, .single (quietMove (.finish _ i _ _ (Nat.le_refl _)
        (updateStatus_eq_some rfl)) rfl)⟩
      rfl
  | succ left ih =>
      obtain ⟨last, kept, moves⟩ := ih (i + 1)
      rw [Nat.add_assoc, Nat.add_comm 1] at moves
      have more : i < i + (left + 1) := by omega
      exact ⟨last, kept, moves.head (quietMove (.refuse _ i _ more) rfl)⟩

/-- What a thread does that gets one connection, the first one. -/
structure OneRequest (requestsPerThread : Nat) (slot : Fin n) (result : Int)
    (global last : StressGlobal n) (trace : List (StressEvent n)) : Prop where
  path : Leads (stressClient n requestsPerThread).system global trace last
  created : last.shared.created = slot.val + 1
  processes : last.processes = Function.update global.processes slot .finished
  own : resultsOf slot trace = [result]
  others : ∀ other, slot ≠ other → resultsOf other trace = []

theorem exists_oneRequest {global : StressGlobal n} {slot : Fin n} (left : Nat)
    (turn : global.shared.created = slot.val)
    (waits : global.processes slot = .pending (slot.val + 1)) (result : Int) (latency : ℚ) :
    ∃ trace last, OneRequest (1 + left) slot result global last trace := by
  have named : (slot.val : Int) + 1 = global.shared.created + 1 := by rw [turn]
  have some_ : 0 < 1 + left := by omega
  obtain ⟨enrolled, next, enrolls⟩ :
      ∃ enrolled, enrolled.created = slot.val + 1 ∧ global.shared.enroll = some enrolled :=
    ⟨_, congrArg (· + 1) turn, enroll_eq_some turn⟩
  have performed : Relation.ReflTransGen (QuietMoves n (1 + left))
      (global.shared, .pending (slot.val + 1))
      (enrolled, .performed (slot.val + 1) 0 0 result latency) :=
    .head (quietMove (.create _ _ named enrolls) rfl)
      (.single (quietMove (.perform _ 0 0 result latency some_) rfl))
  rw [← waits] at performed
  obtain ⟨before, start, quietBefore⟩ := Family.leads_of_moves slot performed
  have recorded := Family.step_again (stressClient n (1 + left)) global.processes slot
    (.record (slot.val + 1) 0 0 result latency : ThreadStep (1 + left) enrolled _ _ _ _)
  generalize held : { enrolled with stats := enrolled.stats.record result latency } = shared
    at recorded
  generalize (if result = 0 then 0 + 1 else 0) = count at recorded
  obtain ⟨reported, same, stored⟩ : ∃ reported, reported.created = shared.created ∧
      shared.updateStatus (slot.val + 1) (reportResult result) = some reported :=
    ⟨_, rfl, updateStatus_eq_some rfl⟩
  obtain ⟨last, kept, rest⟩ := quiet_to_finished slot reported left 1 count
  generalize reporting : (⟨shared, _⟩ : StressGlobal n) = middle at recorded
  have finished : Relation.ReflTransGen (QuietMoves n (1 + left))
      (middle.shared, middle.processes slot) (last, .finished) := by
    rw [← reporting]
    simp only [Function.update_self]
    exact .head (quietMove (.report _ 0 count result _ stored) rfl) rest
  obtain ⟨after, path, quietAfter⟩ := Family.leads_of_moves slot finished
  refine ⟨_, _, (start.snoc recorded).append path, ?_, ?_, ?_, ?_⟩
  · rw [kept, same, ← held, next]
  · rw [← reporting]
    exact Function.update_idem _ _ _
  · rw [resultsOf_append, resultsOf_snoc_self, resultsOf_quiet quietBefore,
      resultsOf_quiet quietAfter]
    rfl
  · intro other distinct
    rw [resultsOf_append, resultsOf_snoc_other _ distinct, resultsOf_quiet quietBefore,
      resultsOf_quiet quietAfter]
    rfl

/-- The stress test of two clients before its threads are created. -/
def twoClients : StressGlobal (clampClients 2) where
  shared := { stats := ⟨0, 0, 0, 0⟩, statusList := fun _ => ⟨0, .init⟩, created := 0 }
  processes thread := .pending (thread.val + 1)

theorem clampClients_two : clampClients 2 = 2 := by
  decide

def firstClient : Fin (clampClients 2) :=
  ⟨0, by rw [clampClients_two]; decide⟩

def secondClient : Fin (clampClients 2) :=
  ⟨1, by rw [clampClients_two]; decide⟩

theorem client_cases (thread : Fin (clampClients 2)) :
    thread = firstClient ∨ thread = secondClient := by
  have inside : thread.val < 2 := thread.isLt
  rcases Nat.lt_or_ge thread.val 1 with below | above
  · exact Or.inl (Fin.ext (Nat.lt_one_iff.mp below))
  · exact Or.inr (Fin.ext (Nat.le_antisymm (Nat.le_of_lt_succ inside) above))

theorem twoClients_turn : twoClients.shared.created = firstClient.val :=
  rfl

theorem twoClients_waits : twoClients.processes firstClient = .pending (firstClient.val + 1) :=
  rfl

/-- The first request of the first client is blocked, that of the second gets a
ride, and no other connection comes about. -/
theorem exists_twoClients : ∃ (trace : List (StressEvent (clampClients 2))) (global : _),
    Run (stressTest 2).system trace global ∧ Ended global ∧
      resultsOf firstClient trace = [-2] ∧ resultsOf secondClient trace = [0] := by
  have apart : firstClient ≠ secondClient := by decide
  have start : Run (stressTest 2).system [] twoClients := Run.start ⟨rfl, rfl, fun _ => rfl⟩
  obtain ⟨first, middle, blocked⟩ :=
    exists_oneRequest 9 twoClients_turn twoClients_waits (-2) 3
  have waits : middle.processes secondClient = .pending (secondClient.val + 1) := by
    rw [blocked.processes, Function.update_of_ne apart.symm]
    rfl
  obtain ⟨second, last, served⟩ := exists_oneRequest 9 blocked.created waits 0 5
  refine ⟨first ++ second, last, (start.append blocked.path).append served.path, ?_, ?_, ?_⟩
  · intro thread
    rcases client_cases thread with rfl | rfl
    · rw [served.processes, Function.update_of_ne apart, blocked.processes, Function.update_self]
    · rw [served.processes, Function.update_self]
  · rw [resultsOf_append, blocked.own, served.others _ apart.symm]
    rfl
  · rw [resultsOf_append, blocked.others _ apart, served.own]
    rfl

theorem stress_summary_twoClients :
    ∃ trace global, Run (stressTest 2).system trace global ∧
      global.shared.stats.totalRequests = 2 ∧
      (∀ thread, (resultsOf thread trace).length ≤ 10) ∧
      statusText (global.shared.statusList firstClient).finalStatus = "⚠️ FAILED (DoS Blocked)" ∧
      statusText (global.shared.statusList secondClient).finalStatus = "✅ SUCCESS" := by
  obtain ⟨trace, global, run, ended, blocked, served⟩ := exists_twoClients
  obtain ⟨_, _, ten, total, _, _, _, _, table⟩ := stress_summary run
  refine ⟨trace, global, run, ?_, ten, ?_, ?_⟩
  · have both : ∑ thread : Fin (clampClients 2), (resultsOf thread trace).length =
        (resultsOf firstClient trace).length + (resultsOf secondClient trace).length :=
      Fin.sum_univ_two _
    rw [total, both, blocked, served]
    rfl
  · rw [(table ended firstClient).1, blocked]
    decide
  · rw [(table ended secondClient).1, served]
    decide

end RideHailing.Client
