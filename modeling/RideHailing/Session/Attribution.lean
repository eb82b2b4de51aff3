import RideHailing.Fleet.Cells
import RideHailing.Fleet.Ledger
import RideHailing.Session.Blocked
import RideHailing.Session.Provenance

/-!
# The connection behind a critical section

The history of a worker since its last `accept` is kept beside its phase: which
connection it serves and which critical sections it has entered for it.  From
this every ride of an interleaved run is charged to one connection, and every
dead worker to one blocked request.
-/

namespace RideHailing.Session

open RideHailing.Bytes
open RideHailing.Common
open RideHailing.Fleet
open RideHailing.Server
open RideHailing.Transition

universe u

variable {γ : Type u} {env : Env γ} {visit : Visit γ} {worker : Worker} {phase after : Phase γ}
  {shared next : SharedState} {trace : List (Happening γ)} {pool : Workforce γ}

/-- The connection that a worker serves or served last, with the critical
sections that it has entered for it. -/
structure Service (γ : Type u) where
  visit : Visit γ
  sections : List Event

def serviceAfter (service : Option (Service γ)) : WorkerAction γ → Option (Service γ)
  | .accepted visit => some ⟨visit, []⟩
  | .proceeded => service
  | .entered event => service.map fun known => ⟨known.visit, known.sections ++ [event]⟩

def serviceStep (worker : Worker) (service : Option (Service γ)) :
    Happening γ → Option (Service γ)
  | .own mover action => if mover = worker then serviceAfter service action else service
  | .outside _ => service

/-- What a trace tells about a worker. -/
def serviceOf (worker : Worker) (trace : List (Happening γ)) : Option (Service γ) :=
  trace.foldl (serviceStep worker) none

theorem serviceOf_snoc (worker : Worker) (trace : List (Happening γ)) (happening : Happening γ) :
    serviceOf worker (trace ++ [happening]) =
      serviceStep worker (serviceOf worker trace) happening := by
  rw [serviceOf, List.foldl_append]
  rfl

theorem serviceStep_own (worker : Worker) (service : Option (Service γ))
    (action : WorkerAction γ) :
    serviceStep worker service (.own worker action) = serviceAfter service action :=
  if_pos rfl

theorem serviceStep_interferes {σ π : Type*} {before later : σ}
    {family : Family Worker σ π (WorkerAction γ) (Nat → TickDraws)} {service : Option (Service γ)}
    {happening : Happening γ} (interferes : family.Interferes worker before happening later) :
    serviceStep worker service happening = service := by
  cases interferes with
  | other mover distinct action own _ _ acts => exact if_neg (Ne.symm distinct)
  | outside draws _ tick => rfl

/-- The critical section that a worker enters in a step. -/
def sectionBy (worker : Worker) : Happening γ → Option Event
  | .own mover (.entered event) => if mover = worker then some event else none
  | .own _ (.accepted _) => none
  | .own _ .proceeded => none
  | .outside _ => none

/-- The history behind a service: the `accept` and what the worker did since. -/
structure Since (worker : Worker) (service : Service γ) (earlier since : List (Happening γ)) :
    Prop where
  latest : ∀ other, .own worker (.accepted other) ∉ since
  sections : since.filterMap (sectionBy worker) = service.sections

theorem Since.snoc {service : Service γ} {earlier since : List (Happening γ)}
    (history : Since worker service earlier since) {happening : Happening γ}
    (accepts : ∀ other, happening ≠ .own worker (.accepted other)) :
    Since worker ⟨service.visit, service.sections ++ (sectionBy worker happening).toList⟩ earlier
      (since ++ [happening]) := by
  constructor
  · intro other member
    rcases List.mem_append.mp member with before | last
    · exact history.latest other before
    · exact accepts other (List.mem_singleton.mp last).symm
  · rw [List.filterMap_append, history.sections]
    cases shown : sectionBy worker happening with
    | none => simp [shown]
    | some event => simp [shown]

theorem exists_since {service : Service γ} (known : serviceOf worker trace = some service) :
    ∃ earlier since, trace = earlier ++ .own worker (.accepted service.visit) :: since ∧
      Since worker service earlier since := by
  induction trace using List.reverseRecOn generalizing service with
  | nil => cases known
  | append_singleton trace happening ih =>
      rw [serviceOf_snoc] at known
      have continued : ∀ before, serviceOf worker trace = some before →
          (∀ other, happening ≠ .own worker (.accepted other)) →
          service = ⟨before.visit, before.sections ++ (sectionBy worker happening).toList⟩ →
          ∃ earlier since, trace ++ [happening] =
            earlier ++ .own worker (.accepted service.visit) :: since ∧
              Since worker service earlier since := by
        rintro before found accepts rfl
        obtain ⟨earlier, since, rfl, history⟩ := ih found
        exact ⟨earlier, since ++ [happening], by rw [List.append_assoc]; rfl,
          history.snoc accepts⟩
      cases happening with
      | outside draws =>
          refine continued service known nofun ?_
          simp [sectionBy]
      | own mover action =>
          by_cases own : mover = worker
          · subst own
            rw [serviceStep_own] at known
            cases action with
            | accepted visit =>
                cases known
                exact ⟨trace, [], rfl, ⟨fun _ => List.not_mem_nil, rfl⟩⟩
            | proceeded =>
                refine continued service known nofun ?_
                simp [sectionBy]
            | entered event =>
                obtain ⟨before, found, rfl⟩ := Option.map_eq_some_iff.mp known
                refine continued before found nofun ?_
                simp [sectionBy]
          · have same : serviceOf worker trace = some service := (if_neg own).symm.trans known
            refine continued service same ?_ ?_
            · rintro other ⟨⟩
              exact own rfl
            · cases action with
              | accepted visit => simp [sectionBy]
              | proceeded => simp [sectionBy]
              | entered event => simp [sectionBy, own]

/-! ## Phase and history -/

/-- The critical sections of a connection that ended well. -/
inductive Completed : List Event → Prop
  | nothing : Completed []
  | served (clientId now : Int) (chosen : Option (Fin maxDrivers)) :
      Completed [.rateLimitCheck clientId now false, .rideRequest clientId chosen]
  | joined (driverId : UInt32) : Completed [.driverJoin driverId]

/-- The phase of a worker beside what it has done for its connection. -/
inductive Follows (env : Env γ) : Option (Service γ) → Phase γ → Prop
  | fresh : Follows env none .accepting
  | idle (visit : Visit γ) (sections : List Event) (completed : Completed sections) :
      Follows env (some ⟨visit, sections⟩) .accepting
  | received (visit : Visit γ) (phase : Phase γ) (received : Received env visit phase)
      (left : phase.remaining ≠ 0) : Follows env (some ⟨visit, []⟩) phase
  | dispatching (visit : Visit γ) (clientId now : Int) (sessionKey : CString) (own : Local γ)
      (requested : Requested env visit clientId sessionKey) :
      Follows env (some ⟨visit, [.rateLimitCheck clientId now false]⟩)
        (.dispatching clientId sessionKey own)
  | answering (visit : Visit γ) (clientId now : Int) (found : Option (Fin maxDrivers × ℚ))
      (sessionKey : CString) (own : Local γ)
      (requested : Requested env visit clientId sessionKey) :
      Follows env (some ⟨visit, [.rateLimitCheck clientId now false,
        .rideRequest clientId (found.map Prod.fst)]⟩) (.answering found sessionKey own)
  | closing (visit : Visit γ) (sections : List Event) (own : Local γ)
      (completed : Completed sections) : Follows env (some ⟨visit, sections⟩) (.closing own)
  | blocked (visit : Visit γ) (clientId now : Int) (own : Local γ) :
      Follows env (some ⟨visit, [.rateLimitCheck clientId now true]⟩) (.killed own)

/-- A worker that needs the shared memory next has entered no section yet. -/
theorem Received.follows (received : Received env visit phase) :
    Follows env (some ⟨visit, []⟩) phase := by
  by_cases left : phase.remaining = 0
  · cases received.knows with
    | receiving socket connection own past heard =>
        rw [Phase.remaining] at left
        omega
    | closing own => exact .closing visit [] own .nothing
    | joining driverId own => cases left
    | limiting => cases left
  · exact .received visit phase received left

theorem Follows.step {service : Option (Service γ)} {action : WorkerAction γ}
    (follows : Follows env service phase) (reachable : Reachable secureServer shared)
    (step : WorkerStep env shared phase action next after) :
    Follows env (serviceAfter service action) after := by
  cases step with
  | accept visit delivers => exact Received.start.follows
  | receive socket connection own =>
      cases follows with
      | received visit _ received left => exact (received.round socket connection own).follows
  | limit clientId sessionKey own =>
      cases follows with
      | received visit _ received left =>
          cases verdict : (limitRequest env clientId (own.world shared)).1 with
          | true =>
              rw [limitedPhase, if_pos verdict, replyBlocked_killed]
              exact .blocked visit clientId _ _
          | false =>
              have allowed : ¬ (limitRequest env clientId (own.world shared)).1 = true := by
                rw [verdict]
                exact Bool.false_ne_true
              rw [limitedPhase, if_neg allowed]
              exact .dispatching visit clientId _ sessionKey _ received.requested
  | dispatch clientId sessionKey own _ found section_ =>
      cases follows with
      | received visit _ received left => cases received.knows
      | dispatching visit _ now _ _ requested =>
          exact .answering visit clientId now found sessionKey _ requested
  | dispatchFault clientId sessionKey own fault =>
      obtain ⟨outcome, defined⟩ :=
        (criticalSection_progress reachable).1 clientId (targetDraws env own)
      rw [fault] at defined
      cases defined
  | answer found sessionKey own =>
      cases follows with
      | received visit _ received left => cases received.knows
      | answering visit clientId now _ _ _ requested =>
          obtain ⟨key, scheduled⟩ := requested.scheduled
          obtain ⟨header, message, replied⟩ :=
            replyText_returned scheduled (env.response shared found) (own.world shared)
          rw [replied]
          exact .closing visit _ _ (.served clientId now _)
  | join driverId own _ section_ =>
      cases follows with
      | received visit _ received left => exact .closing visit _ _ (.joined driverId)
  | joinFault driverId own fault =>
      obtain ⟨joined, defined⟩ :=
        processDriverJoin_total driverId (reachable_wellFormed reachable).nonneg
      rw [fault] at defined
      cases defined
  | close own =>
      cases follows with
      | received visit _ received left => exact absurd rfl left
      | closing visit sections _ completed => exact .idle visit sections completed

/-- In every interleaving the phase of every worker agrees with its history. -/
theorem follows_of_run (run : Run (interleavedPool env).system trace pool) (worker : Worker) :
    Follows env (serviceOf worker trace) (pool.processes worker) := by
  apply Family.process_invariant worker
    (P := fun trace _ own => Follows env (serviceOf worker trace) own) _ _ _ run
  · rintro start ⟨_, waiting⟩
    rw [waiting worker]
    exact .fresh
  · intro trace pool action shared after run follows acts
    rw [serviceOf_snoc, serviceStep_own]
    exact follows.step (interleaved_reachable run) acts
  · intro trace pool happening shared _ follows interferes
    rw [serviceOf_snoc, serviceStep_interferes interferes]
    exact follows

/-! ## Rides and connections -/

/-- The step takes a connection. -/
def accepts : Happening γ → Bool
  | .own _ (.accepted _) => true
  | .own _ (.entered _) => false
  | .own _ .proceeded => false
  | .outside _ => false

/-- The ride that a step dispatches. -/
def rideOf (happening : Happening γ) : Option Ride :=
  (sectionOf happening).bind Event.ride

theorem rides_eq_filterMap (trace : List (Happening γ)) :
    rides (trace.filterMap sectionOf) = trace.filterMap rideOf :=
  List.filterMap_filterMap

/-- The worker may still enter the critical section of a ride for its
connection. -/
def owed : Phase γ → Nat
  | .receiving _ _ _ => 1
  | .limiting _ _ _ => 1
  | .dispatching _ _ _ => 1
  | .accepting => 0
  | .answering _ _ _ => 0
  | .joining _ _ => 0
  | .closing _ => 0
  | .killed _ => 0

theorem owed_le_one (phase : Phase γ) : owed phase ≤ 1 := by
  cases phase <;> simp [owed]

theorem owed_exitPhase (result : Exit γ) : owed (exitPhase result) = 0 := by
  cases result with
  | returned world => rfl
  | killed world => rfl

/-- A worker dispatches at most what it owes, and comes to owe something only by
taking a connection. -/
theorem owed_step {action : WorkerAction γ}
    (step : WorkerStep env shared phase action next after) (worker : Worker) :
    (rideOf (.own worker action)).toList.length + owed after ≤
      owed phase + [Action.own worker action].countP accepts := by
  cases step with
  | accept visit delivers => exact Nat.le_refl 1
  | receive socket connection own =>
      have most := owed_le_one (receivePhase env socket connection own)
      simpa [rideOf, sectionOf, owed, accepts] using most
  | limit clientId sessionKey own =>
      have most := owed_le_one (limitedPhase clientId sessionKey
        (limitRequest env clientId (own.world shared)))
      simpa [rideOf, sectionOf, Event.ride, owed, accepts] using most
  | dispatch clientId sessionKey own _ found section_ =>
      cases found with
      | none => exact Nat.zero_le 1
      | some chosen => exact Nat.le_refl 1
  | dispatchFault clientId sessionKey own fault => exact Nat.zero_le 1
  | answer found sessionKey own =>
      rw [owed_exitPhase]
      exact Nat.le_refl 0
  | join driverId own _ section_ => exact Nat.le_refl 0
  | joinFault driverId own fault => exact Nat.le_refl 0
  | close own => exact Nat.le_refl 0

/-- There are never more rides than connections, not even with those that
workers may still dispatch. -/
theorem rides_le_accepts (run : Run (interleavedPool env).system trace pool) :
    (rides (trace.filterMap sectionOf)).length + ∑ worker, owed (pool.processes worker) ≤
      trace.countP accepts := by
  induction run with
  | start starts =>
      have idle : ∀ worker, owed _ = 0 := fun worker => congrArg owed (starts.2 worker)
      simp [rides, idle]
  | @snoc trace pool next happening before step ih =>
      rw [rides_eq_filterMap] at ih ⊢
      rw [List.filterMap_append, List.length_append, List.countP_append]
      cases step with
      | own worker action shared after acts =>
          have moved := owed_step acts worker
          have summed := Family.sum_update owed pool.processes worker after
          have one : ([Action.own worker action].filterMap rideOf).length =
              (rideOf (.own worker action)).toList.length := by
            cases shown : rideOf (Action.own worker action) with
            | none => simp [shown]
            | some ride => simp [shown]
          rw [one]
          simp only at summed ⊢
          omega
      | outside draws shared tick =>
          have none_ : rideOf (Action.outside draws : Happening γ) = none := rfl
          simpa [none_, accepts] using ih

/-- The worker takes a connection. -/
def acceptsOf (worker : Worker) : Happening γ → Bool
  | .own mover (.accepted _) => decide (mover = worker)
  | .own _ (.entered _) => false
  | .own _ .proceeded => false
  | .outside _ => false

theorem sectionBy_own (worker : Worker) (action : WorkerAction γ) :
    sectionBy worker (.own worker action) = sectionOf (.own worker action) := by
  cases action with
  | accepted visit => rfl
  | proceeded => rfl
  | entered event => exact if_pos rfl

theorem acceptsOf_own (worker : Worker) (action : WorkerAction γ) :
    acceptsOf worker (.own worker action) = accepts (.own worker action) := by
  cases action with
  | accepted visit => exact decide_eq_true rfl
  | proceeded => rfl
  | entered event => rfl

/-- What the others do is neither a section nor a connection of the worker. -/
theorem interferes_quiet {happening : Happening γ} {before later : SharedState}
    (interferes : (interleavedPool env).Interferes worker before happening later) :
    sectionBy worker happening = none ∧ acceptsOf worker happening = false := by
  cases interferes with
  | outside draws _ tick => exact ⟨rfl, rfl⟩
  | other mover distinct action own _ _ acts =>
      cases action with
      | accepted visit => exact ⟨rfl, decide_eq_false (Ne.symm distinct)⟩
      | proceeded => exact ⟨rfl, rfl⟩
      | entered event => exact ⟨if_neg (Ne.symm distinct), rfl⟩

/-- No worker dispatches more rides than it takes connections. -/
theorem ridesBy_le_accepts (run : Run (interleavedPool env).system trace pool)
    (worker : Worker) :
    (rides (trace.filterMap (sectionBy worker))).length + owed (pool.processes worker) ≤
      trace.countP (acceptsOf worker) := by
  apply Family.process_invariant worker
    (P := fun trace _ phase => (rides (trace.filterMap (sectionBy worker))).length + owed phase ≤
      trace.countP (acceptsOf worker)) _ _ _ run
  · rintro start ⟨_, waiting⟩
    rw [waiting worker]
    exact Nat.le_refl 0
  · intro trace pool action shared after _ before acts
    have moved := owed_step acts worker
    have dispatched : (rides ((trace ++ [Action.own worker action]).filterMap
        (sectionBy worker))).length = (rides (trace.filterMap (sectionBy worker))).length +
          (rideOf (.own worker action)).toList.length := by
      rw [List.filterMap_append, rides, rides, List.filterMap_append, List.length_append, rideOf]
      cases shown : sectionOf (Action.own worker action) with
      | none => simp [sectionBy_own, shown]
      | some event => cases ride : event.ride <;> simp [sectionBy_own, shown, ride]
    have taken : [Action.own worker action].countP (acceptsOf worker) =
        [Action.own worker action].countP accepts := by
      rw [List.countP_singleton, List.countP_singleton, acceptsOf_own]
    rw [dispatched, List.countP_append, taken]
    omega
  · intro trace pool happening shared _ before interferes
    obtain ⟨silent, refuses⟩ := interferes_quiet interferes
    simpa [silent, refuses] using before

/-- A pool with one driver, whose first worker has served a ride of client 7 and waits
again. -/
theorem rodePool_run :
    ∃ trace pool, Run (interleavedPool stillEnv).system trace pool ∧
      0 < (rides (trace.filterMap sectionOf)).length ∧
      ∀ worker, pool.processes worker = .accepting := by
  obtain ⟨key, scheduled⟩ : ∃ key, keySchedule (firstExchange.serverKey stillEnv) = some key :=
    keySchedule_deriveSessionKey _
  obtain ⟨after, handled, success⟩ := rideVisit_rode scheduled
  have waits : drivenPool.processes firstWorker = .accepting := rfl
  obtain ⟨trace, path, _⟩ := leads_of_returned firstWorker waits handled
  have accepted := takes_step stillEnv firstWorker waits (rideVisit key) WriteEnd.reliable_nil
  have run := (drivenPool_run.snoc accepted).append path
  refine ⟨_, _, run, Nat.pos_of_ne_zero fun none_ => ?_, fun _ => rfl⟩
  have counted := (run_balanced (shared_run run)).total
  rw [none_, success] at counted
  exact absurd counted (by decide)

/-- A run that dispatches a ride has a step that entered its critical section. -/
theorem exists_entered {last : Workforce γ} (run : Run (interleavedPool env).system trace last)
    (rode : 0 < (rides (trace.filterMap sectionOf)).length) :
    ∃ earlier worker clientId chosen since,
      trace = earlier ++ .own worker (.entered (.rideRequest clientId chosen)) :: since := by
  rw [rides_eq_filterMap] at rode
  obtain ⟨ride, member⟩ := List.exists_mem_of_length_pos rode
  obtain ⟨happening, happened, shown⟩ := List.mem_filterMap.mp member
  obtain ⟨earlier, later, rfl⟩ := List.append_of_mem happened
  cases happening with
  | outside draws => cases shown
  | own worker action =>
      cases action with
      | accepted visit => cases shown
      | proceeded => cases shown
      | entered event =>
          cases event with
          | rideRequest clientId chosen => exact ⟨earlier, worker, clientId, chosen, later, rfl⟩
          | monitorTick => cases shown
          | driverJoin driverId => cases shown
          | rateLimitCheck clientId now blocked => cases shown

/-- In every interleaving of any number of connections, each ride request was
entered for the connection that its worker accepted last, as the only one for it
and after the limiter let it through, and an authenticated request of the same
client arrived on that connection; so no worker dispatches more rides than it
takes connections. -/
theorem ride_provenance (run : Run (interleavedPool env).system trace pool) :
    (∀ before worker clientId chosen after,
      trace = before ++ .own worker (.entered (.rideRequest clientId chosen)) :: after →
      ∃ earlier visit since now sessionKey,
        before = earlier ++ .own worker (.accepted visit) :: since ∧
        (∀ other, .own worker (.accepted other) ∉ since) ∧
        since.filterMap (sectionBy worker) = [.rateLimitCheck clientId now false] ∧
        Requested env visit clientId sessionKey) ∧
      (∀ worker, (rides (trace.filterMap (sectionBy worker))).length ≤
        trace.countP (acceptsOf worker)) ∧
      (rides (trace.filterMap sectionOf)).length ≤ trace.countP accepts := by
  refine ⟨?_, ?_, ?_⟩
  · rintro before worker clientId chosen after rfl
    obtain ⟨state, entered, earlier, step, _⟩ := run.split
    have follows := follows_of_run earlier worker
    rcases Family.step_cases worker step with ⟨_, label, acts⟩ | ⟨interferes, _⟩
    · obtain ⟨_, rfl⟩ := Action.own.inj label
      generalize state.processes worker = phase at acts follows
      generalize entered.processes worker = later at acts
      generalize known : serviceOf worker before = service at follows
      cases acts with
      | dispatch _ sessionKey own _ found section_ =>
          cases follows with
          | received visit _ received left => cases received.knows
          | dispatching visit _ now _ _ requested =>
              obtain ⟨earlier, since, split, history⟩ := exists_since known
              exact ⟨earlier, visit, since, now, sessionKey, split, history.latest,
                history.sections, requested⟩
    · cases interferes with
      | other _ distinct _ _ _ _ _ => exact absurd rfl distinct
  · intro worker
    exact Nat.le_trans (Nat.le_add_right _ _) (ridesBy_le_accepts run worker)
  · exact Nat.le_trans (Nat.le_add_right _ _) (rides_le_accepts run)

/-- The ride of such a pool and the request behind it. -/
theorem ride_provenance_rodePool :
    ∃ trace pool worker clientId visit sessionKey,
      Run (interleavedPool stillEnv).system trace pool ∧
        0 < (rides (trace.filterMap sectionOf)).length ∧
        .own worker (.accepted visit) ∈ trace ∧
        Requested stillEnv visit clientId sessionKey ∧
        (rides (trace.filterMap (sectionBy worker))).length ≤ trace.countP (acceptsOf worker) := by
  obtain ⟨trace, pool, run, rode, _⟩ := rodePool_run
  obtain ⟨before, worker, clientId, chosen, after, rfl⟩ := exists_entered run rode
  obtain ⟨charged, perWorker, _⟩ := ride_provenance run
  obtain ⟨_, visit, _, _, sessionKey, rfl, _, _, requested⟩ :=
    charged before worker clientId chosen after rfl
  exact ⟨_, pool, worker, clientId, visit, sessionKey, run, rode, by simp, requested,
    perWorker worker⟩

end RideHailing.Session
