import RideHailing.Session.Attribution

/-!
# The end of the pool

Nobody forks a worker again.  Each blocked request costs one, in whatever order
the workers run; after a hundred of them only the map monitor is left, and
`start_coordinator_process`, which waits for its children, returns to `main`.
-/

namespace RideHailing.Session

open RideHailing.Arithmetic
open RideHailing.Common
open RideHailing.Fleet
open RideHailing.Server
open RideHailing.Transition

universe u

variable {γ : Type u} {env : Env γ} {worker : Worker} {phase after : Phase γ}
  {shared next : SharedState} {trace : List (Happening γ)} {pool : Workforce γ}

/-! ## Dead workers -/

/-- The worker is dead. -/
def dead : Phase γ → Nat
  | .killed _ => 1
  | .accepting => 0
  | .receiving _ _ _ => 0
  | .limiting _ _ _ => 0
  | .dispatching _ _ _ => 0
  | .answering _ _ _ => 0
  | .joining _ _ => 0
  | .closing _ => 0

theorem dead_le_one (phase : Phase γ) : dead phase ≤ 1 := by
  cases phase <;> simp [dead]

/-- The section is a limiter check that blocked. -/
def blockedCheck : Event → Bool
  | .rateLimitCheck _ _ blocked => blocked
  | .rideRequest _ _ => false
  | .monitorTick => false
  | .driverJoin _ => false

/-- The blocked requests of a run of the pool. -/
def blockedCount (trace : List (Happening γ)) : Nat :=
  (trace.filterMap sectionOf).countP blockedCheck

theorem blockedCount_snoc (trace : List (Happening γ)) (happening : Happening γ) :
    blockedCount (trace ++ [happening]) =
      blockedCount trace + (sectionOf happening).toList.countP blockedCheck := by
  rw [blockedCount, List.filterMap_append, List.countP_append, blockedCount]
  cases shown : sectionOf happening with
  | none => simp [shown]
  | some event => simp [shown]

/-- The blocked checks in the history of a worker. -/
def blockedSections (service : Option (Service γ)) : Nat :=
  (service.map fun known => known.sections.countP blockedCheck).getD 0

theorem Completed.unblocked {sections : List Event} (completed : Completed sections) :
    sections.countP blockedCheck = 0 := by
  cases completed <;> rfl

/-- A worker is dead exactly when the request of its connection was blocked. -/
theorem Follows.dead_eq {service : Option (Service γ)} (follows : Follows env service phase) :
    dead phase = blockedSections service := by
  cases follows with
  | fresh => rfl
  | idle visit sections completed => exact completed.unblocked.symm
  | received visit _ received left =>
      cases received.knows with
      | receiving | closing | joining | limiting => rfl
  | dispatching visit clientId now sessionKey own requested => rfl
  | answering visit clientId now found sessionKey own requested => rfl
  | closing visit sections own completed => exact completed.unblocked.symm
  | blocked visit clientId now own => rfl

theorem dead_step (worker : Worker) {service : Option (Service γ)} {action : WorkerAction γ}
    (follows : Follows env service phase) (reachable : Reachable secureServer shared)
    (step : WorkerStep env shared phase action next after) :
    dead after = dead phase +
      (sectionOf (.own worker action : Happening γ)).toList.countP blockedCheck := by
  have later := (follows.step reachable step).dead_eq
  have before := follows.dead_eq
  cases action with
  | accepted visit =>
      cases step
      exact later
  | proceeded => exact later.trans before.symm
  | entered event =>
      rw [later, before]
      cases service with
      | none =>
          cases follows
          cases step
      | some known => simp [serviceAfter, blockedSections, sectionOf, List.countP_append]

/-- In every interleaving the dead workers are as many as the blocked requests. -/
theorem dead_eq_blocked (run : Run (interleavedPool env).system trace pool) :
    ∑ worker, dead (pool.processes worker) = blockedCount trace := by
  induction run with
  | start starts =>
      have alive : ∀ worker, dead _ = 0 := fun worker => congrArg dead (starts.2 worker)
      simp [blockedCount, alive]
  | @snoc trace pool next happening before step ih =>
      rw [blockedCount_snoc, ← ih]
      cases step with
      | own worker action shared after acts =>
          have moved := dead_step worker (follows_of_run before worker)
            (interleaved_reachable before) acts
          have summed := Family.sum_update dead pool.processes worker after
          simp only at summed ⊢
          omega
      | outside draws shared tick => simp [sectionOf, blockedCheck]

theorem blockedCount_le (run : Run (interleavedPool env).system trace pool) :
    blockedCount trace ≤ workerCount := by
  rw [← dead_eq_blocked run]
  have bound := Finset.sum_le_card_nsmul Finset.univ (fun worker => dead (pool.processes worker))
    1 fun worker _ => dead_le_one _
  rwa [Finset.card_univ, Fintype.card_fin, smul_eq_mul, Nat.mul_one] at bound

/-! ## The parent process -/

/-- The pool and the process that forked it: the children that `wait` has
reported, and whether `start_coordinator_process` has returned. -/
structure Supervised (γ : Type u) where
  pool : Workforce γ
  reaped : Finset Worker
  returned : Bool

/-- Something happens in the pool, `wait` reports a child, or it finds none. -/
inductive SupervisedAction (γ : Type u)
  | happened (happening : Happening γ)
  | reported (worker : Worker)
  | childless

/-- The pool beside the loop of `start_coordinator_process`, which blocks in
`wait` as long as an unreported child lives. -/
inductive SupervisedStep (env : Env γ) (state : Supervised γ) :
    SupervisedAction γ → Supervised γ → Prop
  | happen (happening : Happening γ) (next : Workforce γ)
      (step : (interleavedPool env).Step state.pool happening next) :
      SupervisedStep env state (.happened happening) { state with pool := next }
  | report (worker : Worker) (waits : state.returned = false)
      (died : dead (state.pool.processes worker) = 1) (fresh : worker ∉ state.reaped) :
      SupervisedStep env state (.reported worker)
        { state with reaped := insert worker state.reaped }
  | childless (waits : state.returned = false) (all : ∀ worker, worker ∈ state.reaped) :
      SupervisedStep env state .childless { state with returned := true }

/-- The server process with its children, as long as nobody interrupts it. -/
def supervised (env : Env γ) : Transition.System (Supervised γ) (SupervisedAction γ) where
  initial state := (interleavedPool env).initial state.pool ∧ state.reaped = ∅ ∧
    state.returned = false
  step := SupervisedStep env

def happeningOf : SupervisedAction γ → Option (Happening γ)
  | .happened happening => some happening
  | .reported _ => none
  | .childless => none

/-- The blocked requests of a run of the server. -/
def blockedBefore (trace : List (SupervisedAction γ)) : Nat :=
  blockedCount (trace.filterMap happeningOf)

variable {watched : List (SupervisedAction γ)} {state : Supervised γ}

theorem supervised_pool (run : Run (supervised env) watched state) :
    Run (interleavedPool env).system (watched.filterMap happeningOf) state.pool := by
  apply run.refines Supervised.pool happeningOf
  · rintro start ⟨fresh, _⟩
    exact fresh
  · intro before action after _ step hidden
    cases step with
    | happen happening next step => cases hidden
    | report worker waits died fresh => rfl
    | childless waits all => rfl
  · intro before action after happening _ step shown
    cases step with
    | happen happened next step =>
        cases shown
        exact step
    | report worker waits died fresh => cases shown
    | childless waits all => cases shown

/-- A dead worker stays dead, whoever moves. -/
theorem dead_stays (worker : Worker) {happening : Happening γ} {after : Workforce γ}
    (step : (interleavedPool env).Step pool happening after)
    (died : dead (pool.processes worker) = 1) : dead (after.processes worker) = 1 := by
  rcases Family.step_cases worker step with ⟨action, rfl, acts⟩ | ⟨_, kept⟩
  · generalize pool.processes worker = phase at acts died
    generalize after.processes worker = later at acts
    generalize pool.shared = shared at acts
    generalize after.shared = next at acts
    cases acts <;> cases died
  · rw [kept]
    exact died

/-- What the parent knows: it only counts dead children, and all of them before
it returns. -/
structure Counted (state : Supervised γ) : Prop where
  died : ∀ worker ∈ state.reaped, dead (state.pool.processes worker) = 1
  all : state.returned = true → ∀ worker, worker ∈ state.reaped

theorem counted_step {action : SupervisedAction γ} {after : Supervised γ}
    (counted : Counted state) (step : SupervisedStep env state action after) :
    Counted after := by
  cases step with
  | happen happening next step =>
      exact ⟨fun worker member => dead_stays worker step (counted.died worker member),
        counted.all⟩
  | report worker waits died fresh =>
      refine ⟨?_, ?_⟩
      · intro other member
        rcases Finset.mem_insert.mp member with rfl | earlier
        · exact died
        · exact counted.died other earlier
      · intro returned other
        exact Finset.mem_insert_of_mem (counted.all returned other)
  | childless waits all => exact ⟨counted.died, fun _ => all⟩

theorem counted_of_run (run : Run (supervised env) watched state) : Counted state := by
  apply run.reachable.invariant
  · rintro start ⟨_, none_, waits⟩
    refine ⟨?_, ?_⟩
    · intro worker member
      rw [none_] at member
      exact absurd member (Finset.notMem_empty worker)
    · intro returned
      rw [waits] at returned
      cases returned
  · intro before action after counted step
    exact counted_step counted step

/-- All workers are dead exactly after a hundred blocked requests, and there are
never more. -/
theorem blockedBefore_spec (run : Run (supervised env) watched state) :
    blockedBefore watched ≤ workerCount ∧
      (blockedBefore watched = workerCount ↔
        ∀ worker, dead (state.pool.processes worker) = 1) := by
  have most : ∀ worker ∈ Finset.univ, dead (state.pool.processes worker) ≤ 1 :=
    fun worker _ => dead_le_one _
  refine ⟨blockedCount_le (supervised_pool run), ?_⟩
  rw [blockedBefore, ← dead_eq_blocked (supervised_pool run)]
  have sum_one : ∑ _worker : Worker, 1 = workerCount := by simp
  have full := Finset.sum_eq_sum_iff_of_le most
  rw [sum_one] at full
  rw [full]
  exact ⟨fun all worker => all worker (Finset.mem_univ worker), fun all worker _ => all worker⟩

/-- The parent's own steps. -/
def watching (action : SupervisedAction γ) : Prop :=
  happeningOf action = none

/-- `wait` can report any dead children, one after the other. -/
theorem leads_reports (env : Env γ) (todo : Finset Worker) (waits : state.returned = false)
    (died : ∀ worker ∈ todo, dead (state.pool.processes worker) = 1)
    (fresh : Disjoint state.reaped todo) :
    ∃ reports, Leads (supervised env) state reports
        { state with reaped := state.reaped ∪ todo } ∧ ∀ action ∈ reports, watching action := by
  induction todo using Finset.induction_on with
  | empty => exact ⟨[], by rw [Finset.union_empty]; exact Leads.refl, nofun⟩
  | insert worker todo absent ih =>
      obtain ⟨newcomer, others⟩ := Finset.disjoint_insert_right.mp fresh
      obtain ⟨reports, path, quiet⟩ :=
        ih (fun other member => died other (Finset.mem_insert_of_mem member)) others
      have missing : worker ∉ state.reaped ∪ todo := fun member =>
        (Finset.mem_union.mp member).elim newcomer absent
      have step : (supervised env).step { state with reaped := state.reaped ∪ todo }
          (.reported worker) _ :=
        SupervisedStep.report worker waits (died worker (Finset.mem_insert_self worker todo))
          missing
      rw [Finset.union_insert]
      refine ⟨reports ++ [.reported worker], path.snoc step, ?_⟩
      intro action member
      rcases List.mem_append.mp member with earlier | latest
      · exact quiet action earlier
      · rw [List.mem_singleton.mp latest, watching, happeningOf]

/-- Once all workers are dead, `start_coordinator_process` returns. -/
theorem leads_return (env : Env γ)
    (died : ∀ worker, dead (state.pool.processes worker) = 1) :
    ∃ later last, Leads (supervised env) state later last ∧ last.returned = true ∧
      ∀ action ∈ later, watching action := by
  cases returned : state.returned with
  | true => exact ⟨[], state, Leads.refl, returned, nofun⟩
  | false =>
      obtain ⟨reports, path, quiet⟩ := leads_reports env (Finset.univ \ state.reaped)
        returned (fun worker _ => died worker) Finset.disjoint_sdiff
      have step : (supervised env).step
          { state with reaped := state.reaped ∪ (Finset.univ \ state.reaped) } .childless _ :=
        SupervisedStep.childless returned fun worker => by
          rw [Finset.union_sdiff_of_subset (Finset.subset_univ _)]
          exact Finset.mem_univ worker
      refine ⟨reports ++ [.childless], _, path.snoc step, rfl, ?_⟩
      intro action member
      rcases List.mem_append.mp member with earlier | latest
      · exact quiet action earlier
      · rw [List.mem_singleton.mp latest, watching, happeningOf]

/-- Dead workers do nothing, and no step brings one back. -/
theorem leads_dead {later : List (SupervisedAction γ)} {last : Supervised γ}
    (path : Leads (supervised env) state later last)
    (died : ∀ worker, dead (state.pool.processes worker) = 1) :
    (∀ worker, dead (last.pool.processes worker) = 1) ∧
      ∀ worker action, .happened (.own worker action) ∉ later := by
  induction path with
  | refl => exact ⟨died, fun _ _ => List.not_mem_nil⟩
  | @snoc later middle last action _ step ih =>
      obtain ⟨dead_, idle⟩ := ih
      refine ⟨?_, ?_⟩
      · intro worker
        cases step with
        | happen happening next step => exact dead_stays worker step (dead_ worker)
        | report reported waits died fresh => exact dead_ worker
        | childless waits all => exact dead_ worker
      · intro worker moved member
        rcases List.mem_append.mp member with earlier | latest
        · exact idle worker moved earlier
        · obtain rfl := List.mem_singleton.mp latest
          cases step with
          | happen _ next step =>
              cases step with
              | own _ _ shared after acts =>
                  have gone := dead_ worker
                  generalize middle.pool.processes worker = phase at acts gone
                  generalize middle.pool.shared = before at acts
                  cases acts <;> cases gone

/-! ## Requests alone -/

theorem reqCount_step {entry : Fin maxClients} {state : SharedState} (now : Int)
    (nonneg : 0 ≤ state.clientReqCount entry) (small : state.clientReqCount entry < 2 ^ 31 - 1) :
    1 ≤ (recordRequest entry now state).clientReqCount entry ∧
      (recordRequest entry now state).clientReqCount entry ≤ state.clientReqCount entry + 1 ∧
      (state.clientLastSeen entry = now →
        (recordRequest entry now state).clientReqCount entry =
          state.clientReqCount entry + 1) := by
  have next : wrap32 (state.clientReqCount entry + 1) = state.clientReqCount entry + 1 :=
    wrap32_eq_self (by omega) (by omega)
  rw [recordRequest_reqCount, next]
  split
  next same => exact ⟨by omega, Int.le_refl _, fun _ => rfl⟩
  next other => exact ⟨Int.le_refl 1, by omega, fun same => absurd same other⟩

/-- A blocked check raises a client's count by one at most, and any other leaves it
within the limit. -/
theorem reqCount_le {events : List Event} {state : SharedState}
    (run : Run secureServer events state) (entry : Fin maxClients)
    (few : events.countP blockedCheck ≤ workerCount) :
    0 ≤ state.clientReqCount entry ∧
      state.clientReqCount entry ≤ 3 + events.countP blockedCheck := by
  have size : workerCount = 100 := rfl
  induction run with
  | start starts =>
      obtain ⟨driverCount, mode, draws, _, fits, started⟩ := starts
      rw [serverMain, SharedState.forDrivers_eq_some _ (by exact fits)] at started
      cases started
      exact ⟨Int.le_refl 0, by simp [SharedState.zeroed]⟩
  | @snoc events state next event before step ih =>
      rw [List.countP_append] at few ⊢
      obtain ⟨nonneg, most⟩ := ih (by omega)
      cases criticalSection_shared step with
      | unserved | dispatched | ticked | refused | joined | uncounted =>
          exact ⟨nonneg, most.trans (by push_cast; omega)⟩
      | counted clientId now blocked slot hasEntry verdict =>
          by_cases same : entry = slot
          · subst same
            obtain ⟨lower, upper, _⟩ := reqCount_step now nonneg (by omega)
            refine ⟨by omega, ?_⟩
            cases blocked with
            | true =>
                have one : [Event.rateLimitCheck clientId now true].countP blockedCheck = 1 := rfl
                rw [one]
                push_cast
                omega
            | false =>
                have within := of_decide_eq_false verdict.symm
                push_cast
                omega
          · rw [(recordRequest_frame slot now state).clientReqCount entry same]
            exact ⟨nonneg, by push_cast; omega⟩

/-- The worker moves, and takes no connection but the given one. -/
def Takes (visit : Visit γ) (happening : Happening γ) : Prop :=
  ∃ worker action, happening = .own worker action ∧
    ∀ other, action = .accepted other → other = visit

theorem StaysOn.takes {happening : Happening γ} (stays : StaysOn worker happening)
    (visit : Visit γ) : Takes visit happening := by
  obtain ⟨action, rfl, same⟩ := stays
  exact ⟨worker, action, rfl, fun other taken => absurd taken (same other)⟩

/-- The worker alone is brought to something. -/
structure Brings (env : Env γ) (visit : Visit γ) (pool : Workforce γ) (worker : Worker)
    (path : List (Happening γ)) (last : Workforce γ) : Prop where
  leads : Leads (interleavedPool env).system pool path last
  others : ∀ other, other ≠ worker → last.processes other = pool.processes other
  takes : ∀ happening ∈ path, Takes visit happening

theorem Brings.trans {visit : Visit γ} {middle last : Workforce γ}
    {first second : List (Happening γ)} (brings : Brings env visit pool worker first middle)
    (onward : Brings env visit middle worker second last) :
    Brings env visit pool worker (first ++ second) last := by
  refine ⟨brings.leads.append onward.leads, ?_, ?_⟩
  · intro other distinct
    exact (onward.others other distinct).trans (brings.others other distinct)
  · intro happening member
    rcases List.mem_append.mp member with earlier | later
    · exact brings.takes happening earlier
    · exact onward.takes happening later

/-- A worker can always finish the connection that it serves. -/
theorem brings_finished (env : Env γ) (visit : Visit γ) (pool : Workforce γ) (worker : Worker) :
    ∃ path last, Brings env visit pool worker path last ∧
      (last.processes worker = .accepting ∨ dead (last.processes worker) = 1) := by
  cases ends : (pool.processes worker).alone env pool.shared with
  | none =>
      refine ⟨[], pool, ⟨Leads.refl, fun _ _ => rfl, nofun⟩, Or.inl ?_⟩
      generalize pool.processes worker = phase at ends
      cases phase <;> first | rfl | cases ends
  | some result =>
      have moves : Relation.ReflTransGen ((interleavedPool env).Moves Stays)
          (pool.shared, pool.processes worker) ((exitWorld result).shared, exitPhase result) :=
        moves_to_end ends
      obtain ⟨path, leads, own⟩ := Family.leads_of_moves worker moves
      cases result with
      | returned world =>
          refine ⟨_, _, ⟨leads.snoc (closes_step env pool.processes worker world), ?_, ?_⟩,
            Or.inl (Function.update_self _ _ _)⟩
          · exact fun other distinct => Function.update_of_ne distinct _ _
          · intro happening member
            exact (staysOn_snoc own stays_proceeded happening member).takes visit
      | killed world =>
          refine ⟨path, _, ⟨leads, ?_, ?_⟩, Or.inr ?_⟩
          · exact fun other distinct => Function.update_of_ne distinct _ _
          · exact fun happening member => StaysOn.takes (own happening member) visit
          · simp only [Function.update_self]
            rfl

section

variable {outside : γ} {clientId : Int} {entry : Fin maxClients} {key : Rc4State}

/-- A waiting worker serves the client's request and dies, or waits again with one
request more in the client's entry. -/
theorem brings_request (scheduled : keySchedule (requestKey env outside) = some key)
    (hasEntry : limiterSlot clientId = some entry)
    (run : Run (interleavedPool env).system trace pool)
    (waits : pool.processes worker = .accepting) :
    ∃ path last, Brings env (requestVisit outside clientId key) pool worker path last ∧
      (dead (last.processes worker) = 1 ∨
        last.processes worker = .accepting ∧
          last.shared.clientLastSeen entry = requestReading env outside ∧
          last.shared.clientReqCount entry =
            (recordRequest entry (requestReading env outside) pool.shared).clientReqCount entry ∧
          (recordRequest entry (requestReading env outside) pool.shared).clientReqCount entry ≤
            3) := by
  have taken := takes_step env worker waits (requestVisit outside clientId key)
    WriteEnd.reliable_nil
  have first : Takes (requestVisit outside clientId key)
      (.own worker (.accepted (requestVisit outside clientId key))) :=
    ⟨worker, _, rfl, fun _ same => (WorkerAction.accepted.inj same).symm⟩
  have begins : Leads (interleavedPool env).system pool
      [.own worker (.accepted (requestVisit outside clientId key))]
      (takes pool worker (requestVisit outside clientId key)) := Leads.refl.snoc taken
  have whole : ∀ path : List (Happening γ), (∀ happening ∈ path, StaysOn worker happening) →
      ∀ happening ∈ [.own worker (.accepted (requestVisit outside clientId key))] ++ path,
        Takes (requestVisit outside clientId key) happening := by
    intro path own happening member
    rcases List.mem_append.mp member with begun | later
    · rw [List.mem_singleton.mp begun]
      exact first
    · exact (own happening later).takes _
  by_cases few : (recordRequest entry (requestReading env outside) pool.shared).clientReqCount
      entry ≤ 3
  · obtain ⟨after, handled, seen, count, _⟩ :=
      requestVisit_returned scheduled hasEntry (interleaved_reachable run) few
    obtain ⟨path, leads, own⟩ := leads_of_returned worker waits handled
    exact ⟨_, _, ⟨begins.append leads, fun _ _ => rfl, whole path own⟩,
      Or.inr ⟨waits, seen, count, few⟩⟩
  · obtain ⟨after, handled, _⟩ := requestVisit_killed scheduled hasEntry
      (Int.not_le.mp few)
    obtain ⟨path, leads, own⟩ := leads_of_visit env pool worker (requestVisit outside clientId key)
    rw [handled] at leads
    refine ⟨_, _, ⟨begins.append leads, ?_, whole path own⟩, Or.inl ?_⟩
    · exact fun other distinct => Function.update_of_ne distinct _ _
    · simp only [Function.update_self]
      rfl

/-- Four requests in one second are enough for a waiting worker. -/
theorem brings_death (scheduled : keySchedule (requestKey env outside) = some key)
    (hasEntry : limiterSlot clientId = some entry) (left : Nat)
    (run : Run (interleavedPool env).system trace pool)
    (waits : pool.processes worker = .accepting)
    (close : 4 ≤ (recordRequest entry (requestReading env outside) pool.shared).clientReqCount
      entry + left) :
    ∃ path last, Brings env (requestVisit outside clientId key) pool worker path last ∧
      dead (last.processes worker) = 1 := by
  induction left generalizing trace pool with
  | zero =>
      obtain ⟨path, last, brings, died | ⟨_, _, _, few⟩⟩ :=
        brings_request scheduled hasEntry run waits
      · exact ⟨path, last, brings, died⟩
      · push_cast at close
        omega
  | succ left ih =>
      obtain ⟨path, last, brings, died | ⟨still, seen, count, few⟩⟩ :=
        brings_request scheduled hasEntry run waits
      · exact ⟨path, last, brings, died⟩
      · have later := run.append brings.leads
        obtain ⟨nonneg, _⟩ := reqCount_le (shared_run later) entry (blockedCount_le later)
        obtain ⟨_, _, again⟩ := reqCount_step (requestReading env outside) nonneg
          (by rw [count]; omega)
        obtain ⟨rest, final, onward, died⟩ := ih later still (by
          rw [again seen, count]
          push_cast at close
          omega)
        exact ⟨_, final, brings.trans onward, died⟩

/-- Whatever it is doing, a worker can be brought down by requests of one client
alone. -/
theorem brings_down (scheduled : keySchedule (requestKey env outside) = some key)
    (hasEntry : limiterSlot clientId = some entry)
    (run : Run (interleavedPool env).system trace pool) (worker : Worker) :
    ∃ path last, Brings env (requestVisit outside clientId key) pool worker path last ∧
      dead (last.processes worker) = 1 := by
  obtain ⟨path, middle, brings, waits | died⟩ :=
    brings_finished env (requestVisit outside clientId key) pool worker
  · have later := run.append brings.leads
    obtain ⟨nonneg, most⟩ := reqCount_le (shared_run later) entry (blockedCount_le later)
    have few := blockedCount_le later
    have size : workerCount = 100 := rfl
    obtain ⟨positive, _⟩ := reqCount_step (requestReading env outside) nonneg (by
      rw [← blockedCount] at most
      omega)
    obtain ⟨rest, last, onward, died⟩ := brings_death scheduled hasEntry 3 later waits (by omega)
    exact ⟨_, last, brings.trans onward, died⟩
  · exact ⟨path, middle, brings, died⟩

/-- Every reachable pool can be brought down so. -/
theorem leads_down (scheduled : keySchedule (requestKey env outside) = some key)
    (hasEntry : limiterSlot clientId = some entry)
    (run : Run (interleavedPool env).system trace pool) :
    ∃ path last, Leads (interleavedPool env).system pool path last ∧
      (∀ worker, dead (last.processes worker) = 1) ∧
      ∀ happening ∈ path, Takes (requestVisit outside clientId key) happening := by
  apply Family.leads_each (P := fun phase : Phase γ => dead phase = 1) _ run
  intro worker trace pool run
  obtain ⟨path, last, brings, died⟩ := brings_down scheduled hasEntry run worker
  exact ⟨path, last, brings.leads, died, brings.others, brings.takes⟩

end

/-- What happens in the pool happens under its parent. -/
theorem supervised_leads {path : List (Happening γ)} {last : Workforce γ}
    (leads : Leads (interleavedPool env).system state.pool path last) :
    Leads (supervised env) state (path.map .happened) { state with pool := last } := by
  induction leads with
  | refl => exact Leads.refl
  | snoc _ step ih =>
      rw [List.map_append]
      exact ih.snoc (.happen _ _ step)

end RideHailing.Session
