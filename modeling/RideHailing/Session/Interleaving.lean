import RideHailing.Fleet.Cells
import RideHailing.Fleet.Ledger
import RideHailing.Session.Alone
import RideHailing.Session.Blocked
import RideHailing.Transition.Interleaving

/-!
# The interleaved pool

The workers of `start_coordinator_process` run side by side, each cut at its
critical sections, with ticks of the map monitor anywhere between.  Seen at the
releases of the mutex such a run is a run of the server; and every connection
that a worker serves without interruption is one of its paths.
-/

namespace RideHailing.Session

open RideHailing.Bytes
open RideHailing.Common
open RideHailing.Fleet
open RideHailing.Server
open RideHailing.Transition

universe u

variable {γ : Type u} {env : Env γ}

/-- A worker, by its place in `workers`. -/
abbrev Worker := Fin workerCount

/-- The state of the pool. -/
abbrev Workforce (γ : Type u) := Global Worker SharedState (Phase γ)

/-- What happens in the pool: a worker moves, or the monitor runs with some
outcomes of its `rand()` calls. -/
abbrev Happening (γ : Type u) := Action Worker (WorkerAction γ) (Nat → TickDraws)

/-- The pool as `start_coordinator_process` forks it. -/
def interleavedPool (env : Env γ) :
    Family Worker SharedState (Phase γ) (WorkerAction γ) (Nat → TickDraws) where
  initial pool := secureServer.initial pool.shared ∧ ∀ worker, pool.processes worker = .accepting
  act := WorkerStep env
  outside shared draws next := mapMonitorTick initMapObstacles draws shared = some next

/-- The critical section of a step. -/
def sectionOf : Happening γ → Option Event
  | .own _ (.entered event) => some event
  | .own _ (.accepted _) => none
  | .own _ .proceeded => none
  | .outside _ => some .monitorTick

variable {trace : List (Happening γ)} {pool next : Workforce γ} {happening : Happening γ}

/-- A step that enters a critical section is a step of the server. -/
theorem step_visible {event : Event} (step : (interleavedPool env).Step pool happening next)
    (shown : sectionOf happening = some event) :
    secureServer.step pool.shared event next.shared := by
  cases step with
  | own worker action shared after acts =>
      cases action with
      | accepted visit => cases shown
      | proceeded => cases shown
      | entered entered =>
          cases shown
          exact acts.criticalSection
  | outside draws shared tick =>
      cases shown
      exact ⟨draws, tick⟩

/-- Any other step leaves the shared memory alone. -/
theorem step_silent (step : (interleavedPool env).Step pool happening next)
    (hidden : sectionOf happening = none) : next.shared = pool.shared := by
  cases step with
  | own worker action shared after acts =>
      apply acts.silent
      rintro event rfl
      cases hidden
  | outside draws shared tick => cases hidden

/-- In every interleaving of any connections the shared memory goes through a
run of the server. -/
theorem shared_run (run : Run (interleavedPool env).system trace pool) :
    Run secureServer (trace.filterMap sectionOf) pool.shared := by
  apply run.refines Global.shared sectionOf
  · rintro start ⟨fresh, _⟩
    exact fresh
  · intro before happening after _ step hidden
    exact step_silent step hidden
  · intro before happening after event _ step shown
    exact step_visible step shown

theorem interleaved_reachable (run : Run (interleavedPool env).system trace pool) :
    Reachable secureServer pool.shared :=
  (shared_run run).reachable

/-! ## One worker at a time -/

/-- The pool after a worker has taken a connection. -/
def takes (pool : Workforce γ) (worker : Worker) (visit : Visit γ) : Workforce γ where
  shared := pool.shared
  processes := Function.update pool.processes worker visit.phase

theorem takes_step (env : Env γ) (worker : Worker) (waits : pool.processes worker = .accepting)
    (visit : Visit γ) (delivers : visit.writes.Reliable) :
    (interleavedPool env).Step pool (.own worker (.accepted visit)) (takes pool worker visit) := by
  have acts : (interleavedPool env).act pool.shared (pool.processes worker) (.accepted visit)
      pool.shared visit.phase := by
    rw [waits]
    exact .accept visit delivers
  exact .own worker _ pool.shared visit.phase acts

/-- A happening of one worker that stays with its connection. -/
def StaysOn (worker : Worker) (happening : Happening γ) : Prop :=
  ∃ action, happening = .own worker action ∧ Stays action

/-- A worker that is not interrupted serves a connection exactly as
`handle_client` does. -/
theorem leads_of_visit (env : Env γ) (pool : Workforce γ) (worker : Worker) (visit : Visit γ) :
    ∃ trace, Leads (interleavedPool env).system (takes pool worker visit) trace
        ⟨(exitWorld (visit.handle env pool.shared)).shared,
          Function.update pool.processes worker (exitPhase (visit.handle env pool.shared))⟩ ∧
      ∀ happening ∈ trace, StaysOn worker happening := by
  have ends : visit.phase.alone env pool.shared = some (visit.handle env pool.shared) := rfl
  have moves : Relation.ReflTransGen ((interleavedPool env).Moves Stays)
      ((takes pool worker visit).shared, (takes pool worker visit).processes worker)
      ((exitWorld (visit.handle env pool.shared)).shared,
        exitPhase (visit.handle env pool.shared)) := by
    simp only [takes, Function.update_self]
    exact moves_to_end ends
  have path := Family.leads_of_moves worker moves
  simp only [takes, Function.update_idem] at path
  exact path

/-- The worker closes a connection whose call has returned. -/
theorem closes_step (env : Env γ) (processes : Worker → Phase γ) (worker : Worker)
    (world : World γ) :
    (interleavedPool env).Step
      ⟨world.shared, Function.update processes worker (.closing (localPart world))⟩
      (.own worker .proceeded) ⟨world.shared, Function.update processes worker .accepting⟩ :=
  Family.step_again (interleavedPool env) processes worker (.close (localPart world))

/-- What can be added to a path of one worker's steps. -/
theorem staysOn_snoc {worker : Worker} {trace : List (Happening γ)}
    (own : ∀ happening ∈ trace, StaysOn worker happening) {action : WorkerAction γ}
    (stays : Stays action) :
    ∀ happening ∈ trace ++ [.own worker action], StaysOn worker happening := by
  intro happening member
  rcases List.mem_append.mp member with earlier | latest
  · exact own happening earlier
  · exact ⟨action, List.mem_singleton.mp latest, stays⟩

/-- Where the call returns, the worker closes the connection and waits again. -/
theorem leads_of_returned (worker : Worker) (waits : pool.processes worker = .accepting)
    {visit : Visit γ} {after : World γ}
    (handled : visit.handle env pool.shared = .returned after) :
    ∃ trace, Leads (interleavedPool env).system (takes pool worker visit) trace
        ⟨after.shared, pool.processes⟩ ∧
      ∀ happening ∈ trace, StaysOn worker happening := by
  obtain ⟨trace, path, own⟩ := leads_of_visit env pool worker visit
  rw [handled, exitWorld, exitPhase] at path
  have closed := closes_step env pool.processes worker after
  rw [← waits, Function.update_eq_self] at closed
  exact ⟨_, path.snoc closed, staysOn_snoc own stays_proceeded⟩

/-- What a path of one worker's own steps on a connection can do. -/
structure LeftAlone (env : Env γ) (pool : Workforce γ) (worker : Worker) (visit : Visit γ)
    (trace : List (Happening γ)) (last : Workforce γ) : Prop where
  bound : trace.length ≤ 5 + visit.socket.bytes.length
  others : ∀ other, other ≠ worker → last.processes other = pool.processes other
  serves : Serves env visit pool.shared last.shared (last.processes worker)

theorem leftAlone_of_leads {worker : Worker} {visit : Visit γ} {last : Workforce γ}
    (path : Leads (interleavedPool env).system (takes pool worker visit) trace last)
    (own : ∀ happening ∈ trace, StaysOn worker happening) :
    LeftAlone env pool worker visit trace last := by
  suffices measured : trace.length + (last.processes worker).stepsLeft ≤
      5 + visit.socket.bytes.length ∧ LeftAlone env pool worker visit trace last from measured.2
  induction path with
  | refl =>
      have begins : (takes pool worker visit).processes worker = visit.phase :=
        Function.update_self _ _ _
      have most : visit.phase.stepsLeft = 5 + visit.socket.bytes.length := by
        simp only [Visit.phase, Phase.stepsLeft, Phase.remaining]
        omega
      refine ⟨?_, Nat.zero_le _, fun other distinct => Function.update_of_ne distinct _ _, ?_⟩
      · rw [begins, most]
        exact Nat.le_of_eq (Nat.zero_add _)
      · rw [begins]
        exact serves_of_alone rfl
  | @snoc trace middle last happening _ step ih =>
      obtain ⟨length, before⟩ :=
        ih fun earlier member => own earlier (List.mem_append_left _ member)
      obtain ⟨action, rfl, stays⟩ := own _ (List.mem_append_right _ (List.mem_singleton_self _))
      cases step with
      | own _ _ shared after acts =>
          have fewer := WorkerStep.fewer acts stays
          have steps : (trace ++ [Action.own worker action]).length = trace.length + 1 :=
            List.length_append
          refine ⟨?_, ?_, ?_, ?_⟩
          · simp only [Function.update_self]
            omega
          · omega
          · intro other distinct
            exact (Function.update_of_ne distinct _ _).trans (before.others other distinct)
          · simp only [Function.update_self]
            exact before.serves.step acts stays

/-- Side by side, the workers and the monitor take the shared memory through runs
of the server only; and a worker that is left alone with a connection does with
it what `handle_client` does, reaches the end of the call after a bounded number
of steps, and then is dead, where the call dies, or back in `accept`. -/
theorem pool_refines_server (env : Env γ) :
    (∀ trace pool, Run (interleavedPool env).system trace pool →
      Run secureServer (trace.filterMap sectionOf) pool.shared) ∧
    ∀ pool worker (visit : Visit γ), pool.processes worker = .accepting →
      visit.writes.Reliable →
      (interleavedPool env).Step pool (.own worker (.accepted visit)) (takes pool worker visit) ∧
        ∀ trace last, Leads (interleavedPool env).system (takes pool worker visit) trace last →
          (∀ happening ∈ trace, StaysOn worker happening) →
            LeftAlone env pool worker visit trace last := by
  refine ⟨fun _ _ run => shared_run run, fun pool worker visit waits delivers => ?_⟩
  exact ⟨takes_step env worker waits visit delivers,
    fun _ _ path own => leftAlone_of_leads path own⟩

/-- The pool before its first connection. -/
def restingPool : Workforce Unit where
  shared := SharedState.zeroed
  processes _ := .accepting

theorem workerCount_pos : 0 < workerCount := by
  decide

def firstWorker : Worker :=
  ⟨0, workerCount_pos⟩

/-- The same pool with one driver. -/
def drivenPool : Workforce Unit :=
  { restingPool with shared := baseDriver }

theorem drivenPool_run : Run (interleavedPool stillEnv).system [] drivenPool :=
  Run.start ⟨baseDriver_initial, fun _ => rfl⟩

/-- There client 7 gets the ride that it asks for. -/
theorem rideVisit_rode {key : Rc4State}
    (scheduled : keySchedule (firstExchange.serverKey stillEnv) = some key) :
    ∃ after, (rideVisit key).handle stillEnv drivenPool.shared = .returned after ∧
      after.shared.totalSuccessRequests = 1 := by
  have reachable : Reachable secureServer baseDriver := (Run.start baseDriver_initial).reachable
  have few : (recordRequest entry7 5 baseDriver).clientReqCount entry7 ≤ 3 := by
    rw [recordRequest_reqCount, if_neg (by decide)]
    norm_num
  obtain ⟨after, handled, _, _, draws, outcome, section_⟩ :=
    rideVisit_returned scheduled reachable few
  have frame := recordRequest_frame entry7 5 baseDriver
  have sole : Sole (initDriver 0 ⟨0, 0, 0⟩ Driver.zeroed) (recordRequest entry7 5 baseDriver) :=
    ⟨frame.driverCount.trans baseDriver_sole.count,
      (congrFun frame.drivers 0).trans baseDriver_sole.record⟩
  obtain ⟨next, rode, _⟩ := sole.ride (by decide) (by decide +kernel) 7 draws
  obtain ⟨rfl, rfl⟩ := Prod.mk.inj (Option.some.inj (section_.symm.trans rode))
  have step : CriticalSection (recordRequest entry7 5 baseDriver) (.rideRequest 7 (some 0))
      after.shared := ⟨draws, _, rode, rfl⟩
  refine ⟨after, handled, ?_⟩
  rw [(criticalSection_success step rfl).1, frame.totalSuccessRequests]
  rfl

/-- A worker that is left alone with that connection dispatches the ride and comes
back. -/
theorem pool_refines_server_rideVisit :
    ∃ (key : Rc4State) (trace : List (Happening Unit)) (last : Workforce Unit),
      Leads (interleavedPool stillEnv).system (takes drivenPool firstWorker (rideVisit key)) trace
          last ∧
        last.shared.totalSuccessRequests = 1 ∧ last.processes firstWorker = .accepting ∧
        LeftAlone stillEnv drivenPool firstWorker (rideVisit key) trace last := by
  obtain ⟨key, scheduled⟩ : ∃ key, keySchedule (firstExchange.serverKey stillEnv) = some key :=
    keySchedule_deriveSessionKey _
  have waits : drivenPool.processes firstWorker = .accepting := rfl
  obtain ⟨after, handled, rode⟩ := rideVisit_rode scheduled
  obtain ⟨trace, path, own⟩ := leads_of_returned firstWorker waits handled
  obtain ⟨_, alone⟩ := (pool_refines_server stillEnv).2 drivenPool firstWorker (rideVisit key)
    waits WriteEnd.reliable_nil
  exact ⟨key, trace, _, path, rode, rfl, alone trace _ path own⟩

end RideHailing.Session
