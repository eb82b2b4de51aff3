import RideHailing.Fleet.Reporting
import RideHailing.Session.Attribution

/-!
# Answers under interleaving

A worker formats the answer of a ride after it has released the mutex, from the
shared records.  Whatever the other workers and the monitor do in between, the
answer is that of the worker's own ride.
-/

namespace RideHailing.Session

open RideHailing.Bytes
open RideHailing.Common
open RideHailing.Fleet
open RideHailing.Server
open RideHailing.Transition

universe u

variable {γ : Type u} {env : Env γ} {worker : Worker} {phase : Phase γ}
  {shared next : SharedState} {trace : List (Happening γ)} {pool : Workforce γ}
  {found : Option (Fin maxDrivers × ℚ)} {sessionKey : CString} {own : Local γ}

/-- A worker comes to answer only from the critical section of a ride. -/
theorem answering_step {service : Option (Service γ)} {action : WorkerAction γ}
    (follows : Follows env service phase) (reachable : Reachable secureServer shared)
    (step : WorkerStep env shared phase action next (.answering found sessionKey own)) :
    ∃ clientId before, action = .entered (.rideRequest clientId (found.map Prod.fst)) ∧
      phase = .dispatching clientId sessionKey before ∧
      rideCriticalSection clientId (targetDraws env before) shared = some (next, found) := by
  have later := follows.step reachable step
  generalize reached : Phase.answering found sessionKey own = after at step later
  cases step with
  | accept visit delivers => cases reached
  | receive socket connection own =>
      rw [← reached] at later
      generalize kept : serviceAfter service .proceeded = since at later
      cases follows with
      | received visit _ received left =>
          cases kept
          cases later with
          | received _ _ received _ => cases received.knows
  | limit clientId sessionKey own =>
      rw [← reached] at later
      cases follows with
      | received visit _ received left =>
          generalize kept : serviceAfter _ _ = since at later
          cases later with
          | received _ _ received _ => cases received.knows
          | answering visit _ _ _ _ _ _ =>
              have sections := congrArg Service.sections (Option.some.inj kept)
              exact absurd (congrArg List.length sections) (by simp)
  | dispatch clientId _ before _ _ section_ =>
      cases reached
      exact ⟨clientId, before, rfl, rfl, section_⟩
  | dispatchFault clientId sessionKey own fault => cases reached
  | answer before key kept =>
      generalize replyText key (env.response shared before) (kept.world shared) = result at reached
      cases result <;> cases reached
  | join driverId own _ section_ => cases reached
  | joinFault driverId own fault => cases reached
  | close own => cases reached

/-- A path of the pool leads the shared memory along a path of the server. -/
theorem shared_leads {last : Workforce γ}
    (path : Leads (interleavedPool env).system pool trace last) :
    Leads secureServer pool.shared (trace.filterMap sectionOf) last.shared :=
  path.refines Global.shared sectionOf (fun _ _ _ step hidden => step_silent step hidden)
    (fun _ _ _ _ step shown => step_visible step shown)

/-- The answer to a ride, formatted at any later time. -/
theorem rideResponse_later (format : FloatFormat) {clientId : Int} {draws : TargetDraws}
    {before unlocked later : SharedState} {events : List Event}
    (reachable : Reachable secureServer before)
    (section_ : rideCriticalSection clientId draws before = some (unlocked, found))
    (path : Leads secureServer unlocked events later) :
    rideResponse format later found = rideResponse format unlocked found := by
  cases found with
  | none => rfl
  | some chosen =>
      obtain ⟨slot, dist⟩ := chosen
      have step : CriticalSection before (.rideRequest clientId (some slot)) unlocked :=
        ⟨draws, _, section_, rfl⟩
      have formed := reachable_wellFormed reachable
      obtain ⟨was, _, _⟩ := dispatched_record section_
      have active := (criticalSection_identity formed step was).1
      obtain ⟨_, _, driverId, rating, mode⟩ :=
        leads_identity (criticalSection_wellFormed formed step) active path
      refine rideResponse_congr format ?_ mode
      rw [confirmation, confirmation]
      simp only [driverId, rating]

/-- Every ride of a run was followed by a pool whose worker is about to answer. -/
theorem exists_answering {last : Workforce γ} (run : Run (interleavedPool env).system trace last)
    (rode : 0 < (rides (trace.filterMap sectionOf)).length) :
    ∃ before pool worker found sessionKey own, Run (interleavedPool env).system before pool ∧
      pool.processes worker = .answering found sessionKey own := by
  obtain ⟨_, worker, _, _, _, rfl⟩ := exists_entered run rode
  obtain ⟨state, next, start, step, _⟩ := run.split
  rcases Family.step_cases worker step with ⟨_, label, acts⟩ | ⟨interferes, _⟩
  · obtain ⟨_, rfl⟩ := Action.own.inj label
    generalize state.processes worker = phase at acts
    generalize answering : next.processes worker = after at acts
    cases acts with
    | dispatch clientId sessionKey own _ found section_ =>
        exact ⟨_, next, worker, found, sessionKey, _, start.snoc step, answering⟩
  · cases interferes with
    | other _ distinct _ _ _ _ _ => exact absurd rfl distinct

/-- The peer of a connection that is still served takes every write. -/
def Phase.Delivers : Phase γ → Prop
  | .receiving _ _ own => own.writes.Reliable
  | .limiting _ _ own => own.writes.Reliable
  | .dispatching _ _ own => own.writes.Reliable
  | .answering _ _ own => own.writes.Reliable
  | .joining _ own => own.writes.Reliable
  | .accepting => True
  | .closing _ => True
  | .killed _ => True

theorem delivers_exitPhase (result : Exit γ) : (exitPhase result).Delivers := by
  cases result with
  | returned world => trivial
  | killed world => trivial

theorem delivers_joinPhase (rest : ReadEnd) (connection : Connection)
    (delivers : own.writes.Reliable) : (joinPhase rest connection own).Delivers := by
  rw [joinPhase]
  split
  · exact delivers
  · exact delivers

theorem delivers_requestPhase (rest : ReadEnd) (connection : Connection)
    (delivers : own.writes.Reliable) : (requestPhase rest connection own).Delivers := by
  rw [requestPhase]
  split
  · trivial
  · split
    · trivial
    · split
      · trivial
      · split
        · exact delivers
        · exact delivers_joinPhase rest _ delivers

theorem delivers_packetPhase (env : Env γ) (rest : ReadEnd) (connection : Connection)
    (delivers : own.writes.Reliable) : (packetPhase env rest connection own).Delivers := by
  rw [packetPhase]
  split
  · have keyed : ∀ outside operation,
        (({ own with outside } : Local γ).record operation).writes.Reliable := fun _ _ => delivers
    exact (Local.send_send (keyed _ _) _ _).2
  · split
    · exact delivers_requestPhase rest connection delivers
    · exact delivers_joinPhase rest connection delivers

theorem delivers_receivePhase (env : Env γ) (socket : ReadEnd) (connection : Connection)
    (delivers : own.writes.Reliable) : (receivePhase env socket connection own).Delivers := by
  rcases round_cases socket connection with ends | ⟨body, rest, round⟩
  · rw [receivePhase_of_ends ends]
    trivial
  · rw [receivePhase_of_receives round]
    exact delivers_packetPhase env rest _ delivers

/-- No step of a worker takes reliable writes from it. -/
theorem WorkerStep.delivers {action : WorkerAction γ}
    (step : WorkerStep env shared phase action next after) (delivers : phase.Delivers) :
    after.Delivers := by
  cases step with
  | accept visit reliable => exact reliable
  | receive socket connection own => exact delivers_receivePhase env socket connection delivers
  | limit clientId sessionKey own =>
      rw [limitedPhase]
      split
      · generalize replyBlocked sessionKey _ = result
        exact delivers_exitPhase result
      · exact delivers
  | dispatch clientId sessionKey own _ found section_ => exact delivers
  | dispatchFault clientId sessionKey own fault => trivial
  | answer found sessionKey own =>
      generalize replyText sessionKey _ _ = result
      exact delivers_exitPhase result
  | join driverId own _ section_ => trivial
  | joinFault driverId own fault => trivial
  | close own => trivial

theorem delivers_of_run (run : Run (interleavedPool env).system trace pool) (worker : Worker) :
    (pool.processes worker).Delivers := by
  apply Family.process_invariant worker (P := fun _ _ phase => phase.Delivers) _ _ _ run
  · rintro start ⟨_, waiting⟩
    rw [waiting worker]
    trivial
  · intro trace pool action shared after _ delivers acts
    exact WorkerStep.delivers acts delivers
  · intro trace pool happening shared _ delivers _
    exact delivers

/-! ## The answer to every ride -/

/-- The bytes of an answer on the wire. -/
def answerBytes (key : Rc4State) (text : CString) : List UInt8 :=
  (responseHeader text text.length opResponse).encode ++ rc4Encrypt key text

/-- What became of an answer: its worker is still about to send it, or its next step
has appended the bytes to what it had sent on the connection, and since then it has
done nothing, or has closed the connection and waited for the next. -/
inductive Answered (env : Env γ) (worker : Worker) (found : Option (Fin maxDrivers × ℚ))
    (sessionKey : CString) (own : Local γ) (bytes : List UInt8) (pool : Workforce γ) :
    List (Happening γ) → Prop
  | pending (since : List (Happening γ)) (silent : ∀ action, .own worker action ∉ since)
      (waits : pool.processes worker = .answering found sessionKey own) :
      Answered env worker found sessionKey own bytes pool since
  | closing (idle rest : List (Happening γ)) (final : Local γ)
      (silent : ∀ action, .own worker action ∉ idle) (sent : final.sent = own.sent ++ bytes)
      (quiet : ∀ action, .own worker action ∉ rest)
      (closes : pool.processes worker = .closing final) :
      Answered env worker found sessionKey own bytes pool
        (idle ++ .own worker .proceeded :: rest)
  | closed (idle between rest : List (Happening γ)) (final : Local γ) (closing after : Workforce γ)
      (silent : ∀ action, .own worker action ∉ idle) (sent : final.sent = own.sent ++ bytes)
      (quiet : ∀ action, .own worker action ∉ between)
      (closes : closing.processes worker = .closing final)
      (step : (interleavedPool env).system.step closing (.own worker .proceeded) after)
      (waits : after.processes worker = .accepting)
      (path : Leads (interleavedPool env).system after rest pool) :
      Answered env worker found sessionKey own bytes pool
        (idle ++ .own worker .proceeded :: (between ++ .own worker .proceeded :: rest))

/-- A worker that has sent its answer lives on. -/
theorem answered_of_sent {idle rest : List (Happening γ)} {final : Local γ} {bytes : List UInt8}
    {sending : Workforce γ} (silent : ∀ action, .own worker action ∉ idle)
    (sent : final.sent = own.sent ++ bytes)
    (closes : sending.processes worker = .closing final)
    (path : Leads (interleavedPool env).system sending rest pool) :
    Answered env worker found sessionKey own bytes pool
      (idle ++ .own worker .proceeded :: rest) := by
  rcases Family.exists_first_step worker path with ⟨quiet, unmoved⟩ |
    ⟨between, action, more, middle, last, rfl, quiet, waiting, step, acts, tail⟩
  · exact .closing idle rest final silent sent quiet (unmoved.trans closes)
  · rw [closes] at acts
    have still := (Family.unmoved_of_idle waiting quiet).trans closes
    generalize reached : last.processes worker = phase at acts
    generalize last.shared = shared at acts
    cases acts with
    | close own =>
        exact .closed idle between more final middle last silent sent quiet still step reached tail

/-- In every interleaving each ride request that was entered came on the worker's
latest connection and is answered exactly once: the worker is still about to
answer, or its next step has sent the text of that very ride, sealed under the key
of that connection, after which the worker closes the connection and waits for the
next. -/
theorem ride_answered (formats : env.response = rideResponse env.format)
    (sendable : ∀ state found, Sendable (env.response state found)) {clientId : Int}
    {chosen : Option (Fin maxDrivers)} {earlier since : List (Happening γ)}
    (run : Run (interleavedPool env).system
      (earlier ++ .own worker (.entered (.rideRequest clientId chosen)) :: since) pool) :
    ∃ before visit middle now sessionKey key state entered draws found own,
      earlier = before ++ .own worker (.accepted visit) :: middle ∧
      (∀ other, .own worker (.accepted other) ∉ middle) ∧
      middle.filterMap (sectionBy worker) = [.rateLimitCheck clientId now false] ∧
      Requested env visit clientId sessionKey ∧ keySchedule sessionKey = some key ∧
      Run (interleavedPool env).system earlier state ∧
      (interleavedPool env).system.step state
        (.own worker (.entered (.rideRequest clientId chosen))) entered ∧
      rideCriticalSection clientId draws state.shared = some (entered.shared, found) ∧
      found.map Prod.fst = chosen ∧ entered.processes worker = .answering found sessionKey own ∧
      Answered env worker found sessionKey own
        (answerBytes key (env.response entered.shared found)) pool since := by
  obtain ⟨state, entered, start, step, path⟩ := run.split
  have reachable := interleaved_reachable start
  have follows := follows_of_run start worker
  have delivers := delivers_of_run (start.snoc step) worker
  rcases Family.step_cases worker step with ⟨_, label, acts⟩ | ⟨interferes, _⟩
  · obtain ⟨_, rfl⟩ := Action.own.inj label
    have first := Family.exists_first_step worker path
    generalize known : serviceOf worker earlier = service at follows
    generalize state.processes worker = phase at acts follows
    generalize answering : entered.processes worker = after at acts delivers
    generalize unlocked_eq : entered.shared = unlocked at acts
    cases acts with
    | dispatch _ sessionKey own _ found section_ =>
        cases follows with
        | received visit _ received left => cases received.knows
        | dispatching visit _ now _ _ requested =>
            obtain ⟨key, scheduled⟩ := requested.scheduled
            obtain ⟨before, middle, split, history⟩ := exists_since known
            have answered : Answered env worker found sessionKey
                (dispatchedLocal env clientId found.isSome own)
                (answerBytes key (env.response unlocked found)) pool since := by
              rw [answering] at first
              rcases first with ⟨silent, unmoved⟩ | ⟨idle, action, rest, before, final, rfl,
                silent, waiting, _, acts, tail⟩
              · exact .pending since silent unmoved
              · have later := shared_leads waiting
                rw [unlocked_eq] at later
                have same := rideResponse_later env.format reachable section_ later
                generalize reached : final.processes worker = phase at acts
                generalize final.shared = shared at acts
                cases acts with
                | answer _ _ _ =>
                    rw [replyText_sendable scheduled (sendable _ _), formats, same,
                      ← formats] at reached
                    exact answered_of_sent silent (Local.send_send delivers _ _).1 reached tail
            exact ⟨before, visit, middle, now, sessionKey, key, state, entered, _, found, _, split,
              history.latest, history.sections, requested, scheduled, start, step,
              unlocked_eq ▸ section_, rfl, answering, unlocked_eq ▸ answered⟩
  · cases interferes with
    | other _ distinct _ _ _ _ _ => exact absurd rfl distinct

/-- The ride of client 7 was answered: its worker has sent the bytes and waits. -/
theorem ride_answered_rodePool :
    ∃ (visit : Visit Unit) (clientId : Int) (sessionKey : CString) (key : Rc4State)
        (found : Option (Fin maxDrivers × ℚ)) (unlocked : SharedState) (own final : Local Unit)
        (closing : Workforce Unit) (worker : Worker),
      Requested stillEnv visit clientId sessionKey ∧ keySchedule sessionKey = some key ∧
        closing.processes worker = .closing final ∧
        final.sent = own.sent ++ answerBytes key (stillEnv.response unlocked found) := by
  obtain ⟨trace, pool, run, rode, waits⟩ := rodePool_run
  obtain ⟨earlier, worker, clientId, chosen, since, rfl⟩ := exists_entered run rode
  obtain ⟨_, visit, _, _, sessionKey, key, _, entered, _, found, own, _, _, _, requested,
    scheduled, _, _, _, _, _, answered⟩ :=
      ride_answered rfl (sendable_rideResponse plain_stillEnv) run
  cases answered with
  | pending _ _ pending =>
      rw [waits worker] at pending
      cases pending
  | closing _ _ _ _ _ _ closes =>
      rw [waits worker] at closes
      cases closes
  | closed _ _ _ final closing _ _ sent _ closes _ _ _ =>
      exact ⟨visit, clientId, sessionKey, key, found, entered.shared, own, final, closing, worker,
        requested, scheduled, closes, sent⟩

end RideHailing.Session
