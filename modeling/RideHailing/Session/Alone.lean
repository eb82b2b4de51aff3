import RideHailing.Session.Phases
import Mathlib.Logic.Relation

/-!
# A worker alone

Cut at its critical sections and left alone, a worker does what the whole
functions do: every step keeps the end that `handle_client` has from there, and
the steps reach it.
-/

namespace RideHailing.Session

open RideHailing.Arithmetic
open RideHailing.Bytes
open RideHailing.Common
open RideHailing.Fleet
open RideHailing.Server

universe u

variable {γ : Type u} {env : Env γ} {shared next : SharedState} {phase after : Phase γ}

/-! ## The end of a connection -/

/-- `handle_ride_request_logic` and its answer. -/
def dispatchExit (env : Env γ) (clientId : Int) (sessionKey : CString) (world : World γ) :
    Exit γ :=
  match serveRequest env clientId world with
  | none => .killed world
  | some (text, served) => replyText sessionKey text served

/-- `process_ride_request_wrapper` for the client that the body names. -/
def requestExit (env : Env γ) (clientId : Int) (sessionKey : CString) (world : World γ) :
    Exit γ :=
  let limited := limitRequest env clientId world
  if limited.1 then replyBlocked sessionKey limited.2
  else dispatchExit env clientId sessionKey limited.2

/-- `process_driver_join` for the driver that the body names. -/
def joinExit (driverId : UInt32) (world : World γ) : Exit γ :=
  match processDriverJoin driverId world.shared with
  | none => .killed world
  | some shared =>
      .returned (({ world with shared }.record (.driverJoin driverId)).send
        driverJoinResponse.encode)

theorem processRideRequestWrapper_eq (env : Env γ) (body : Region 1024) (sessionKey : CString)
    (world : World γ) :
    processRideRequestWrapper env body sessionKey world =
      requestExit env (requestClientId body.bytes) sessionKey world := by
  rw [requestExit]
  rcases processRideRequestWrapper_cases env body sessionKey world rfl rfl with
    ⟨verdict, result⟩ | ⟨verdict, service, result⟩ | ⟨verdict, text, served, service, result⟩
  · rw [result]
    exact (if_pos verdict).symm
  · rw [result, verdict, if_neg Bool.false_ne_true, dispatchExit, service]
  · rw [result, verdict, if_neg Bool.false_ne_true, dispatchExit, service]

/-- How the connection ends when nobody else touches the shared memory. -/
def Phase.alone (env : Env γ) (shared : SharedState) : Phase γ → Option (Exit γ)
  | .accepting => none
  | .receiving socket connection own => some (receiveLoop env socket connection (own.world shared))
  | .limiting clientId sessionKey own =>
      some (requestExit env clientId sessionKey (own.world shared))
  | .dispatching clientId sessionKey own =>
      some (dispatchExit env clientId sessionKey (own.world shared))
  | .answering found sessionKey own =>
      some (replyText sessionKey (env.response shared found) (own.world shared))
  | .joining driverId own => some (joinExit driverId (own.world shared))
  | .closing own => some (.returned (own.world shared))
  | .killed own => some (.killed (own.world shared))

@[simp]
theorem alone_exitPhase (env : Env γ) (result : Exit γ) :
    (exitPhase result).alone env (exitWorld result).shared = some result := by
  cases result with
  | returned world => rfl
  | killed world => rfl

theorem alone_joinPhase (env : Env γ) (rest : ReadEnd) (connection : Connection) (own : Local γ)
    (shared : SharedState) :
    (joinPhase rest connection own).alone env shared =
      some (match joinOrContinue connection (own.world shared) with
        | .again next later => receiveLoop env rest next later
        | .exit result => result) := by
  rw [joinPhase, joinOrContinue]
  split
  · rfl
  · rfl

theorem alone_requestPhase (env : Env γ) (rest : ReadEnd) (connection : Connection)
    (own : Local γ) (shared : SharedState) :
    (requestPhase rest connection own).alone env shared =
      some (match handleRequest env connection (own.world shared) with
        | .again next later => receiveLoop env rest next later
        | .exit result => result) := by
  rw [requestPhase, handleRequest]
  simp only
  split
  · rfl
  · cases rc4Crypt connection.body
        (ProtocolHeader.decode connection.header.bytes).length.toNat connection.sessionKey with
    | none => rfl
    | some body =>
        simp only
        split
        · rfl
        · split
          · rw [processRideRequestWrapper_eq]
            rfl
          · exact alone_joinPhase env rest { connection with body } _ shared

/-- Stopping before the shared memory and going on alone handles the packet. -/
theorem alone_packetPhase (env : Env γ) (rest : ReadEnd) (connection : Connection)
    (own : Local γ) (shared : SharedState) :
    (packetPhase env rest connection own).alone env shared =
      some (match handlePacket env connection (own.world shared) with
        | .again next later => receiveLoop env rest next later
        | .exit result => result) := by
  rw [packetPhase, handlePacket]
  split
  · rfl
  · split
    · exact alone_requestPhase env rest connection own shared
    · exact alone_joinPhase env rest connection own shared

theorem receivePhase_of_ends {socket : ReadEnd} {connection : Connection}
    (ends : RoundEnds socket connection) (env : Env γ) (own : Local γ) :
    receivePhase env socket connection own = .closing own := by
  rw [receivePhase]
  by_cases ended : (recvN socket ProtocolHeader.size).ret ≤ 0
  · exact if_pos ended
  · rw [if_neg ended]
    simp only
    by_cases beyond : 1024 < (ProtocolHeader.decode (connection.header.write
        (recvN socket ProtocolHeader.size).data).bytes).length.toNat
    · exact if_pos beyond
    · rw [if_neg beyond]
      rcases ends with none_ | long | missing
      · exact absurd none_ ended
      · exact absurd long beyond
      · rw [missing]

theorem receivePhase_of_receives {socket rest : ReadEnd} {connection : Connection}
    {body : Region 1024} (round : RoundReceives socket connection body rest) (env : Env γ)
    (own : Local γ) :
    receivePhase env socket connection own =
      packetPhase env rest
        { connection with
          header := connection.header.write (recvN socket ProtocolHeader.size).data
          body } own := by
  rw [receivePhase, if_neg (Int.not_le.mpr round.arrived)]
  simp only [if_neg (Nat.not_lt.mpr round.fits), round.received]

/-- A round of a worker alone is a round of the receive loop. -/
theorem alone_receivePhase (env : Env γ) (socket : ReadEnd) (connection : Connection)
    (own : Local γ) (shared : SharedState) :
    (receivePhase env socket connection own).alone env shared =
      some (receiveLoop env socket connection (own.world shared)) := by
  rcases round_cases socket connection with ends | ⟨body, rest, round⟩
  · rw [receivePhase_of_ends ends, receiveLoop_of_ends env ends]
    rfl
  · rw [receivePhase_of_receives round, receiveLoop_of_receives env round]
    exact alone_packetPhase env rest _ own shared

theorem exitWorld_replyBlocked (sessionKey : CString) (world : World γ) :
    (exitWorld (replyBlocked sessionKey world)).shared = world.shared :=
  (replyBlocked_quiet sessionKey world).1

theorem alone_limitedPhase (env : Env γ) (clientId : Int) (sessionKey : CString)
    (limited : Bool × World γ) :
    (limitedPhase clientId sessionKey limited).alone env limited.2.shared =
      some (if limited.1 then replyBlocked sessionKey limited.2
        else dispatchExit env clientId sessionKey limited.2) := by
  rw [limitedPhase]
  cases limited.1 with
  | true =>
      have settled := alone_exitPhase env (replyBlocked sessionKey limited.2)
      rw [exitWorld_replyBlocked] at settled
      rw [if_pos rfl, if_pos rfl]
      exact settled
  | false =>
      rw [if_neg Bool.false_ne_true, if_neg Bool.false_ne_true, Phase.alone, world_localPart]

/-- The service, from its critical section. -/
theorem serveRequest_of_section {clientId : Int} {own : Local γ}
    {found : Option (Fin maxDrivers × ℚ)}
    (section_ : rideCriticalSection clientId (targetDraws env own) shared = some (next, found)) :
    serveRequest env clientId (own.world shared) =
      some (env.response next found,
        (dispatchedLocal env clientId found.isSome own).world next) := by
  have drawn : rideCriticalSection clientId ⟨(env.rand (own.world shared).outside).1,
      (env.rand (env.rand (own.world shared).outside).2).1⟩ (own.world shared).shared =
        some (next, found) := section_
  rw [serveRequest]
  simp only [handleRideRequestLogic, drawn, Option.map_some]
  cases found with
  | none => rfl
  | some chosen => rfl

theorem dispatchExit_of_section {clientId : Int} {sessionKey : CString} {own : Local γ}
    {found : Option (Fin maxDrivers × ℚ)}
    (section_ : rideCriticalSection clientId (targetDraws env own) shared = some (next, found)) :
    dispatchExit env clientId sessionKey (own.world shared) =
      replyText sessionKey (env.response next found)
        ((dispatchedLocal env clientId found.isSome own).world next) := by
  rw [dispatchExit, serveRequest_of_section section_]

/-- Every step on the way through a connection keeps the end that the worker
would reach alone. -/
theorem WorkerStep.alone {action : WorkerAction γ}
    (step : WorkerStep env shared phase action next after) (inside : phase ≠ .accepting)
    (open_ : after ≠ .accepting) : after.alone env next = phase.alone env shared := by
  cases step with
  | accept visit delivers => exact absurd rfl inside
  | receive socket connection own => exact alone_receivePhase env socket connection own shared
  | limit clientId sessionKey own => exact alone_limitedPhase env clientId sessionKey _
  | dispatch clientId sessionKey own _ found section_ =>
      rw [Phase.alone, Phase.alone, dispatchExit_of_section section_]
  | dispatchFault clientId sessionKey own fault =>
      have drawn : rideCriticalSection clientId ⟨(env.rand (own.world shared).outside).1,
          (env.rand (env.rand (own.world shared).outside).2).1⟩ (own.world shared).shared =
            none := fault
      have service : serveRequest env clientId (own.world shared) = none := by
        rw [serveRequest]
        simp only [handleRideRequestLogic, drawn, Option.map_none]
      rw [Phase.alone, Phase.alone, dispatchExit, service]
  | answer found sessionKey own =>
      have settled := alone_exitPhase env
        (replyText sessionKey (env.response shared found) (own.world shared))
      rw [(replyText_quiet sessionKey (env.response shared found) (own.world shared)).1] at settled
      exact settled
  | join driverId own _ section_ =>
      rw [Phase.alone, Phase.alone, joinExit, Local.world_shared, section_]
      rfl
  | joinFault driverId own fault =>
      rw [Phase.alone, Phase.alone, joinExit, Local.world_shared, fault]
  | close own => exact absurd rfl open_

/-! ## The way through a connection -/

/-- How much is left of a connection at most. -/
def Phase.remaining : Phase γ → Nat
  | .accepting => 0
  | .receiving socket _ _ => 4 + socket.bytes.length
  | .limiting _ _ _ => 3
  | .dispatching _ _ _ => 2
  | .answering _ _ _ => 1
  | .joining _ _ => 1
  | .closing _ => 0
  | .killed _ => 0

@[simp]
theorem remaining_exitPhase (result : Exit γ) : (exitPhase result).remaining = 0 := by
  cases result with
  | returned world => rfl
  | killed world => rfl

theorem exitPhase_ne_accepting (result : Exit γ) : exitPhase result ≠ .accepting := by
  cases result with
  | returned world => nofun
  | killed world => nofun

/-- A phase inside a connection with at most so much left of it. -/
structure Phase.Within (limit : Nat) (phase : Phase γ) : Prop where
  remaining : phase.remaining ≤ limit
  inside : phase ≠ .accepting

theorem joinPhase_within (rest : ReadEnd) (connection : Connection) (own : Local γ) :
    (joinPhase rest connection own).Within (4 + rest.bytes.length) := by
  rw [joinPhase]
  split
  · exact ⟨by simp only [Phase.remaining]; omega, nofun⟩
  · exact ⟨Nat.le_refl _, nofun⟩

theorem requestPhase_within (rest : ReadEnd) (connection : Connection) (own : Local γ) :
    (requestPhase rest connection own).Within (4 + rest.bytes.length) := by
  rw [requestPhase]
  simp only
  split
  · exact ⟨Nat.zero_le _, nofun⟩
  · split
    · exact ⟨Nat.zero_le _, nofun⟩
    · split
      · exact ⟨Nat.zero_le _, nofun⟩
      · split
        · exact ⟨by simp only [Phase.remaining]; omega, nofun⟩
        · exact joinPhase_within rest _ _

theorem packetPhase_within (env : Env γ) (rest : ReadEnd) (connection : Connection)
    (own : Local γ) : (packetPhase env rest connection own).Within (4 + rest.bytes.length) := by
  rw [packetPhase]
  split
  · exact ⟨Nat.le_refl _, nofun⟩
  · split
    · exact requestPhase_within rest connection own
    · exact joinPhase_within rest connection own

/-- Every round takes something from the stream or ends the connection. -/
theorem receivePhase_within (env : Env γ) (socket : ReadEnd) (connection : Connection)
    (own : Local γ) :
    (receivePhase env socket connection own).Within (3 + socket.bytes.length) := by
  rcases round_cases socket connection with ends | ⟨body, rest, round⟩
  · rw [receivePhase_of_ends ends]
    exact ⟨Nat.zero_le _, nofun⟩
  · rw [receivePhase_of_receives round]
    have shorter := round.shorter
    obtain ⟨remaining, inside⟩ := packetPhase_within env rest
      { connection with
        header := connection.header.write (recvN socket ProtocolHeader.size).data
        body } own
    exact ⟨by omega, inside⟩

theorem limitedPhase_within (clientId : Int) (sessionKey : CString) (limited : Bool × World γ) :
    (limitedPhase clientId sessionKey limited).Within 2 := by
  rw [limitedPhase]
  split
  · exact ⟨by rw [remaining_exitPhase]; exact Nat.zero_le 2, exitPhase_ne_accepting _⟩
  · exact ⟨Nat.le_refl 2, nofun⟩

/-- A phase in which nothing of a connection is left. -/
theorem alone_of_final {phase : Phase γ} {result : Exit γ} (final : phase.remaining = 0)
    (ends : phase.alone env shared = some result) :
    phase = exitPhase result ∧ (exitWorld result).shared = shared := by
  cases phase with
  | accepting => cases ends
  | receiving socket connection own =>
      rw [Phase.remaining] at final
      omega
  | limiting clientId sessionKey own => cases final
  | dispatching clientId sessionKey own => cases final
  | answering found sessionKey own => cases final
  | joining driverId own => cases final
  | closing own =>
      cases ends
      exact ⟨rfl, rfl⟩
  | killed own =>
      cases ends
      exact ⟨rfl, rfl⟩

/-- Inside a connection every step comes nearer to its end. -/
theorem WorkerStep.nearer {action : WorkerAction γ}
    (step : WorkerStep env shared phase action next after) (left : phase.remaining ≠ 0) :
    after.remaining < phase.remaining ∧ after ≠ .accepting := by
  cases step with
  | accept visit delivers => exact absurd rfl left
  | receive socket connection own =>
      obtain ⟨remaining, inside⟩ := receivePhase_within env socket connection own
      refine ⟨?_, inside⟩
      simp only [Phase.remaining] at remaining ⊢
      omega
  | limit clientId sessionKey own =>
      obtain ⟨remaining, inside⟩ := limitedPhase_within clientId sessionKey
        (limitRequest env clientId (own.world shared))
      exact ⟨Nat.lt_succ_of_le remaining, inside⟩
  | dispatch clientId sessionKey own _ found section_ => exact ⟨Nat.lt_succ_self 1, nofun⟩
  | dispatchFault clientId sessionKey own fault => exact ⟨Nat.zero_lt_succ 1, nofun⟩
  | answer found sessionKey own =>
      refine ⟨?_, exitPhase_ne_accepting _⟩
      rw [remaining_exitPhase]
      exact Nat.lt_succ_self 0
  | join driverId own _ section_ => exact ⟨Nat.lt_succ_self 0, nofun⟩
  | joinFault driverId own fault => exact ⟨Nat.lt_succ_self 0, nofun⟩
  | close own => exact absurd rfl left

/-- Inside a connection a worker can always go on. -/
theorem exists_workerStep (env : Env γ) (shared : SharedState) (phase : Phase γ)
    (left : phase.remaining ≠ 0) :
    ∃ action next after, WorkerStep env shared phase action next after := by
  cases phase with
  | accepting => exact absurd rfl left
  | receiving socket connection own => exact ⟨_, _, _, .receive socket connection own⟩
  | limiting clientId sessionKey own => exact ⟨_, _, _, .limit clientId sessionKey own⟩
  | dispatching clientId sessionKey own =>
      cases section_ : rideCriticalSection clientId (targetDraws env own) shared with
      | none => exact ⟨_, _, _, .dispatchFault clientId sessionKey own section_⟩
      | some outcome =>
          exact ⟨_, _, _, .dispatch clientId sessionKey own outcome.1 outcome.2 section_⟩
  | answering found sessionKey own => exact ⟨_, _, _, .answer found sessionKey own⟩
  | joining driverId own =>
      cases section_ : processDriverJoin driverId shared with
      | none => exact ⟨_, _, _, .joinFault driverId own section_⟩
      | some next => exact ⟨_, _, _, .join driverId own next section_⟩
  | closing own => exact absurd rfl left
  | killed own => exact absurd rfl left

/-- The worker stays with its connection. -/
def Stays (action : WorkerAction γ) : Prop :=
  ∀ other, action ≠ .accepted other

theorem stays_proceeded : Stays (.proceeded : WorkerAction γ) :=
  nofun

/-- One worker moves on its connection. -/
def WorkerMoves (env : Env γ) (before after : SharedState × Phase γ) : Prop :=
  ∃ action, Stays action ∧ WorkerStep env before.1 before.2 action after.1 after.2

theorem WorkerStep.stays {action : WorkerAction γ}
    (step : WorkerStep env shared phase action next after) (inside : phase ≠ .accepting) :
    Stays action := by
  rintro other rfl
  cases step with
  | accept visit delivers => exact inside rfl

/-- Left alone, a worker reaches the end of its connection that the whole
functions describe. -/
theorem moves_to_end {result : Exit γ} (ends : phase.alone env shared = some result) :
    Relation.ReflTransGen (WorkerMoves env) (shared, phase)
      ((exitWorld result).shared, exitPhase result) := by
  induction size : phase.remaining using Nat.strongRecOn generalizing shared phase with
  | ind limit ih =>
      by_cases final : phase.remaining = 0
      · obtain ⟨rfl, same⟩ := alone_of_final final ends
        rw [same]
      · obtain ⟨action, next, after, step⟩ := exists_workerStep env shared phase final
        obtain ⟨less, open_⟩ := step.nearer final
        have inside : phase ≠ .accepting := by
          rintro rfl
          exact final rfl
        have kept := step.alone inside open_
        exact .head ⟨action, step.stays inside, step⟩
          (ih after.remaining (size ▸ less) (kept.trans ends) rfl)

/-! ## Every path of own steps -/

/-- Where a worker stands that was left alone with a connection: on the way to the
end that the call has, dead where the call dies, or back in `accept` where it
returns. -/
inductive Serves (env : Env γ) (visit : Visit γ) (before : SharedState) :
    SharedState → Phase γ → Prop
  | underway (shared : SharedState) (phase : Phase γ)
      (keeps : phase.alone env shared = some (visit.handle env before))
      (moves : ∃ action next after, WorkerStep env shared phase action next after) :
      Serves env visit before shared phase
  | died (world : World γ) (dies : visit.handle env before = .killed world) :
      Serves env visit before world.shared (.killed (localPart world))
  | returned (world : World γ) (returns : visit.handle env before = .returned world) :
      Serves env visit before world.shared .accepting

/-- A worker that still has the end of the call before it. -/
theorem serves_of_alone {visit : Visit γ} {before : SharedState}
    (keeps : phase.alone env shared = some (visit.handle env before)) :
    Serves env visit before shared phase := by
  by_cases final : phase.remaining = 0
  · obtain ⟨rfl, rfl⟩ := alone_of_final final keeps
    cases handled : visit.handle env before with
    | returned world =>
        rw [handled] at keeps
        exact .underway world.shared _ (keeps.trans (congrArg some handled.symm))
          ⟨_, _, _, .close (localPart world)⟩
    | killed world => exact .died world handled
  · exact .underway shared phase keeps (exists_workerStep env shared phase final)

/-- After the end of a call the only step is the one back to `accept`. -/
theorem WorkerStep.of_exitPhase {result : Exit γ} {action : WorkerAction γ}
    (step : WorkerStep env (exitWorld result).shared (exitPhase result) action next after) :
    ∃ world, result = .returned world ∧ next = world.shared ∧ after = .accepting := by
  cases result with
  | returned world =>
      cases step with
      | close own => exact ⟨world, rfl, rfl, rfl⟩
  | killed world => cases step

/-- Every step of its own keeps a worker on that way. -/
theorem Serves.step {visit : Visit γ} {before : SharedState} {action : WorkerAction γ}
    (serves : Serves env visit before shared phase)
    (step : WorkerStep env shared phase action next after)
    (same : Stays action) : Serves env visit before next after := by
  cases serves with
  | underway _ _ keeps _ =>
      by_cases back : after = .accepting
      · have inside : phase ≠ .accepting := by
          rintro rfl
          cases keeps
        by_cases final : phase.remaining = 0
        · obtain ⟨rfl, rfl⟩ := alone_of_final final keeps
          obtain ⟨world, returns, rfl, rfl⟩ := step.of_exitPhase
          exact .returned world returns
        · exact absurd back (step.nearer final).2
      · have inside : phase ≠ .accepting := by
          rintro rfl
          cases keeps
        exact serves_of_alone ((step.alone inside back).trans keeps)
  | died world dies => cases step
  | returned world returns =>
      cases step with
      | accept other delivers => exact absurd rfl (same other)

/-- How many steps a worker has left until it waits again or is dead. -/
def Phase.stepsLeft : Phase γ → Nat
  | .accepting => 0
  | .killed _ => 0
  | phase => phase.remaining + 1

theorem stepsLeft_le (phase : Phase γ) : phase.stepsLeft ≤ phase.remaining + 1 := by
  cases phase <;> simp [Phase.stepsLeft]

theorem WorkerStep.fewer {action : WorkerAction γ}
    (step : WorkerStep env shared phase action next after)
    (same : Stays action) : after.stepsLeft < phase.stepsLeft := by
  by_cases final : phase.remaining = 0
  · cases step with
    | accept other delivers => exact absurd rfl (same other)
    | receive socket connection own =>
        rw [Phase.remaining] at final
        omega
    | limit | dispatch | dispatchFault | answer | join | joinFault => cases final
    | close own => exact Nat.lt_succ_self 0
  · have nearer := (step.nearer final).1
    have most := stepsLeft_le after
    have inside : phase.stepsLeft = phase.remaining + 1 := by
      cases phase with
      | accepting | killed => exact absurd rfl final
      | receiving | limiting | dispatching | answering | joining | closing => rfl
    omega

end RideHailing.Session
