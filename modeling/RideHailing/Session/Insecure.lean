import RideHailing.Fleet.Lifetimes
import RideHailing.Server.InsecureDispatcher
import RideHailing.Session.Answers

/-!
# The insecure pool

The workers of `start_coordinator_process_insecure` run side by side.  As long as
every write is taken none of them dies, and a ride request is entered for every
connection whose first packet bears the opcode of one, under whatever identifier,
type and checksum it comes, and for no other.
-/

namespace RideHailing.Session

open RideHailing.Bytes
open RideHailing.Common
open RideHailing.Fleet
open RideHailing.Server
open RideHailing.Transition

universe u

variable {γ : Type u} {env : Env γ} {visit : Visit γ} {shared next : SharedState}

/-! ## One connection -/

/-- The call of `handle_client_insecure` in `dispatcher_loop_insecure`. -/
def Visit.handleInsecure (env : Env γ) (padding : UInt8) (visit : Visit γ)
    (shared : SharedState) : Exit γ :=
  handleClientInsecure env padding visit.header visit.body visit.socket (visit.opened shared)

/-- The only packet that the insecure server reads, with the body buffer as it
is after that. -/
def Visit.firstPacket (visit : Visit γ) : Option (ProtocolHeader × Region 1024) :=
  if (recvN visit.socket ProtocolHeader.size).ret ≤ 0 then none
  else
    let merged := (Region.ofVector visit.header).write
      (recvN visit.socket ProtocolHeader.size).data
    let header := ProtocolHeader.decode merged.bytes
    if 1024 < header.length.toNat then none
    else
      (receiveBody header.length.toNat (recvN visit.socket ProtocolHeader.size).rest
        (.ofVector visit.body)).map fun received => (header, received.1)

theorem Visit.handleInsecure_eq (env : Env γ) (padding : UInt8) (visit : Visit γ)
    (shared : SharedState) :
    visit.handleInsecure env padding shared =
      match visit.firstPacket with
      | none => .returned (visit.opened shared)
      | some (header, body) => switchInsecure env padding header body (visit.opened shared) := by
  rw [Visit.handleInsecure, handleClientInsecure, Visit.firstPacket]
  split
  · rfl
  · simp only
    split
    · rfl
    · cases receiveBody (ProtocolHeader.decode ((Region.ofVector visit.header).write
          (recvN visit.socket ProtocolHeader.size).data).bytes).length.toNat
            (recvN visit.socket ProtocolHeader.size).rest (.ofVector visit.body) with
      | none => rfl
      | some received => rfl

/-- On a reliable socket a complete packet is read whatever its type and its
checksum. -/
theorem Visit.firstPacket_wire (reliable : visit.socket.Reliable) {packet : Packet}
    {rest : List UInt8} (bytes : visit.socket.bytes = packet.wire ++ rest) :
    visit.firstPacket = some (packet.header, (Region.ofVector visit.body).write packet.body) := by
  obtain ⟨remaining, round, _⟩ := round_of_packet reliable bytes
    (Connection.opened visit.header visit.body)
  rw [Packet.wire, List.append_assoc] at bytes
  obtain ⟨_, _, merged, _⟩ := header_arrives reliable bytes
    (Connection.opened visit.header visit.body)
  have fits := round.fits
  have received := round.received
  rw [merged] at fits received
  rw [firstPacket, if_neg (Int.not_le.mpr round.arrived)]
  have opened : (Connection.opened visit.header visit.body).header = .ofVector visit.header := rfl
  rw [opened] at merged
  simp only [merged]
  rw [if_neg (Nat.not_lt.mpr fits)]
  have read : receiveBody packet.header.length.toNat
      (recvN visit.socket ProtocolHeader.size).rest (.ofVector visit.body) =
        some ((Region.ofVector visit.body).write packet.body, remaining) := received
  rw [read]
  rfl

/-! ## Workers -/

/-- Where an insecure worker stands. -/
inductive InsecurePhase (γ : Type u)
  | accepting
  | receiving (visit : Visit γ)
  | dispatching (clientId : Int) (own : Local γ)
  | answering (found : Option (Fin maxDrivers × ℚ)) (own : Local γ)
  | joining (driverId : UInt32) (own : Local γ)
  | closing (own : Local γ)
  | killed (own : Local γ)

/-- The phase after the packet was read. -/
def switchPhase (header : ProtocolHeader) (body : Region 1024) (own : Local γ) :
    InsecurePhase γ :=
  if header.opcode = opReqRide then .dispatching (requestClientId body.bytes) own
  else if header.opcode = opDriverJoin then .joining (driverIdField body.bytes) own
  else .closing own

def firstPhase (visit : Visit γ) : InsecurePhase γ :=
  match visit.firstPacket with
  | none => .closing visit.start
  | some (header, body) => switchPhase header body visit.start

/-- The steps of `dispatcher_loop_insecure` and what it calls, on connections
whose peer takes every write; this server leaves `SIGPIPE` at its default too. -/
inductive InsecureStep (env : Env γ) (shared : SharedState) :
    InsecurePhase γ → WorkerAction γ → SharedState → InsecurePhase γ → Prop
  | accept (visit : Visit γ) (delivers : visit.writes.Reliable) :
      InsecureStep env shared .accepting (.accepted visit) shared (.receiving visit)
  | receive (visit : Visit γ) :
      InsecureStep env shared (.receiving visit) .proceeded shared (firstPhase visit)
  | dispatch (clientId : Int) (own : Local γ) (next : SharedState)
      (found : Option (Fin maxDrivers × ℚ))
      (section_ : rideCriticalSection clientId (targetDraws env own) shared =
        some (next, found)) :
      InsecureStep env shared (.dispatching clientId own)
        (.entered (.rideRequest clientId (found.map Prod.fst))) next
        (.answering found (dispatchedLocal env clientId found.isSome own))
  | dispatchFault (clientId : Int) (own : Local γ)
      (fault : rideCriticalSection clientId (targetDraws env own) shared = none) :
      InsecureStep env shared (.dispatching clientId own) .proceeded shared (.killed own)
  | answer (padding : UInt8) (found : Option (Fin maxDrivers × ℚ)) (own : Local γ) :
      InsecureStep env shared (.answering found own) .proceeded shared
        (.closing (localPart (replyPlain padding (env.response shared found)
          (own.world shared))))
  | join (driverId : UInt32) (own : Local γ) (next : SharedState)
      (section_ : processDriverJoin driverId shared = some next) :
      InsecureStep env shared (.joining driverId own) (.entered (.driverJoin driverId)) next
        (.closing ((own.record (.driverJoin driverId)).send driverJoinResponse.encode))
  | joinFault (driverId : UInt32) (own : Local γ)
      (fault : processDriverJoin driverId shared = none) :
      InsecureStep env shared (.joining driverId own) .proceeded shared (.killed own)
  | close (own : Local γ) :
      InsecureStep env shared (.closing own) .proceeded shared .accepting

variable {phase after : InsecurePhase γ}

/-- What an insecure worker does to the shared memory is a critical section, and
never the limiter's. -/
theorem InsecureStep.criticalSection {event : Event}
    (step : InsecureStep env shared phase (.entered event) next after) :
    unlimited event ∧ CriticalSection shared event next := by
  cases step with
  | dispatch clientId own _ found section_ => exact ⟨trivial, _, found, section_, rfl⟩
  | join driverId own _ section_ => exact ⟨trivial, section_⟩

theorem InsecureStep.silent {action : WorkerAction γ}
    (step : InsecureStep env shared phase action next after)
    (outside : ∀ event, action ≠ .entered event) : next = shared := by
  cases step with
  | accept | receive | dispatchFault | answer | joinFault | close => rfl
  | dispatch clientId own _ found section_ => exact absurd rfl (outside _)
  | join driverId own _ section_ => exact absurd rfl (outside _)

/-! ## The pool -/

/-- The insecure server from one of its starts on. -/
def insecureServer : System SharedState Event where
  initial state := ∃ driverCount file, 0 ≤ driverCount ∧
    (∀ saved, loadState file = some saved → WellFormed saved) ∧
      ipcInit driverCount file = some state
  step state event next := unlimited event ∧ CriticalSection state event next

theorem insecure_wellFormed (reachable : Reachable insecureServer shared) : WellFormed shared := by
  refine reachable.invariant ?_ ?_
  · rintro start ⟨driverCount, file, counts, sound, starts⟩
    cases usable : loadState file with
    | none =>
        exact (remembers_fresh ⟨driverCount, file, counts, usable, starts⟩).wellFormed
    | some saved =>
        obtain ⟨nonneg, fits, unused⟩ := sound saved usable
        rw [ipcInit_loaded driverCount usable fits] at starts
        cases starts
        exact ⟨nonneg, fits, fun slot inactive => (if_neg inactive).trans (unused slot inactive)⟩
  · intro before event after wellFormed step
    exact criticalSection_wellFormed wellFormed step.2

/-- The state of the insecure pool. -/
abbrev InsecureWorkforce (γ : Type u) := Global Worker SharedState (InsecurePhase γ)

/-- The pool as `start_coordinator_process_insecure` forks it. -/
def insecurePool (env : Env γ) :
    Family Worker SharedState (InsecurePhase γ) (WorkerAction γ) (Nat → TickDraws) where
  initial pool := insecureServer.initial pool.shared ∧ ∀ worker, pool.processes worker = .accepting
  act := InsecureStep env
  outside shared draws next := mapMonitorTick initMapObstacles draws shared = some next

variable {trace : List (Happening γ)} {pool : InsecureWorkforce γ}

theorem insecure_shared_run (run : Run (insecurePool env).system trace pool) :
    Run insecureServer (trace.filterMap sectionOf) pool.shared := by
  apply run.refines Global.shared sectionOf
  · rintro start ⟨fresh, _⟩
    exact fresh
  · intro before happening after _ step hidden
    cases step with
    | own worker action shared after acts =>
        apply acts.silent
        rintro event rfl
        cases hidden
    | outside draws shared tick => cases hidden
  · intro before happening after event _ step shown
    cases step with
    | own worker action shared after acts =>
        cases action with
        | accepted visit => cases shown
        | proceeded => cases shown
        | entered entered =>
            cases shown
            exact acts.criticalSection
    | outside draws shared tick =>
        cases shown
        exact ⟨trivial, draws, tick⟩

/-! ## Phase and history -/

/-- The only packet of the connection asks for a ride for the client. -/
def Opens (visit : Visit γ) (clientId : Int) : Prop :=
  ∃ header body, visit.firstPacket = some (header, body) ∧ header.opcode = opReqRide ∧
    requestClientId body.bytes = clientId

/-- The phase of an insecure worker beside what it has done for its connection.
It is never dead. -/
inductive InsecureFollows : Option (Service γ) → InsecurePhase γ → Prop
  | fresh : InsecureFollows none .accepting
  | idle (visit : Visit γ) (sections : List Event) (most : sections.length ≤ 1) :
      InsecureFollows (some ⟨visit, sections⟩) .accepting
  | receiving (visit : Visit γ) : InsecureFollows (some ⟨visit, []⟩) (.receiving visit)
  | dispatching (visit : Visit γ) (clientId : Int) (own : Local γ)
      (opens : Opens visit clientId) :
      InsecureFollows (some ⟨visit, []⟩) (.dispatching clientId own)
  | answering (visit : Visit γ) (event : Event) (found : Option (Fin maxDrivers × ℚ))
      (own : Local γ) : InsecureFollows (some ⟨visit, [event]⟩) (.answering found own)
  | joining (visit : Visit γ) (driverId : UInt32) (own : Local γ) :
      InsecureFollows (some ⟨visit, []⟩) (.joining driverId own)
  | closing (visit : Visit γ) (sections : List Event) (own : Local γ)
      (most : sections.length ≤ 1) : InsecureFollows (some ⟨visit, sections⟩) (.closing own)

theorem insecureFollows_firstPhase (visit : Visit γ) :
    InsecureFollows (some ⟨visit, []⟩) (firstPhase visit) := by
  rw [firstPhase]
  cases first : visit.firstPacket with
  | none => exact .closing visit [] _ (Nat.zero_le 1)
  | some packet =>
      obtain ⟨header, body⟩ := packet
      simp only [switchPhase]
      split
      next isRide => exact .dispatching visit _ _ ⟨header, body, first, isRide, rfl⟩
      next =>
        split
        · exact .joining visit _ _
        · exact .closing visit [] _ (Nat.zero_le 1)

theorem InsecureFollows.step {service : Option (Service γ)} {action : WorkerAction γ}
    (follows : InsecureFollows service phase) (wellFormed : WellFormed shared)
    (step : InsecureStep env shared phase action next after) :
    InsecureFollows (serviceAfter service action) after := by
  cases step with
  | accept visit delivers => exact .receiving visit
  | receive visit =>
      cases follows
      exact insecureFollows_firstPhase visit
  | dispatch clientId own _ found section_ =>
      cases follows with
      | dispatching visit _ _ opens => exact .answering visit _ found _
  | dispatchFault clientId own fault =>
      obtain ⟨outcome, defined⟩ :=
        rideCriticalSection_total clientId (targetDraws env own) wellFormed.fits
      rw [fault] at defined
      cases defined
  | answer padding found own =>
      cases follows with
      | answering visit event _ _ => exact .closing visit [event] _ (Nat.le_refl 1)
  | join driverId own _ section_ =>
      cases follows with
      | joining visit _ _ => exact .closing visit _ _ (Nat.le_refl 1)
  | joinFault driverId own fault =>
      obtain ⟨joined, defined⟩ := processDriverJoin_total driverId wellFormed.nonneg
      rw [fault] at defined
      cases defined
  | close own =>
      cases follows with
      | closing visit sections _ most => exact .idle visit sections most

theorem insecureFollows_of_run (run : Run (insecurePool env).system trace pool)
    (worker : Worker) : InsecureFollows (serviceOf worker trace) (pool.processes worker) := by
  apply Family.process_invariant worker
    (P := fun trace _ own => InsecureFollows (serviceOf worker trace) own) _ _ _ run
  · rintro start ⟨_, waiting⟩
    rw [waiting worker]
    exact .fresh
  · intro trace pool action shared after run follows acts
    rw [serviceOf_snoc, serviceStep_own]
    exact follows.step (insecure_wellFormed (insecure_shared_run run).reachable) acts
  · intro trace pool happening shared _ follows interferes
    rw [serviceOf_snoc, serviceStep_interferes interferes]
    exact follows

/-! ## One worker at a time -/

/-- One insecure worker moves. -/
abbrev InsecureMoves (env : Env γ) :=
  (insecurePool env).Moves fun _ => True

theorem insecureMove {action : WorkerAction γ}
    (step : InsecureStep env shared phase action next after) :
    InsecureMoves env (shared, phase) (next, after) :=
  ⟨action, trivial, step⟩

/-- The service, cut between its critical section and its answer. -/
theorem moves_dispatching (padding : UInt8) (clientId : Int) (own : Local γ)
    (fits : shared.driverCount ≤ maxDrivers) :
    ∃ text served, serveRequest env clientId (own.world shared) = some (text, served) ∧
      Relation.ReflTransGen (InsecureMoves env) (shared, .dispatching clientId own)
        (served.shared, .closing (localPart (replyPlain padding text served))) := by
  obtain ⟨⟨next, found⟩, section_⟩ :=
    rideCriticalSection_total clientId (targetDraws env own) fits
  have service : serveRequest env clientId (own.world shared) =
      some (env.response next found,
        (dispatchedLocal env clientId found.isSome own).world next) :=
    serveRequest_of_section section_
  refine ⟨_, _, service, ?_⟩
  have entered := insecureMove (.dispatch clientId own next found section_)
  have answered : InsecureMoves env (next, .answering found _) _ :=
    insecureMove (.answer padding found (dispatchedLocal env clientId found.isSome own))
  exact .head entered (.single answered)

/-- An insecure worker that is not interrupted serves a connection exactly as
`handle_client_insecure` does, and returns. -/
theorem insecure_leads_of_visit (padding : UInt8) (wellFormed : WellFormed pool.shared)
    (worker : Worker) (waits : pool.processes worker = .accepting) (visit : Visit γ)
    (delivers : visit.writes.Reliable) :
    ∃ world trace, visit.handleInsecure env padding pool.shared = .returned world ∧
      Leads (insecurePool env).system pool trace
        ⟨world.shared, Function.update pool.processes worker (.closing (localPart world))⟩ := by
  have taken : InsecureMoves env (pool.shared, .accepting) (pool.shared, .receiving visit) :=
    insecureMove (.accept visit delivers)
  have read : InsecureMoves env (pool.shared, .receiving visit) (pool.shared, firstPhase visit) :=
    insecureMove (.receive visit)
  suffices ends : ∃ world, visit.handleInsecure env padding pool.shared = .returned world ∧
      Relation.ReflTransGen (InsecureMoves env) (pool.shared, firstPhase visit)
        (world.shared, .closing (localPart world)) by
    obtain ⟨world, handled, moves⟩ := ends
    have whole := (moves.head read).head taken
    rw [← waits] at whole
    obtain ⟨trace, path, _⟩ := Family.leads_of_moves worker whole
    exact ⟨world, trace, handled, path⟩
  rw [Visit.handleInsecure_eq, firstPhase]
  cases visit.firstPacket with
  | none => exact ⟨_, rfl, .refl⟩
  | some packet =>
      obtain ⟨header, body⟩ := packet
      simp only [switchInsecure, switchPhase]
      by_cases isRide : header.opcode = opReqRide
      · rw [if_pos isRide, if_pos isRide]
        obtain ⟨text, served, service, moves⟩ := moves_dispatching padding
          (requestClientId body.bytes) visit.start wellFormed.fits
        refine ⟨replyPlain padding text served, ?_, moves⟩
        rw [Visit.start_world] at service
        rw [processRideRequestInsecureWrapper, service]
      · rw [if_neg isRide, if_neg isRide]
        by_cases isJoin : header.opcode = opDriverJoin
        · rw [if_pos isJoin, if_pos isJoin]
          obtain ⟨joined, section_⟩ :=
            processDriverJoin_total (driverIdField body.bytes) wellFormed.nonneg
          have entered : InsecureMoves env _ _ := insecureMove
            (.join (driverIdField body.bytes) visit.start joined section_)
          refine ⟨((visit.start.world joined).record (.driverJoin _)).send
            driverJoinResponse.encode, ?_, .single entered⟩
          have opened : (visit.opened pool.shared).shared = pool.shared := rfl
          rw [processDriverJoinPacket, opened, section_]
          rfl
        · rw [if_neg isJoin, if_neg isJoin]
          exact ⟨_, rfl, .refl⟩

/-- The identifier that the server reads from a packet in its body buffer. -/
def Packet.clientIn (packet : Packet) (body : Vector UInt8 1024) : Int :=
  requestClientId ((Region.ofVector body).write packet.body).bytes

/-- Whatever the type, the checksum and the rest of a complete first packet, its
opcode alone makes a waiting worker enter a ride request for the identifier at
the start of its body. -/
theorem leads_unchecked_ride (wellFormed : WellFormed pool.shared) (worker : Worker)
    (waits : pool.processes worker = .accepting) (visit : Visit γ)
    (reliable : visit.socket.Reliable) (delivers : visit.writes.Reliable) {packet : Packet}
    {rest : List UInt8} (bytes : visit.socket.bytes = packet.wire ++ rest)
    (isRide : packet.header.opcode = opReqRide) :
    ∃ chosen last, Leads (insecurePool env).system pool
      [.own worker (.accepted visit), .own worker .proceeded,
        .own worker (.entered (.rideRequest (packet.clientIn visit.body) chosen))] last := by
  have first : firstPhase visit = .dispatching (packet.clientIn visit.body) visit.start := by
    rw [firstPhase, visit.firstPacket_wire reliable bytes]
    exact if_pos isRide
  generalize packet.clientIn visit.body = clientId at first
  obtain ⟨⟨next, found⟩, section_⟩ :=
    rideCriticalSection_total clientId (targetDraws env visit.start) wellFormed.fits
  have accepts : (insecurePool env).act pool.shared (pool.processes worker) (.accepted visit)
      pool.shared (.receiving visit) := by
    rw [waits]
    exact .accept visit delivers
  have taken : (insecurePool env).system.step pool (.own worker (.accepted visit))
      ⟨pool.shared, Function.update pool.processes worker (.receiving visit)⟩ :=
    .own worker _ _ _ accepts
  have read := Family.step_again (insecurePool env) pool.processes worker
    (.receive visit : InsecureStep env pool.shared _ _ _ _)
  rw [first] at read
  have dispatched := Family.step_again (insecurePool env) pool.processes worker
    (.dispatch clientId visit.start next found section_)
  exact ⟨found.map Prod.fst, _, ((Leads.refl.snoc taken).snoc read).snoc dispatched⟩

/-- The insecure pool before its first connection, without drivers. -/
def restingInsecure : InsecureWorkforce Unit where
  shared := SharedState.zeroed
  processes _ := .accepting

theorem restingInsecure_run : Run (insecurePool stillEnv).system [] restingInsecure :=
  Run.start ⟨⟨0, .missing, Int.le_refl 0, nofun, rfl⟩, fun _ => rfl⟩

/-- A connection that brings one bare request. -/
def bareVisit : Visit Unit where
  header := Vector.replicate _ 0
  body := Vector.replicate _ 0
  socket := .ofBytes (wires [bareRequest])
  writes := []
  outside := ()

end RideHailing.Session
