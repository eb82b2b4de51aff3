import RideHailing.Server.Selection
import RideHailing.Session.Honest
import RideHailing.Session.Workers

/-!
# Replayed sessions

`start_coordinator_process` forks all workers from one process, so that each
starts with a copy of the same generator, and unlike the map monitor no worker
seeds its own.  Here every worker draws its private keys and the destinations of
its rides from its copy.  A recorded session that is sent again is a new session
for every worker whose next private key fits the recorded request.
-/

namespace RideHailing.Session

open RideHailing.Bytes
open RideHailing.Client
open RideHailing.Common
open RideHailing.Fleet
open RideHailing.Server
open RideHailing.Transition

universe u

variable {ρ : Type u} {rand : ρ → Nat × ρ} {format : FloatFormat} {random : ρ}
  {visit : Visit Int} {shared : SharedState} {handshake request : Packet} {key : Rc4State}

/-! ## Workers with copied generators -/

/-- `rand()` on a worker's copy of the generator, and the clock as the
connection finds it. -/
def forkedEnv (rand : ρ → Nat × ρ) (format : FloatFormat) : Env (ρ × Int) where
  rand outside := ((rand outside.1).1, ((rand outside.1).2, outside.2))
  time outside := (outside.2, outside)
  format

/-- The generator after `server_main` has initialised some drivers with it. -/
def generatorAfter (rand : ρ → Nat × ρ) (random : ρ) : Nat → ρ
  | 0 => random
  | drivers + 1 => (rand (rand (rand (generatorAfter rand random drivers)).2).2).2

/-- What `server_main` draws for one driver. -/
def initDraws (rand : ρ → Nat × ρ) (random : ρ) (i : Nat) : InitDraws :=
  let lat := rand (generatorAfter rand random i)
  let lon := rand lat.2
  { lat := lat.1
    lon := lon.1
    rating := (rand lon.2).1 }

/-- The shared memory and the generator of every worker that still lives.  The
streams that have caused a dispatch are kept by an eavesdropper, not by the
server. -/
structure ForkedPool (ρ : Type u) where
  shared : SharedState
  generators : Fin workerCount → Option ρ
  recorded : List (List UInt8)

/-- The connection as a worker takes it that has this generator; the visit itself
brings the reading of the clock. -/
def Visit.taken (visit : Visit Int) (random : ρ) : Visit (ρ × Int) where
  header := visit.header
  body := visit.body
  socket := visit.socket
  writes := visit.writes
  outside := (random, visit.outside)

/-- A ride has been dispatched between two states: the counter of
`total_success_requests` has moved. -/
def dispatched (before after : SharedState) : Bool :=
  decide (after.totalSuccessRequests ≠ before.totalSuccessRequests)

/-- The generator that a call leaves to its worker. -/
def survivor : Exit (ρ × Int) → Option ρ
  | .returned world => some world.outside.1
  | .killed _ => none

/-- One connection in one worker. -/
def forkedRound (env : Env (ρ × Int)) (worker : Fin workerCount) (visit : Visit Int) (random : ρ)
    (pool : ForkedPool ρ) : ForkedPool ρ :=
  let result := (visit.taken random).handle env pool.shared
  { shared := (exitWorld result).shared
    generators := Function.update pool.generators worker (survivor result)
    recorded :=
      if dispatched pool.shared (exitWorld result).shared then
        visit.socket.bytes :: pool.recorded
      else pool.recorded }

/-- The other workers keep their generators. -/
theorem forkedRound_other (env : Env (ρ × Int)) {worker other : Fin workerCount}
    (apart : other ≠ worker) (visit : Visit Int) (random : ρ) (pool : ForkedPool ρ) :
    (forkedRound env worker visit random pool).generators other = pool.generators other :=
  Function.update_of_ne apart _ _

inductive ForkedEvent
  | connection (worker : Fin workerCount) (visit : Visit Int) (dispatches : Bool)
  | monitorTick

/-- A living worker takes a connection, or the map monitor runs once. -/
inductive ForkedStep (rand : ρ → Nat × ρ) (format : FloatFormat) (pool : ForkedPool ρ) :
    ForkedEvent → ForkedPool ρ → Prop
  | connection (worker : Fin workerCount) (visit : Visit Int) (random : ρ)
      (alive : pool.generators worker = some random) :
      ForkedStep rand format pool
        (.connection worker visit (dispatched pool.shared
          (forkedRound (forkedEnv rand format) worker visit random pool).shared))
        (forkedRound (forkedEnv rand format) worker visit random pool)
  | monitorTick (draws : Nat → TickDraws) (shared : SharedState)
      (tick : mapMonitorTick initMapObstacles draws pool.shared = some shared) :
      ForkedStep rand format pool .monitorTick { pool with shared }

/-- The pool that `start_coordinator_process` forks after `server_main` has drawn
the first drivers from the generator. -/
def forkedPool (rand : ρ → Nat × ρ) (format : FloatFormat) :
    System (ForkedPool ρ) ForkedEvent where
  initial pool := ∃ (driverCount mode : Int) (random : ρ),
    serverMain driverCount mode (initDraws rand random) = some pool.shared ∧
      pool.generators = (fun _ => some (generatorAfter rand random driverCount.toNat)) ∧
      pool.recorded = []
  step := ForkedStep rand format

/-! ## Sessions and their replays -/

/-- The packets of a session: a handshake and a ride request. -/
structure SessionPackets (handshake request : Packet) : Prop where
  isHandshake : handshake.header.type = msgTypeHandshake
  isRequest : request.header.type = msgTypeRideReq
  isRide : request.header.opcode = opReqRide

/-- A connection on which exactly the bytes arrive of a session that has caused a
dispatch in the past. -/
def Replayed (past : List ForkedEvent) (visit : Visit Int) : Prop :=
  visit.socket.Reliable ∧ ∃ handshake request, SessionPackets handshake request ∧
    visit.socket.bytes = wires [handshake, request] ∧
    ∃ worker recorded, ForkedEvent.connection worker recorded true ∈ past ∧
      recorded.socket.bytes = visit.socket.bytes

/-- No replay in the trace has caused a dispatch. -/
def ReplayFree (trace : List ForkedEvent) : Prop :=
  ∀ past worker visit dispatches later,
    trace = past ++ ForkedEvent.connection worker visit dispatches :: later →
      Replayed past visit → dispatches = false

/-- The connection after its handshake, with the private key that the generator
gives next. -/
def Visit.keyed (rand : ρ → Nat × ρ) (visit : Visit Int) (random : ρ) (handshake : Packet) :
    Connection :=
  let connection := (Connection.opened visit.header visit.body).receive handshake
  { connection with
    sessionKey := deriveSessionKey (calculateSharedSecret (publicKeyField connection.body.bytes)
      (generatePrivateKey rand random).1) 64
    isKeyEstablished := true }

/-- The generator's next private key fits the request, the limiter lets its
client through, and a driver can be selected. -/
structure Accepts (rand : ρ → Nat × ρ) (random : ρ) (visit : Visit Int) (shared : SharedState)
    (handshake request : Packet) (key : Rc4State) : Prop where
  scheduled : keySchedule (visit.keyed rand random handshake).sessionKey = some key
  agrees : ChecksumAgrees key request
  allowed : (checkAndUpdateRateLimit
    (requestClientId ((visit.keyed rand random handshake).decrypt request key).body.bytes)
    visit.outside shared).1 = false
  available : ∃ slot, Selectable shared slot

/-- A step is no replay at a worker that accepts it. -/
def Refuses (rand : ρ → Nat × ρ) (pool : ForkedPool ρ) : ForkedEvent → Prop
  | .connection worker visit _ => ∀ handshake request random key,
      SessionPackets handshake request → visit.socket.Reliable →
      visit.socket.bytes = wires [handshake, request] → visit.socket.bytes ∈ pool.recorded →
      pool.generators worker = some random →
      ¬ Accepts rand random visit pool.shared handshake request key
  | .monitorTick => True

/-! ## One session at one worker -/

theorem dispatched_eq_false {before after : SharedState}
    (same : after.totalSuccessRequests = before.totalSuccessRequests) :
    dispatched before after = false :=
  decide_eq_false (not_not_intro same)

theorem dispatched_dispatchTo (slot : Fin maxDrivers) (isVip : Bool) (draws : TargetDraws)
    (state : SharedState) : dispatched state (dispatchTo slot isVip draws state) = true := by
  apply decide_eq_true
  intro same
  have count : state.totalSuccessRequests + 1 = state.totalSuccessRequests := same
  exact absurd (UInt64.add_eq_left.mp count) (by decide)

/-- The service dispatches exactly when somebody can be selected. -/
theorem rideCriticalSection_dispatches_iff {clientId : Int} {draws : TargetDraws}
    {state next : SharedState} {outcome : Option (Fin maxDrivers × ℚ)}
    (fits : state.driverCount ≤ maxDrivers)
    (section_ : rideCriticalSection clientId draws state = some (next, outcome)) :
    dispatched state next = true ↔ ∃ slot, Selectable state slot := by
  rw [← selectDriver_found_iff (isVipClient clientId) fits]
  rw [rideCriticalSection_eq] at section_
  obtain ⟨best, selected, result⟩ := Option.map_eq_some_iff.mp section_
  rw [selected]
  cases best with
  | none =>
      cases result
      simp [dispatched]
  | some slot =>
      cases result
      simp [dispatched_dispatchTo]

/-- The limiter changes nothing that the selection looks at. -/
theorem selectable_limited {clientId now : Int} {blocked : Bool} {limited : SharedState}
    (check : checkAndUpdateRateLimit clientId now shared = (blocked, limited))
    (slot : Fin maxDrivers) : Selectable limited slot ↔ Selectable shared slot := by
  obtain ⟨drivers, driverCount, _⟩ := checkAndUpdateRateLimit_keeps check
  unfold Selectable Candidate slotDistance SharedState.Active
  rw [drivers, driverCount]

/-- A request that reaches the wrapper dispatches exactly when the limiter lets
it through and somebody can be selected. -/
theorem processRideRequestWrapper_dispatches_iff {γ : Type u} {world : World γ}
    (fits : world.shared.driverCount ≤ maxDrivers) (env : Env γ) (body : Region 1024)
    (sessionKey : CString) :
    dispatched world.shared
        (exitWorld (processRideRequestWrapper env body sessionKey world)).shared = true ↔
      (checkAndUpdateRateLimit (requestClientId body.bytes) (env.time world.outside).1
        world.shared).1 = false ∧
      ∃ slot, Selectable world.shared slot := by
  obtain ⟨now, check⟩ := limitRequest_check env (requestClientId body.bytes) world
  obtain ⟨_, driverCount, successes, _⟩ := checkAndUpdateRateLimit_keeps check
  rw [← limitRequest_verdict]
  have limitedFits : (limitRequest env (requestClientId body.bytes) world).2.shared.driverCount ≤
      maxDrivers := by
    rw [driverCount]
    exact fits
  rcases processRideRequestWrapper_cases env body sessionKey world rfl rfl with
    ⟨verdict, result⟩ | ⟨_, fault, _⟩ | ⟨verdict, text, served, service, result⟩
  · rw [result, (replyBlocked_quiet sessionKey _).1, dispatched_eq_false successes, verdict]
    simp
  · -- a selection within the table returns
    obtain ⟨outcome, total⟩ := rideCriticalSection_total (requestClientId body.bytes) _ limitedFits
    rw [serveRequest, handleRideRequestLogic, total] at fault
    cases fault
  · obtain ⟨draws, outcome, section_, _⟩ := serveRequest_section service
    have moved := rideCriticalSection_dispatches_iff limitedFits section_
    rw [dispatched, successes, ← dispatched] at moved
    rw [result, (replyText_quiet sessionKey text served).1, moved, verdict]
    simp only [selectable_limited check, true_and]

/-- The two packets of a session at a worker: the worker answers the handshake
with its next private key and takes the request when its checksum fits. -/
theorem handle_session (format : FloatFormat) (shared : SharedState)
    (packets : SessionPackets handshake request) (reliable : visit.socket.Reliable)
    (bytes : visit.socket.bytes = wires [handshake, request])
    (scheduled : keySchedule (visit.keyed rand random handshake).sessionKey = some key) :
    ∃ answered : World (ρ × Int), answered.shared = shared ∧ answered.outside.2 = visit.outside ∧
      (visit.taken random).handle (forkedEnv rand format) shared =
        if ChecksumAgrees key request then
          processRideRequestWrapper (forkedEnv rand format)
            ((visit.keyed rand random handshake).decrypt request key).body
            (visit.keyed rand random handshake).sessionKey (accept key request answered)
        else .returned answered := by
  have answer : ∃ answered : World (ρ × Int), answered.shared = shared ∧
      answered.outside.2 = visit.outside ∧
      handlePacket (forkedEnv rand format)
          ((Connection.opened visit.header visit.body).receive handshake)
          ((visit.taken random).opened shared) =
        .again (visit.keyed rand random handshake) answered := by
    rw [handlePacket_handshake _ _ packets.isHandshake, answerHandshake]
    exact ⟨_, rfl, rfl, rfl⟩
  obtain ⟨answered, sameShared, sameClock, answer⟩ := answer
  have writable : (visit.keyed rand random handshake).body.writable = true := rfl
  have established : (visit.keyed rand random handshake).isKeyEstablished = true := rfl
  have whole := handleClient_wires (forkedEnv rand format) reliable bytes visit.header visit.body
    ((visit.taken random).opened shared)
  rw [serve, answer] at whole
  simp only at whole
  rw [serve, handlePacket_decrypted _ _ writable packets.isRequest established scheduled,
    if_pos packets.isRide] at whole
  refine ⟨answered, sameShared, sameClock, whole.trans ?_⟩
  by_cases agrees : ChecksumAgrees key request
  · rw [if_pos agrees, if_pos agrees, Control.finish_exit]
  · rw [if_neg agrees, if_neg agrees, Control.finish_exit]

/-- A session dispatches exactly when the worker accepts it. -/
theorem handle_session_dispatches_iff (format : FloatFormat)
    (fits : shared.driverCount ≤ maxDrivers) (packets : SessionPackets handshake request)
    (reliable : visit.socket.Reliable) (bytes : visit.socket.bytes = wires [handshake, request]) :
    dispatched shared
        (exitWorld ((visit.taken random).handle (forkedEnv rand format) shared)).shared = true ↔
      ∃ key, Accepts rand random visit shared handshake request key := by
  obtain ⟨key, scheduled⟩ :
      ∃ key, keySchedule (visit.keyed rand random handshake).sessionKey = some key :=
    keySchedule_deriveSessionKey _
  obtain ⟨answered, rfl, clock, handled⟩ :=
    handle_session format shared packets reliable bytes scheduled
  rw [handled]
  by_cases agrees : ChecksumAgrees key request
  · have accepted : (accept key request answered).shared.driverCount ≤ maxDrivers := fits
    have wrapper := processRideRequestWrapper_dispatches_iff accepted (forkedEnv rand format)
      ((visit.keyed rand random handshake).decrypt request key).body
      (visit.keyed rand random handshake).sessionKey
    rw [if_pos agrees]
    rw [accept_shared] at wrapper
    rw [wrapper]
    have reading : ((forkedEnv rand format).time (accept key request answered).outside).1 =
        visit.outside := clock
    rw [reading]
    constructor
    · rintro ⟨allowed, available⟩
      exact ⟨key, scheduled, agrees, allowed, available⟩
    · rintro ⟨other, derived, _, allowed, available⟩
      rw [scheduled] at derived
      cases derived
      exact ⟨allowed, available⟩
  · rw [if_neg agrees, exitWorld, dispatched_eq_false rfl]
    constructor
    · intro impossible
      cases impossible
    · rintro ⟨other, derived, fitting, _⟩
      rw [scheduled] at derived
      cases derived
      exact absurd fitting agrees

/-! ## Runs -/

variable {trace : List ForkedEvent} {pool next : ForkedPool ρ} {event : ForkedEvent}

/-- No connection pushes the count out of the table. -/
theorem Effect.fits {before after : SharedState} {operations : List Operation}
    (effect : Effect before operations after) (fits : before.driverCount ≤ maxDrivers) :
    after.driverCount ≤ maxDrivers := by
  have limiter : ∀ {clientId now : Int} {blocked : Bool} {limited : SharedState},
      checkAndUpdateRateLimit clientId now before = (blocked, limited) →
      limited.driverCount ≤ maxDrivers := by
    intro clientId now blocked limited check
    rw [(checkAndUpdateRateLimit_keeps check).2.1]
    exact fits
  cases effect with
  | nothing => exact fits
  | blocked clientId now _ check => exact limiter check
  | faulted clientId now _ check => exact limiter check
  | served clientId now limited _ draws outcome check section_ =>
      have still := limiter check
      rcases rideCriticalSection_cases section_ with ⟨_, rfl⟩ | ⟨slot, _, _, _, rfl⟩
      · exact still
      · exact still
  | joined driverId _ join =>
      rcases processDriverJoin_cases join with ⟨_, rfl⟩ | ⟨slot, count, rfl⟩
      · exact fits
      · have inside := slot.isLt
        simp only
        omega

/-- The server only comes up with a count that its table can hold, and no run
leaves the table. -/
theorem forkedPool_fits (run : Run (forkedPool rand format) trace pool) :
    pool.shared.driverCount ≤ maxDrivers := by
  induction run with
  | start starts =>
      obtain ⟨driverCount, mode, random, started, _⟩ := starts
      rcases Int.lt_or_le maxDrivers driverCount with beyond | fits
      · rw [serverMain, SharedState.forDrivers_eq_none _ (by exact beyond)] at started
        cases started
      · rw [SharedState.forDrivers_frame started]
        exact fits
  | snoc _ step ih =>
      cases step with
      | connection worker visit random alive =>
          obtain ⟨_, effect⟩ := (visit.taken random).handle_effect (forkedEnv rand format) _
          exact effect.fits ih
      | monitorTick draws shared tick =>
          rw [SharedState.forDrivers_frame tick]
          exact ih

/-- The eavesdropper has the streams of exactly the connections that caused a
dispatch. -/
theorem mem_recorded_iff (run : Run (forkedPool rand format) trace pool) (stream : List UInt8) :
    stream ∈ pool.recorded ↔
      ∃ worker visit, ForkedEvent.connection worker visit true ∈ trace ∧
        visit.socket.bytes = stream := by
  induction run with
  | start starts =>
      obtain ⟨_, _, _, _, _, nothing⟩ := starts
      simp [nothing]
  | snoc _ step ih =>
      simp only [List.mem_append, List.mem_singleton]
      cases step with
      | connection worker visit random alive =>
          rw [forkedRound]
          cases moved : dispatched _ _ with
          | true => simp [ih, or_and_right, exists_or, eq_comm, or_comm]
          | false => simp [ih]
      | monitorTick draws shared tick => simp [ih]

theorem replayFree_nil : ReplayFree [] := by
  intro past worker visit dispatches later split
  exact absurd (congrArg List.length split) (by simp)

theorem replayFree_snoc_iff :
    ReplayFree (trace ++ [event]) ↔ ReplayFree trace ∧
      ∀ worker visit dispatches, event = .connection worker visit dispatches →
        Replayed trace visit → dispatches = false := by
  constructor
  · intro free
    constructor
    · intro past worker visit dispatches later split
      apply free past worker visit dispatches (later ++ [event])
      rw [split, List.append_assoc, List.cons_append]
    · rintro worker visit dispatches rfl
      exact free trace worker visit dispatches [] rfl
  · rintro ⟨earlier, last⟩ past worker visit dispatches later split
    rcases List.eq_nil_or_concat later with rfl | ⟨front, final, rfl⟩
    · obtain ⟨rfl, same⟩ := List.append_inj' split rfl
      exact last worker visit dispatches (List.cons.inj same).1
    · rw [List.concat_eq_append, ← List.cons_append, ← List.append_assoc] at split
      exact earlier past worker visit dispatches front (List.append_inj' split rfl).1

/-- A step is free of replays that dispatch exactly when it meets the
condition. -/
theorem refuses_iff (run : Run (forkedPool rand format) trace pool)
    (step : ForkedStep rand format pool event next) :
    Refuses rand pool event ↔
      ∀ worker visit dispatches, event = .connection worker visit dispatches →
        Replayed trace visit → dispatches = false := by
  have fits := forkedPool_fits run
  cases step with
  | connection worker visit random alive =>
      constructor
      · rintro refuses _ _ _ ⟨⟩ ⟨reliable, handshake, request, packets, bytes, first,
          earlier, past, same⟩
        rw [Bool.eq_false_iff]
        intro moved
        obtain ⟨key, accepts⟩ :=
          (handle_session_dispatches_iff format fits packets reliable bytes).mp moved
        have known := (mem_recorded_iff run visit.socket.bytes).mpr ⟨first, earlier, past, same⟩
        exact refuses handshake request random key packets reliable bytes known alive accepts
      · intro quiet handshake request other key packets reliable bytes known living accepts
        obtain ⟨first, earlier, past, same⟩ := (mem_recorded_iff run visit.socket.bytes).mp known
        have silent := quiet worker visit _ rfl
          ⟨reliable, handshake, request, packets, bytes, first, earlier, past, same⟩
        rw [alive] at living
        cases living
        have moved := (handle_session_dispatches_iff format fits packets reliable
          bytes).mpr ⟨key, accepts⟩
        rw [forkedRound, moved] at silent
        cases silent
  | monitorTick draws shared tick =>
      simp [Refuses]

theorem replayFree_of_refuses
    (run : Run ((forkedPool rand format).restrict (Refuses rand)) trace pool) :
    ReplayFree trace := by
  induction run with
  | start starts => exact replayFree_nil
  | snoc before step ih =>
      exact replayFree_snoc_iff.mpr ⟨ih, (refuses_iff before.of_restrict step.1).mp step.2⟩

theorem refuses_of_replayFree (run : Run (forkedPool rand format) trace pool)
    (free : ReplayFree trace) :
    Run ((forkedPool rand format).restrict (Refuses rand)) trace pool := by
  induction run with
  | start starts => exact Run.start starts
  | snoc before step ih =>
      obtain ⟨earlier, last⟩ := replayFree_snoc_iff.mp free
      exact Run.snoc (ih earlier) ⟨step, (refuses_iff before step).mpr last⟩

/-! ## A recording sent to another worker -/

/-- A connection takes at most one driver. -/
theorem Effect.spares {before after : SharedState} {operations : List Operation}
    (effect : Effect before operations after) :
    ∃ taken : Fin maxDrivers, ∀ slot, slot ≠ taken → Selectable before slot →
      Selectable after slot := by
  have limiter : ∀ {clientId now : Int} {blocked : Bool} {limited : SharedState},
      checkAndUpdateRateLimit clientId now before = (blocked, limited) →
      ∀ slot, Selectable before slot → Selectable limited slot := by
    intro clientId now blocked limited check slot selectable
    exact (selectable_limited check slot).mpr selectable
  cases effect with
  | nothing => exact ⟨0, fun _ _ selectable => selectable⟩
  | blocked clientId now _ check => exact ⟨0, fun slot _ => limiter check slot⟩
  | faulted clientId now _ check => exact ⟨0, fun slot _ => limiter check slot⟩
  | served clientId now limited _ draws outcome check section_ =>
      rcases rideCriticalSection_cases section_ with ⟨_, rfl⟩ | ⟨taken, _, _, _, rfl⟩
      · exact ⟨0, fun slot _ => limiter check slot⟩
      · refine ⟨taken, fun slot other selectable => ?_⟩
        have still := limiter check slot selectable
        exact still.of_record (Function.update_of_ne other _ _) still.1.1
  | joined driverId _ join =>
      rcases processDriverJoin_cases join with ⟨_, rfl⟩ | ⟨taken, _, rfl⟩
      · exact ⟨0, fun _ _ selectable => selectable⟩
      · refine ⟨taken, fun slot other selectable => ?_⟩
        have active : (slot.val : Int) < before.driverCount + 1 :=
          Int.lt_add_one_of_le (Int.le_of_lt selectable.1.1)
        exact selectable.of_record (Function.update_of_ne other _ _) active

/-- The visit carries a session that the generator's next private key fits, from
a client that the limiter does not count. -/
structure FitsNext (rand : ρ → Nat × ρ) (random : ρ) (visit : Visit Int)
    (handshake request : Packet) (key : Rc4State) : Prop where
  packets : SessionPackets handshake request
  reliable : visit.socket.Reliable
  bytes : visit.socket.bytes = wires [handshake, request]
  scheduled : keySchedule (visit.keyed rand random handshake).sessionKey = some key
  agrees : ChecksumAgrees key request
  uncounted : limiterSlot
    (requestClientId ((visit.keyed rand random handshake).decrypt request key).body.bytes) = none

/-- Such a session dispatches as long as a driver is selectable. -/
theorem FitsNext.dispatches (fitting : FitsNext rand random visit handshake request key)
    (run : Run (forkedPool rand format) trace pool) (worker : Fin workerCount)
    (alive : pool.generators worker = some random) {slot : Fin maxDrivers}
    (selectable : Selectable pool.shared slot) :
    Run (forkedPool rand format) (trace ++ [.connection worker visit true])
      (forkedRound (forkedEnv rand format) worker visit random pool) := by
  have fits := forkedPool_fits run
  have allowed : (checkAndUpdateRateLimit
      (requestClientId ((visit.keyed rand random handshake).decrypt request key).body.bytes)
      visit.outside pool.shared).1 = false := by
    rw [checkAndUpdateRateLimit, fitting.uncounted]
  have moved := (handle_session_dispatches_iff format fits fitting.packets fitting.reliable
    fitting.bytes).mpr ⟨key, fitting.scheduled, fitting.agrees, allowed, slot, selectable⟩
  have step : ForkedStep rand format pool _ _ := .connection worker visit random alive
  rw [forkedRound] at step
  rw [forkedRound]
  simp only [moved] at step ⊢
  exact Run.snoc run step

/-- Whatever the generator, a session that dispatches at one worker dispatches
again at another worker whose copy of the generator is in the same state. -/
theorem FitsNext.replayed (fitting : FitsNext rand random visit handshake request key)
    (run : Run (forkedPool rand format) trace pool) {recorder other : Fin workerCount}
    (apart : other ≠ recorder) (first : pool.generators recorder = some random)
    (second : pool.generators other = some random) {slot spare : Fin maxDrivers}
    (distinct : slot ≠ spare) (selectable : Selectable pool.shared slot)
    (more : Selectable pool.shared spare) :
    ∃ next, Run (forkedPool rand format)
      (trace ++ [.connection recorder visit true] ++ [.connection other visit true]) next := by
  have recorded := fitting.dispatches run recorder first selectable
  have copied : (forkedRound (forkedEnv rand format) recorder visit random pool).generators
      other = some random :=
    (forkedRound_other _ apart visit random pool).trans second
  obtain ⟨_, effect⟩ := (visit.taken random).handle_effect (forkedEnv rand format) pool.shared
  obtain ⟨taken, spares⟩ := effect.spares
  by_cases same : slot = taken
  · subst same
    exact ⟨_, fitting.dispatches recorded other copied (spares spare distinct.symm more)⟩
  · exact ⟨_, fitting.dispatches recorded other copied (spares slot same selectable)⟩

/-- The worker has not taken a connection. -/
def Unserved (trace : List ForkedEvent) (worker : Fin workerCount) : Prop :=
  ∀ visit dispatches, ForkedEvent.connection worker visit dispatches ∉ trace

/-- All workers that have not taken a connection hold the same generator. -/
theorem unserved_generator (run : Run (forkedPool rand format) trace pool) :
    ∃ random, ∀ worker, Unserved trace worker → pool.generators worker = some random := by
  induction run with
  | start starts =>
      obtain ⟨driverCount, _, random, _, copies, _⟩ := starts
      refine ⟨generatorAfter rand random driverCount.toNat, fun worker _ => ?_⟩
      rw [copies]
  | snoc _ step ih =>
      obtain ⟨random, same⟩ := ih
      refine ⟨random, fun worker unserved => ?_⟩
      have before := same worker fun visit dispatches member =>
        unserved visit dispatches (List.mem_append_left _ member)
      cases step with
      | connection served visit taken alive =>
          have apart : worker ≠ served := by
            rintro rfl
            exact unserved _ _ (List.mem_append_right _ (List.mem_singleton.mpr rfl))
          exact (forkedRound_other _ apart visit taken _).trans before
      | monitorTick draws shared tick => exact before

/-- The example generator of the C standard. -/
def standardRand (random : Nat) : Nat × Nat :=
  let next := (random * 1103515245 + 12345) % 2 ^ 32
  (next / 65536 % 32768, next)

/-- A connection of client 5000 with the private key 1. -/
def sessionVisit (socket : ReadEnd) : Visit Int where
  header := Vector.replicate _ 0
  body := Vector.replicate _ 0
  socket := socket
  writes := []
  outside := 5

/-- The two packets of that client. -/
def sessionStream (key : Rc4State) : ReadEnd :=
  .ofBytes (wires [handshakePacket 1, requestPacket key (rideRequestData 5000)])

theorem sessionVisit_fitsNext (rand : ρ → Nat × ρ) (random : ρ) :
    ∃ key, FitsNext rand random (sessionVisit (sessionStream key)) (handshakePacket 1)
      (requestPacket key (rideRequestData 5000)) key := by
  obtain ⟨key, scheduled⟩ : ∃ key, keySchedule
      ((sessionVisit []).keyed rand random (handshakePacket 1)).sessionKey = some key :=
    keySchedule_deriveSessionKey _
  have reliable := ReadEnd.reliable_ofBytes
    (wires [handshakePacket 1, requestPacket key (rideRequestData 5000)])
  have bytes := ReadEnd.bytes_ofBytes
    (wires [handshakePacket 1, requestPacket key (rideRequestData 5000)])
  refine ⟨key, ⟨rfl, rfl, rfl⟩, reliable, bytes, scheduled, checksumAgrees_sealRequest key _, ?_⟩
  rw [Exchange.requestClientId_decrypt, wrap32_clientId (by norm_num) (by norm_num)]
  rfl

/-- A driver is near the base after its initialisation. -/
theorem baseDistance_initDriver (i : Nat) (draws : InitDraws) (d : Driver) :
    baseDistance (initDriver i draws d) < 1000000 ^ 2 := by
  have offset : ∀ drawn : Nat, (((drawn % 100 : Nat) : ℚ) * 0.0001) ^ 2 < 1 := by
    intro drawn
    have small : ((drawn % 100 : Nat) : ℚ) < 100 := by
      exact_mod_cast Nat.mod_lt drawn (by decide)
    have nonneg : (0 : ℚ) ≤ ((drawn % 100 : Nat) : ℚ) := Nat.cast_nonneg _
    rw [sq_lt_one_iff_abs_lt_one, abs_of_nonneg (by linarith)]
    linarith
  have lat := offset draws.lat
  have lon := offset draws.lon
  rw [baseDistance, initDriver, distanceSq]
  simp only [sub_add_cancel_left, neg_sq]
  linarith

/-- Two drivers are selectable when the server is started with two. -/
theorem serverMain_two (mode : Int) (draws : Nat → InitDraws) :
    ∃ state, serverMain 2 mode draws = some state ∧ Selectable state 0 ∧ Selectable state 1 := by
  have fits : (2 : Int) ≤ maxDrivers := by decide
  obtain ⟨state, started, count⟩ : ∃ state, serverMain 2 mode draws = some state ∧
      state.driverCount = 2 :=
    ⟨_, SharedState.forDrivers_eq_some _ fits, rfl⟩
  obtain ⟨_, records⟩ := serverMain_wellFormed (by decide) fits started
  have each : ∀ slot : Fin maxDrivers, state.Active slot → Selectable state slot := by
    intro slot active
    have near := baseDistance_initDriver slot (draws slot) Driver.zeroed
    have able : eligible (initDriver slot (draws slot) Driver.zeroed) = true := rfl
    rw [← records slot active] at near able
    exact ⟨⟨active, able⟩, near⟩
  refine ⟨state, started, each 0 ?_, each 1 ?_⟩
  · rw [SharedState.Active, count]
    decide
  · rw [SharedState.Active, count]
    decide

/-- In every run, and under every generator, a client can record a session at one
fresh worker that dispatches again at another one. -/
theorem session_replayed (run : Run (forkedPool rand format) trace pool)
    {recorder other : Fin workerCount} (apart : other ≠ recorder)
    (fresh : Unserved trace recorder) (alsoFresh : Unserved trace other)
    {slot spare : Fin maxDrivers} (distinct : slot ≠ spare)
    (selectable : Selectable pool.shared slot) (more : Selectable pool.shared spare) :
    ∃ visit first second,
      Run (forkedPool rand format) (trace ++ [.connection recorder visit true]) first ∧
      Run (forkedPool rand format)
        (trace ++ [.connection recorder visit true] ++ [.connection other visit true]) second ∧
      Replayed (trace ++ [.connection recorder visit true]) visit := by
  obtain ⟨random, copies⟩ := unserved_generator run
  obtain ⟨key, fitting⟩ := sessionVisit_fitsNext rand random
  obtain ⟨second, replay⟩ := fitting.replayed run apart (copies recorder fresh)
    (copies other alsoFresh) distinct selectable more
  have recorded := fitting.dispatches run recorder (copies recorder fresh) selectable
  refine ⟨_, _, second, recorded, replay, fitting.reliable, _, _, fitting.packets, fitting.bytes,
    recorder, _, ?_, rfl⟩
  exact List.mem_append_right _ (List.mem_singleton.mpr rfl)

theorem workerCount_eq : workerCount = 98 + 2 :=
  rfl

/-- The worker that takes the first connection. -/
def openingWorker : Fin workerCount :=
  Fin.cast workerCount_eq.symm 0

/-- A worker that takes the second one. -/
def nextWorker : Fin workerCount :=
  Fin.cast workerCount_eq.symm 1

/-- Already the first session of a server with two drivers can be replayed. -/
theorem openingSession_replayed (rand : ρ → Nat × ρ) (format : FloatFormat) (random : ρ) :
    ∃ visit first second,
      Run (forkedPool rand format) [.connection openingWorker visit true] first ∧
      Run (forkedPool rand format)
        [.connection openingWorker visit true, .connection nextWorker visit true] second ∧
      Replayed [.connection openingWorker visit true] visit := by
  obtain ⟨state, started, selectable, more⟩ := serverMain_two 0 (initDraws rand random)
  have run : Run (forkedPool rand format) []
      ⟨state, fun _ => some (generatorAfter rand random 2), []⟩ :=
    Run.start ⟨2, 0, random, started, rfl, rfl⟩
  have apart : nextWorker ≠ openingWorker := by decide
  have distinct : (0 : Fin maxDrivers) ≠ 1 := by decide
  have fresh : ∀ worker, Unserved [] worker := fun _ _ _ => List.not_mem_nil
  exact session_replayed run apart (fresh _) (fresh _) distinct selectable more

/-! ## Every run -/

/-- No replay in a run dispatches exactly when no replay in it reaches a worker
that accepts it. -/
theorem replayFree_iff (run : Run (forkedPool rand format) trace pool) :
    ReplayFree trace ↔ Run ((forkedPool rand format).restrict (Refuses rand)) trace pool :=
  ⟨refuses_of_replayFree run, replayFree_of_refuses⟩

/-- Under the example generator of the C standard the first session of a server
meets the condition, and its replay at the next worker does not. -/
theorem replayFree_iff_openingSession :
    ∃ visit first second,
      Run ((forkedPool standardRand stillEnv.format).restrict (Refuses standardRand))
        [.connection openingWorker visit true] first ∧
      ¬ Run ((forkedPool standardRand stillEnv.format).restrict (Refuses standardRand))
        [.connection openingWorker visit true, .connection nextWorker visit true]
          second := by
  obtain ⟨visit, first, second, recorded, replay, same⟩ :=
    openingSession_replayed standardRand stillEnv.format 1
  refine ⟨visit, first, second, (replayFree_iff recorded).mp ?_, fun met => ?_⟩
  · apply replayFree_snoc_iff.mpr ⟨replayFree_nil, _⟩
    rintro _ _ _ _ ⟨_, _, _, _, _, _, _, past, _⟩
    exact absurd past List.not_mem_nil
  · have free := (replayFree_iff replay).mpr met
    cases free [_] _ visit true [] rfl same

/-- The replayed session of that server dispatches. -/
theorem replay_openingSession :
    ∃ (trace : List ForkedEvent) (pool : ForkedPool Nat),
      Run (forkedPool standardRand stillEnv.format) trace pool ∧ ¬ ReplayFree trace := by
  obtain ⟨visit, _, second, _, replay, same⟩ :=
    openingSession_replayed standardRand stillEnv.format 1
  refine ⟨_, second, replay, fun free => ?_⟩
  cases free [_] _ visit true [] rfl same

end RideHailing.Session
