import RideHailing.Session.Reply

/-!
# The pool of workers

`start_coordinator_process` forks its workers once; each runs `dispatcher_loop`
and serves one connection after the other.  A worker that is killed is only
waited for, never forked again.  The connections of the pool are taken here in
some order, with ticks of the map monitor between them; what each connection
does to the shared memory is a sequence of critical sections of the server.
-/

namespace RideHailing.Session

open RideHailing.Bytes
open RideHailing.Common
open RideHailing.Fleet
open RideHailing.Server
open RideHailing.Transition

universe u

variable {γ : Type u} {env : Env γ} {start connection : Connection} {world current : World γ}
  {past : List Packet} {packet : Packet} {key : Rc4State} {sessionKey : CString}

/-! ## Which calls kill a worker -/

/-- The number of workers that a call costs. -/
def deaths : Exit γ → Nat
  | .returned _ => 0
  | .killed _ => 1

theorem deaths_le_one (result : Exit γ) : deaths result ≤ 1 := by
  cases result with
  | returned world => exact Nat.zero_le 1
  | killed world => exact Nat.le_refl 1

/-- A ride request kills the worker exactly when the limiter blocks it. -/
theorem processRideRequestWrapper_deaths (reachable : Reachable secureServer world.shared)
    (scheduled : keySchedule sessionKey = some key) (env : Env γ) (body : Region 1024) :
    ∃ operations, HasEffect world (exitWorld (processRideRequestWrapper env body sessionKey world))
        operations ∧
      operations.countP blocks = deaths (processRideRequestWrapper env body sessionKey world) := by
  obtain ⟨rest, effect, quiet⟩ := processRideRequestWrapper_effect env body sessionKey world
  refine ⟨_, effect, ?_⟩
  cases verdict : (limitRequest env (requestClientId body.bytes) world).1 with
  | true =>
      rw [processRideRequestWrapper_blocked rfl verdict, List.countP_cons, quiet]
      rfl
  | false =>
      obtain ⟨text, served, _, wrapped⟩ :=
        processRideRequestWrapper_allowed reachable rfl verdict sessionKey
      obtain ⟨header, message, replied⟩ := replyText_returned scheduled text served
      rw [wrapped, replied, List.countP_cons, quiet]
      rfl

theorem processDriverJoinPacket_returned (body : Region 1024)
    (nonneg : 0 ≤ world.shared.driverCount) : deaths (processDriverJoinPacket body world) = 0 := by
  obtain ⟨next, join⟩ := processDriverJoin_total (driverIdField body.bytes) nonneg
  rw [processDriverJoinPacket, join]
  rfl

/-- A join never kills the worker. -/
theorem joinOrContinue_deaths (reachable : Reachable secureServer current.shared)
    {result : Exit γ} (ends : joinOrContinue connection current = .exit result) :
    ∃ operations, HasEffect current (exitWorld result) operations ∧
      operations.countP blocks = deaths result := by
  obtain ⟨_, rfl⟩ := joinOrContinue_exit ends
  rw [processDriverJoinPacket_returned connection.body (reachable_wellFormed reachable).nonneg]
  rcases processDriverJoinPacket_effect connection.body current with nothing | joined
  · exact ⟨_, nothing, rfl⟩
  · exact ⟨_, joined, rfl⟩

/-- The packet that ends a connection kills the worker exactly when it is a
request that the limiter blocks. -/
theorem handlePacket_deaths (reached : Reached env start world past connection current)
    (reachable : Reachable secureServer world.shared) {result : Exit γ}
    (ends : handlePacket env (connection.receive packet) current = .exit result) :
    ∃ operations, HasEffect world (exitWorld result) operations ∧
      operations.countP blocks = deaths result := by
  have state : Reachable secureServer current.shared := by
    rw [reached.shared]
    exact reachable
  have silent : HasEffect world current [] :=
    (HasEffect.refl current).of_quiet reached.shared reached.quiet
  have step := handlePacket_step env reached.writable packet current
  rw [ends] at step
  generalize control_eq : Control.exit result = control at step
  cases step with
  | handshake isHandshake =>
      rw [answerHandshake] at control_eq
      cases control_eq
  | unkeyed isRequest unkeyed =>
      cases control_eq
      exact ⟨[], silent, rfl⟩
  | unscheduled isRequest keyed fails =>
      obtain ⟨key, scheduled⟩ := (reached.keyed keyed).scheduled
      rw [fails] at scheduled
      cases scheduled
  | mismatch key isRequest keyed scheduled wrong =>
      cases control_eq
      exact ⟨[], silent, rfl⟩
  | ride key isRequest keyed scheduled agrees isRide =>
      rw [Control.exit.inj control_eq]
      have accepted : Reachable secureServer (accept key packet current).shared := state
      obtain ⟨operations, effect, count⟩ := processRideRequestWrapper_deaths accepted scheduled env
        (connection.decrypt packet key).body
      refine ⟨operations, effect.of_quiet ?_ ?_, count⟩
      · rw [accept_shared, reached.shared]
      · rw [stateOperations_accept, reached.quiet]
  | fallThrough key isRequest keyed scheduled agrees notRide =>
      have accepted : Reachable secureServer (accept key packet current).shared := state
      obtain ⟨operations, effect, count⟩ := joinOrContinue_deaths accepted control_eq.symm
      refine ⟨operations, effect.of_quiet ?_ ?_, count⟩
      · rw [accept_shared, reached.shared]
      · rw [stateOperations_accept, reached.quiet]
  | other notHandshake notRequest =>
      obtain ⟨operations, effect, count⟩ := joinOrContinue_deaths state control_eq.symm
      exact ⟨operations, effect.of_quiet reached.shared reached.quiet, count⟩

/-- A connection kills its worker exactly when it makes a request that the
limiter blocks, whatever its socket does. -/
theorem handleClient_deaths (reachable : Reachable secureServer world.shared) (env : Env γ)
    (header : Vector UInt8 ProtocolHeader.size) (body : Vector UInt8 1024) (socket : ReadEnd) :
    ∃ operations, HasEffect world (exitWorld (handleClient env header body socket world))
        operations ∧
      operations.countP blocks = deaths (handleClient env header body socket world) := by
  obtain ⟨packets, loop⟩ := receiveLoop_serve env socket (Connection.opened header body) world
  rw [handleClient, loop]
  cases outcome : serve env packets (Connection.opened header body) world with
  | again connection current =>
      have reached := reached_of_served rfl rfl outcome
      exact ⟨[], (HasEffect.refl current).of_quiet reached.shared reached.quiet, rfl⟩
  | exit result =>
      obtain ⟨before, packet, after, connection, current, rfl, served, ends⟩ := serve_exit outcome
      exact handlePacket_deaths (reached_of_served rfl rfl served) reachable ends

/-! ## The pool -/

/-- `WORKER_COUNT`. -/
def workerCount : Nat := 100

/-- The shared memory, and how many workers still run `dispatcher_loop`. -/
structure Pool where
  shared : SharedState
  live : Nat

/-- A connection as `accept` returns it to a worker: the socket, the worker's
stack, and what it meets outside. -/
structure Visit (γ : Type u) where
  header : Vector UInt8 ProtocolHeader.size
  body : Vector UInt8 1024
  socket : ReadEnd
  writes : WriteEnd
  outside : γ

namespace Visit

/-- The world of the worker when it takes the connection. -/
def opened (visit : Visit γ) (shared : SharedState) : World γ where
  shared := shared
  outside := visit.outside
  writes := visit.writes
  sent := []
  operations := []

/-- The call of `handle_client` in `dispatcher_loop`. -/
def handle (env : Env γ) (visit : Visit γ) (shared : SharedState) : Exit γ :=
  handleClient env visit.header visit.body visit.socket (visit.opened shared)

end Visit

/-- One round of `dispatcher_loop` in one of the workers. -/
def dispatcherRound (env : Env γ) (visit : Visit γ) (pool : Pool) : Pool where
  shared := (exitWorld (visit.handle env pool.shared)).shared
  live := pool.live - deaths (visit.handle env pool.shared)

inductive PoolEvent
  | connection (sections : List Operation)
  | monitorTick
  deriving DecidableEq

/-- A worker serves a connection, or the map monitor runs once.  The peer takes
every write: after a reset `send` would end the worker by `SIGPIPE`, which the
server leaves at its default. -/
inductive PoolStep (env : Env γ) (pool : Pool) : PoolEvent → Pool → Prop
  | connection (visit : Visit γ) (alive : 0 < pool.live) (delivers : visit.writes.Reliable) :
      PoolStep env pool
        (.connection (stateOperations (exitWorld (visit.handle env pool.shared))))
        (dispatcherRound env visit pool)
  | monitorTick (draws : Nat → TickDraws) (shared : SharedState)
      (tick : mapMonitorTick initMapObstacles draws pool.shared = some shared) :
      PoolStep env pool .monitorTick { pool with shared }

/-- The pool as `start_coordinator_process` forks it. -/
def workerPool (env : Env γ) : System Pool PoolEvent where
  initial pool := secureServer.initial pool.shared ∧ pool.live = workerCount
  step := PoolStep env

/-- The requests that the limiter has blocked in a run. -/
def blockedRequests (trace : List PoolEvent) : Nat :=
  (trace.flatMap fun
    | .connection sections => sections
    | .monitorTick => []).countP blocks

theorem blockedRequests_snoc_connection (trace : List PoolEvent) (sections : List Operation) :
    blockedRequests (trace ++ [.connection sections]) =
      blockedRequests trace + sections.countP blocks := by
  rw [blockedRequests, List.flatMap_append, List.countP_append, blockedRequests,
    List.flatMap_singleton]

theorem blockedRequests_snoc_monitorTick (trace : List PoolEvent) :
    blockedRequests (trace ++ [.monitorTick]) = blockedRequests trace := by
  rw [blockedRequests, List.flatMap_append, List.countP_append, blockedRequests,
    List.flatMap_singleton]
  rfl

/-- The effect of a connection is a sequence of critical sections. -/
theorem Effect.reachable {state next : SharedState} {operations : List Operation}
    (effect : Effect state operations next) (reachable : Reachable secureServer state) :
    Reachable secureServer next := by
  cases effect with
  | nothing => exact reachable
  | blocked clientId now _ check =>
      have step : secureServer.step state (.rateLimitCheck clientId now true) next := check
      exact reachable.snoc step
  | faulted clientId now _ check =>
      have step : secureServer.step state (.rateLimitCheck clientId now false) next := check
      exact reachable.snoc step
  | served clientId now limited _ draws outcome check section_ =>
      have limiter : secureServer.step state (.rateLimitCheck clientId now false) limited := check
      have service :
          secureServer.step limited (.rideRequest clientId (outcome.map Prod.fst)) next :=
        ⟨draws, outcome, section_, rfl⟩
      exact (reachable.snoc limiter).snoc service
  | joined driverId _ join =>
      have step : secureServer.step state (.driverJoin driverId) next := join
      exact reachable.snoc step

/-- A whole connection has at most one effect on the shared memory. -/
theorem Visit.handle_effect (env : Env γ) (visit : Visit γ) (shared : SharedState) :
    ∃ operations, Effect shared operations (exitWorld (visit.handle env shared)).shared := by
  obtain ⟨packets, loop⟩ := receiveLoop_serve env visit.socket
    (Connection.opened visit.header visit.body) (visit.opened shared)
  obtain ⟨operations, ⟨_, effect⟩, _⟩ : ∃ operations, HasEffect (visit.opened shared)
      (exitWorld (Control.finish (serve env packets (Connection.opened visit.header visit.body)
        (visit.opened shared)))) operations ∧ _ := serve_effect rfl rfl
  rw [Visit.handle, handleClient, loop]
  exact ⟨operations, effect⟩

/-- In every run of the pool the shared memory is one that the critical
sections can reach, and each blocked request has cost one worker. -/
theorem pool_run {trace : List PoolEvent} {pool : Pool} (run : Run (workerPool env) trace pool) :
    Reachable secureServer pool.shared ∧ pool.live + blockedRequests trace = workerCount := by
  apply run.invariant (P := fun trace pool =>
    Reachable secureServer pool.shared ∧ pool.live + blockedRequests trace = workerCount)
  · rintro start ⟨fresh, full⟩
    exact ⟨(Run.start fresh).reachable, full⟩
  · rintro trace pool event next ⟨reachable, balance⟩ step
    cases step with
    | connection visit alive delivers =>
        have before : Reachable secureServer (visit.opened pool.shared).shared := reachable
        obtain ⟨operations, ⟨recorded, effect⟩, count⟩ :=
          handleClient_deaths before env visit.header visit.body visit.socket
        refine ⟨effect.reachable before, ?_⟩
        have fresh : stateOperations (visit.opened pool.shared) = [] := rfl
        rw [fresh, List.nil_append] at recorded
        have lost := deaths_le_one (visit.handle env pool.shared)
        rw [blockedRequests_snoc_connection, Visit.handle, recorded, count, dispatcherRound,
          ← Visit.handle]
        simp only
        omega
    | monitorTick draws shared tick =>
        have section_ : secureServer.step pool.shared .monitorTick shared := ⟨draws, tick⟩
        rw [blockedRequests_snoc_monitorTick]
        exact ⟨reachable.snoc section_, balance⟩

end RideHailing.Session
