import RideHailing.Session.Workers

/-!
# A worker between its critical sections

`handle_client` reaches the shared memory in at most two critical sections and
in the formatting of its answer.  A phase is a point of the worker's code
between two such accesses, with the local variables that are still needed; a
step runs the code up to and including the next access.
-/

namespace RideHailing.Session

open RideHailing.Arithmetic
open RideHailing.Bytes
open RideHailing.Common
open RideHailing.Fleet
open RideHailing.Server

universe u

variable {γ : Type u}

/-- What a worker reaches apart from the shared memory. -/
structure Local (γ : Type u) where
  outside : γ
  writes : WriteEnd
  sent : List UInt8
  operations : List Operation

namespace Local

/-- The world of the worker, over the shared memory as it is now. -/
def world (own : Local γ) (shared : SharedState) : World γ where
  shared := shared
  outside := own.outside
  writes := own.writes
  sent := own.sent
  operations := own.operations

def send (own : Local γ) (data : List UInt8) : Local γ :=
  { own with
    writes := (sendN own.writes data).rest
    sent := own.sent ++ (sendN own.writes data).transmitted }

def record (own : Local γ) (operation : Operation) : Local γ :=
  { own with operations := own.operations ++ [operation] }

theorem send_reliable {own : Local γ} (reliable : own.writes.Reliable) (data : List UInt8) :
    (own.send data).sent = own.sent ++ data ∧ (own.send data).writes.Reliable := by
  obtain ⟨_, transmitted, still⟩ := sendN_reliable reliable data
  exact ⟨congrArg (own.sent ++ ·) transmitted, still⟩

/-- A peer that takes every write gets both writes of a packet. -/
theorem send_send {own : Local γ} (reliable : own.writes.Reliable) (first second : List UInt8) :
    ((own.send first).send second).sent = own.sent ++ (first ++ second) ∧
      ((own.send first).send second).writes.Reliable := by
  obtain ⟨firstSent, middle⟩ := send_reliable reliable first
  obtain ⟨secondSent, still⟩ := send_reliable middle second
  rw [secondSent, firstSent, List.append_assoc]
  exact ⟨rfl, still⟩

@[simp]
theorem world_shared (own : Local γ) (shared : SharedState) :
    (own.world shared).shared = shared :=
  rfl

@[simp]
theorem world_send (own : Local γ) (data : List UInt8) (shared : SharedState) :
    (own.send data).world shared = (own.world shared).send data :=
  rfl

@[simp]
theorem world_record (own : Local γ) (operation : Operation) (shared : SharedState) :
    (own.record operation).world shared = (own.world shared).record operation :=
  rfl

end Local

/-- What of a world belongs to the worker. -/
def localPart (world : World γ) : Local γ where
  outside := world.outside
  writes := world.writes
  sent := world.sent
  operations := world.operations

@[simp]
theorem localPart_world (own : Local γ) (shared : SharedState) :
    localPart (own.world shared) = own :=
  rfl

@[simp]
theorem world_localPart (world : World γ) : (localPart world).world world.shared = world :=
  rfl

/-! ## Phases -/

/-- Where a worker stands: in `accept`, before a `recv_n` of the loop, before one
of the three critical sections, between a ride's critical section and the
formatting of its answer, before `close`, or dead. -/
inductive Phase (γ : Type u)
  | accepting
  | receiving (socket : ReadEnd) (connection : Connection) (own : Local γ)
  | limiting (clientId : Int) (sessionKey : CString) (own : Local γ)
  | dispatching (clientId : Int) (sessionKey : CString) (own : Local γ)
  | answering (found : Option (Fin maxDrivers × ℚ)) (sessionKey : CString) (own : Local γ)
  | joining (driverId : UInt32) (own : Local γ)
  | closing (own : Local γ)
  | killed (own : Local γ)

/-- The phase after a call has ended. -/
def exitPhase : Exit γ → Phase γ
  | .returned world => .closing (localPart world)
  | .killed world => .killed (localPart world)

/-- The branch of a handshake packet, which never looks at the shared memory. -/
def handshakePhase (env : Env γ) (rest : ReadEnd) (connection : Connection) (own : Local γ) :
    Phase γ :=
  let srvPriv := env.generatePrivateKey own.outside
  let shared := calculateSharedSecret (publicKeyField connection.body.bytes) srvPriv.1
  let sessionKey := deriveSessionKey shared 64
  let keyed := { own with outside := srvPriv.2 }.record (.handshake sessionKey)
  .receiving rest { connection with sessionKey, isKeyEstablished := true }
    ((keyed.send handshakeResponseHeader.encode).send
      (encodeHandshakeData (calculatePublicKey srvPriv.1)))

/-- The join test; a join waits for the mutex. -/
def joinPhase (rest : ReadEnd) (connection : Connection) (own : Local γ) : Phase γ :=
  if (ProtocolHeader.decode connection.header.bytes).opcode = opDriverJoin then
    .joining (driverIdField connection.body.bytes) own
  else .receiving rest connection own

/-- The branch of a ride request, up to the call of the limiter. -/
def requestPhase (rest : ReadEnd) (connection : Connection) (own : Local γ) : Phase γ :=
  let header := ProtocolHeader.decode connection.header.bytes
  if connection.isKeyEstablished = false then .closing own
  else
    match rc4Crypt connection.body header.length.toNat connection.sessionKey with
    | none => .killed own
    | some body =>
        if calculateChecksum body.bytes header.length.toNat ≠ header.checksum then .closing own
        else
          let accepted := own.record (.requestAccepted (body.bytes.take header.length.toNat))
          if header.opcode = opReqRide then
            .limiting (requestClientId body.bytes) connection.sessionKey accepted
          else joinPhase rest { connection with body } accepted

/-- The loop body of `handle_client` after a packet was received. -/
def packetPhase (env : Env γ) (rest : ReadEnd) (connection : Connection) (own : Local γ) :
    Phase γ :=
  let header := ProtocolHeader.decode connection.header.bytes
  if header.type = msgTypeHandshake then handshakePhase env rest connection own
  else if header.type = msgTypeRideReq then requestPhase rest connection own
  else joinPhase rest connection own

/-- One round of the receive loop. -/
def receivePhase (env : Env γ) (socket : ReadEnd) (connection : Connection) (own : Local γ) :
    Phase γ :=
  if (recvN socket ProtocolHeader.size).ret ≤ 0 then .closing own
  else
    let merged := connection.header.write (recvN socket ProtocolHeader.size).data
    let length := (ProtocolHeader.decode merged.bytes).length.toNat
    if 1024 < length then .closing own
    else
      match receiveBody length (recvN socket ProtocolHeader.size).rest connection.body with
      | none => .closing own
      | some (body, rest) => packetPhase env rest { connection with header := merged, body } own

/-- The phase after the limiter's critical section: a blocked client is answered
at once. -/
def limitedPhase (clientId : Int) (sessionKey : CString) (limited : Bool × World γ) : Phase γ :=
  if limited.1 then exitPhase (replyBlocked sessionKey limited.2)
  else .dispatching clientId sessionKey (localPart limited.2)

/-- The local variables after the critical section of a ride request, in which
`rand()` is only called for a driver that was found. -/
def dispatchedLocal (env : Env γ) (clientId : Int) (found : Bool) (own : Local γ) : Local γ :=
  let lat := env.rand own.outside
  let lon := env.rand lat.2
  { own with outside := if found then lon.2 else own.outside }.record (.rideRequest clientId)

/-- The draws of a ride's destination. -/
def targetDraws (env : Env γ) (own : Local γ) : TargetDraws :=
  let lat := env.rand own.outside
  let lon := env.rand lat.2
  ⟨lat.1, lon.1⟩

/-- The worker's variables when it takes a connection. -/
def Visit.start (visit : Visit γ) : Local γ where
  outside := visit.outside
  writes := visit.writes
  sent := []
  operations := []

/-- The call of `handle_client` in `dispatcher_loop`. -/
def Visit.phase (visit : Visit γ) : Phase γ :=
  .receiving visit.socket (Connection.opened visit.header visit.body) visit.start

@[simp]
theorem Visit.start_world (visit : Visit γ) (shared : SharedState) :
    visit.start.world shared = visit.opened shared :=
  rfl

/-! ## Steps -/

/-- A worker takes a connection, goes on by itself, or enters one critical
section. -/
inductive WorkerAction (γ : Type u)
  | accepted (visit : Visit γ)
  | proceeded
  | entered (event : Event)

/-- The steps of `dispatcher_loop`, `handle_client` and what they call, on
connections whose peer takes every write: no file of the server ignores the
`SIGPIPE` that a write after a reset would end the worker with. -/
inductive WorkerStep (env : Env γ) (shared : SharedState) :
    Phase γ → WorkerAction γ → SharedState → Phase γ → Prop
  | accept (visit : Visit γ) (delivers : visit.writes.Reliable) :
      WorkerStep env shared .accepting (.accepted visit) shared visit.phase
  | receive (socket : ReadEnd) (connection : Connection) (own : Local γ) :
      WorkerStep env shared (.receiving socket connection own) .proceeded shared
        (receivePhase env socket connection own)
  | limit (clientId : Int) (sessionKey : CString) (own : Local γ) :
      WorkerStep env shared (.limiting clientId sessionKey own)
        (.entered (.rateLimitCheck clientId (env.time own.outside).1
          (limitRequest env clientId (own.world shared)).1))
        (limitRequest env clientId (own.world shared)).2.shared
        (limitedPhase clientId sessionKey (limitRequest env clientId (own.world shared)))
  | dispatch (clientId : Int) (sessionKey : CString) (own : Local γ) (next : SharedState)
      (found : Option (Fin maxDrivers × ℚ))
      (section_ : rideCriticalSection clientId (targetDraws env own) shared =
        some (next, found)) :
      WorkerStep env shared (.dispatching clientId sessionKey own)
        (.entered (.rideRequest clientId (found.map Prod.fst))) next
        (.answering found sessionKey (dispatchedLocal env clientId found.isSome own))
  | dispatchFault (clientId : Int) (sessionKey : CString) (own : Local γ)
      (fault : rideCriticalSection clientId (targetDraws env own) shared = none) :
      WorkerStep env shared (.dispatching clientId sessionKey own) .proceeded shared (.killed own)
  | answer (found : Option (Fin maxDrivers × ℚ)) (sessionKey : CString) (own : Local γ) :
      WorkerStep env shared (.answering found sessionKey own) .proceeded shared
        (exitPhase (replyText sessionKey (env.response shared found) (own.world shared)))
  | join (driverId : UInt32) (own : Local γ) (next : SharedState)
      (section_ : processDriverJoin driverId shared = some next) :
      WorkerStep env shared (.joining driverId own) (.entered (.driverJoin driverId)) next
        (.closing ((own.record (.driverJoin driverId)).send driverJoinResponse.encode))
  | joinFault (driverId : UInt32) (own : Local γ)
      (fault : processDriverJoin driverId shared = none) :
      WorkerStep env shared (.joining driverId own) .proceeded shared (.killed own)
  | close (own : Local γ) :
      WorkerStep env shared (.closing own) .proceeded shared .accepting

variable {env : Env γ} {shared next : SharedState} {phase after : Phase γ}

/-- What a worker does to the shared memory is a critical section of the
server. -/
theorem WorkerStep.criticalSection {event : Event}
    (step : WorkerStep env shared phase (.entered event) next after) :
    CriticalSection shared event next := by
  cases step with
  | limit clientId sessionKey own =>
      have check : checkAndUpdateRateLimit clientId (env.time own.outside).1 shared =
          ((limitRequest env clientId (own.world shared)).1,
            (limitRequest env clientId (own.world shared)).2.shared) := rfl
      exact check
  | dispatch clientId sessionKey own _ found section_ => exact ⟨_, found, section_, rfl⟩
  | join driverId own _ section_ => exact section_

/-- Outside the critical sections it changes nothing. -/
theorem WorkerStep.silent {action : WorkerAction γ}
    (step : WorkerStep env shared phase action next after)
    (outside : ∀ event, action ≠ .entered event) : next = shared := by
  cases step with
  | accept | receive | dispatchFault | answer | joinFault | close => rfl
  | limit clientId sessionKey own => exact absurd rfl (outside _)
  | dispatch clientId sessionKey own _ found section_ => exact absurd rfl (outside _)
  | join driverId own _ section_ => exact absurd rfl (outside _)

end RideHailing.Session
