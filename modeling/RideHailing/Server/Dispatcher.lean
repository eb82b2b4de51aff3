import RideHailing.Common.Net
import RideHailing.Common.Rc4
import RideHailing.Server.Coordinator
import RideHailing.Server.ResourceService

/-!
# The secure dispatcher

`handle_client` serves one connection: it receives one packet after the other
into the same two buffers and acts on its type and its opcode.  A worker that
stores into a read-only object, divides by zero or leaves an array dies; this
outcome is kept apart from a return to the accept loop.  Every operation on the
key or on the shared state is also recorded, in order, with its arguments.
-/

namespace RideHailing.Server

open RideHailing.Arithmetic
open RideHailing.Bytes
open RideHailing.Common

universe u

/-- The outside of a worker: `rand()`, the clock and the formatting of
floating-point numbers, over a state `γ`.  The choice of a private key and the
text of an answer are the server's own unless a theorem varies them. -/
structure Env (γ : Type u) where
  rand : γ → Nat × γ
  generatePrivateKey : γ → Int × γ := Common.generatePrivateKey rand
  time : γ → Int × γ
  format : FloatFormat
  response : SharedState → Option (Fin maxDrivers × ℚ) → CString := rideResponse format

/-- What a worker did, with the values it did it with. -/
inductive Operation
  | handshake (sessionKey : CString)
  | requestAccepted (body : List UInt8)
  | rateLimitCheck (clientId : Int) (blocked : Bool)
  | rideRequest (clientId : Int)
  | driverJoin (driverId : UInt32)
  deriving DecidableEq

/-- Everything that a worker reaches while it serves a connection, apart from
its own buffers.  A write that fails only returns -1 here.  No file of the server
ignores `SIGPIPE`, so what is said of whole runs of workers asks for peers that take
every write. -/
structure World (γ : Type u) where
  shared : SharedState
  outside : γ
  writes : WriteEnd
  sent : List UInt8
  operations : List Operation

/-- How a call ends: with a return, or with the death of the worker. -/
inductive Exit (γ : Type u)
  | returned (world : World γ)
  | killed (world : World γ)

namespace World

variable {γ : Type u}

/-- `send_n` on the connection; the dispatcher ignores its return value. -/
def send (world : World γ) (data : List UInt8) : World γ :=
  { world with
    writes := (sendN world.writes data).rest
    sent := world.sent ++ (sendN world.writes data).transmitted }

def record (world : World γ) (operation : Operation) : World γ :=
  { world with operations := world.operations ++ [operation] }

@[simp]
theorem send_shared (world : World γ) (data : List UInt8) :
    (world.send data).shared = world.shared :=
  rfl

@[simp]
theorem send_outside (world : World γ) (data : List UInt8) :
    (world.send data).outside = world.outside :=
  rfl

@[simp]
theorem send_operations (world : World γ) (data : List UInt8) :
    (world.send data).operations = world.operations :=
  rfl

@[simp]
theorem record_shared (world : World γ) (operation : Operation) :
    (world.record operation).shared = world.shared :=
  rfl

@[simp]
theorem record_outside (world : World γ) (operation : Operation) :
    (world.record operation).outside = world.outside :=
  rfl

@[simp]
theorem record_sent (world : World γ) (operation : Operation) :
    (world.record operation).sent = world.sent :=
  rfl

@[simp]
theorem record_writes (world : World γ) (operation : Operation) :
    (world.record operation).writes = world.writes :=
  rfl

@[simp]
theorem record_operations (world : World γ) (operation : Operation) :
    (world.record operation).operations = world.operations ++ [operation] :=
  rfl

theorem send_sent {world : World γ} (reliable : world.writes.Reliable) (data : List UInt8) :
    (world.send data).sent = world.sent ++ data := by
  rw [send, (sendN_reliable reliable data).2.1]

theorem send_reliable {world : World γ} (reliable : world.writes.Reliable) (data : List UInt8) :
    (world.send data).writes.Reliable :=
  (sendN_reliable reliable data).2.2

/-- Every packet of the server goes out in two writes. -/
theorem send_send {world : World γ} (reliable : world.writes.Reliable)
    (first second : List UInt8) :
    ((world.send first).send second).sent = world.sent ++ (first ++ second) ∧
      ((world.send first).send second).writes.Reliable := by
  have middle := send_reliable reliable first
  refine ⟨?_, send_reliable middle second⟩
  rw [send_sent middle, send_sent reliable, List.append_assoc]

end World

/-- A connection about to be served, over a socket that takes every write. -/
def World.opened (shared : SharedState) : World Unit where
  shared := shared
  outside := ()
  writes := []
  sent := []
  operations := []

/-- An outside that never changes: `rand()` is 0 and the clock stands. -/
def stillEnv : Env Unit where
  rand _ := (0, ())
  time _ := (5, ())
  format := { rating := fun _ => ascii "4.9", distance := fun _ => ascii "0.0000" }

/-! ## Replies -/

variable {γ : Type u}

/-- The literal `"Error: Blocked."`. -/
def blockedMessage : Region 16 where
  bytes := ascii "Error: Blocked." ++ [0]
  length_eq := by decide
  writable := false

/-- The header that `send_response_packet` puts before a message. -/
def responseHeader (respMsg : List UInt8) (len : Nat) (opcode : UInt16) : ProtocolHeader where
  length := UInt32.ofNat len
  type := msgTypeRideResp
  opcode := opcode
  checksum := calculateChecksum respMsg len

/-- `send_response_packet`.  The message is encrypted where it is. -/
def sendResponsePacket {n : Nat} (respMsg : Region n) (len : Nat) (opcode : UInt16)
    (sessionKey : Option CString) (world : World γ) : Exit γ :=
  let header := responseHeader respMsg.bytes len opcode
  let encrypted :=
    match sessionKey with
    | some key => rc4Crypt respMsg len key
    | none => some respMsg
  match encrypted with
  | some message => .returned ((world.send header.encode).send (message.bytes.take len))
  | none => .killed world

/-- The message that `process_ride_request_wrapper` keeps in `resp_msg[256]`;
nothing of the buffer is read that `snprintf` did not write. -/
def responseBuffer (text : CString) : Region 256 :=
  (Region.zero 256).snprintf 256 text

/-- The answer to a blocked client. -/
def replyBlocked (sessionKey : CString) (world : World γ) : Exit γ :=
  sendResponsePacket blockedMessage 15 opResponse (some sessionKey) world

/-- The answer of the service. -/
def replyText (sessionKey text : CString) (world : World γ) : Exit γ :=
  sendResponsePacket (responseBuffer text) (responseBuffer text).cString.length opResponse
    (some sessionKey) world

/-- The `client_id` of a request as the services see it. -/
def requestClientId (body : List UInt8) : Int :=
  wrap32 (clientIdField body).toNat

/-- The limiter's part of `process_ride_request_wrapper`.  The clock is only
read for an identifier that has an entry. -/
def limitRequest (env : Env γ) (clientId : Int) (world : World γ) : Bool × World γ :=
  let reading := env.time world.outside
  let limited := checkAndUpdateRateLimit clientId reading.1 world.shared
  (limited.1,
    { world with
      shared := limited.2
      outside := if (limiterSlot clientId).isSome then reading.2 else world.outside }.record
        (.rateLimitCheck clientId limited.1))

/-- The call of `handle_ride_request_logic`: the text it leaves in the buffer.
The destination is only drawn when a driver was found. -/
def serveRequest (env : Env γ) (clientId : Int) (world : World γ) :
    Option (CString × World γ) :=
  let lat := env.rand world.outside
  let lon := env.rand lat.2
  (handleRideRequestLogic env.response clientId ⟨lat.1, lon.1⟩ world.shared).map fun outcome =>
    (outcome.2.2,
      { world with
        shared := outcome.1
        outside := if outcome.2.1 = 0 then lon.2 else world.outside }.record
          (.rideRequest clientId))

/-- `process_ride_request_wrapper`. -/
def processRideRequestWrapper (env : Env γ) (body : Region 1024) (sessionKey : CString)
    (world : World γ) : Exit γ :=
  let clientId := requestClientId body.bytes
  let limited := limitRequest env clientId world
  if limited.1 then replyBlocked sessionKey limited.2
  else
    match serveRequest env clientId limited.2 with
    | none => .killed limited.2
    | some (text, served) => replyText sessionKey text served

/-- `process_driver_join` with its acknowledgement. -/
def processDriverJoinPacket (body : Region 1024) (world : World γ) : Exit γ :=
  let driverId := driverIdField body.bytes
  match processDriverJoin driverId world.shared with
  | none => .killed world
  | some shared =>
      .returned (({ world with shared }.record (.driverJoin driverId)).send
        driverJoinResponse.encode)

/-! ## One packet -/

/-- The local variables of `handle_client`. -/
structure Connection where
  header : Region ProtocolHeader.size
  body : Region 1024
  sessionKey : CString
  isKeyEstablished : Bool

/-- What the loop body of `handle_client` ends with. -/
inductive Control (γ : Type u)
  | again (connection : Connection) (world : World γ)
  | exit (result : Exit γ)

/-- The header that answers a handshake. -/
def handshakeResponseHeader : ProtocolHeader where
  length := UInt32.ofNat handshakeDataSize
  type := msgTypeHandshakeAck
  opcode := opHandshake
  checksum := 0

/-- The branch of a handshake packet. -/
def answerHandshake (env : Env γ) (connection : Connection) (world : World γ) : Control γ :=
  let srvPriv := env.generatePrivateKey world.outside
  let shared := calculateSharedSecret (publicKeyField connection.body.bytes) srvPriv.1
  let sessionKey := deriveSessionKey shared 64
  let keyed := { world with outside := srvPriv.2 }.record (.handshake sessionKey)
  .again { connection with sessionKey, isKeyEstablished := true }
    ((keyed.send handshakeResponseHeader.encode).send
      (encodeHandshakeData (calculatePublicKey srvPriv.1)))

/-- The last test of the loop body, reached by every packet that no earlier
branch took. -/
def joinOrContinue (connection : Connection) (world : World γ) : Control γ :=
  if (ProtocolHeader.decode connection.header.bytes).opcode = opDriverJoin then
    .exit (processDriverJoinPacket connection.body world)
  else .again connection world

/-- The branch of a ride request.  A request with another opcode falls through
to the join test, with the decrypted body. -/
def handleRequest (env : Env γ) (connection : Connection) (world : World γ) : Control γ :=
  let header := ProtocolHeader.decode connection.header.bytes
  if connection.isKeyEstablished = false then .exit (.returned world)
  else
    match rc4Crypt connection.body header.length.toNat connection.sessionKey with
    | none => .exit (.killed world)
    | some body =>
        if calculateChecksum body.bytes header.length.toNat ≠ header.checksum then
          .exit (.returned world)
        else
          let accepted := world.record
            (.requestAccepted (body.bytes.take header.length.toNat))
          if header.opcode = opReqRide then
            .exit (processRideRequestWrapper env body connection.sessionKey accepted)
          else joinOrContinue { connection with body } accepted

/-- The loop body of `handle_client` after a packet was received. -/
def handlePacket (env : Env γ) (connection : Connection) (world : World γ) : Control γ :=
  let header := ProtocolHeader.decode connection.header.bytes
  if header.type = msgTypeHandshake then answerHandshake env connection world
  else if header.type = msgTypeRideReq then handleRequest env connection world
  else joinOrContinue connection world

/-! ## The receive loop -/

/-- The body of a packet; `none` when fewer bytes arrive than announced. -/
def receiveBody (length : Nat) (socket : ReadEnd) (body : Region 1024) :
    Option (Region 1024 × ReadEnd) :=
  if 0 < length then
    if (recvN socket length).ret ≠ length then none
    else some (body.write (recvN socket length).data, (recvN socket length).rest)
  else some (body, socket)

theorem receiveBody_shrinks {length : Nat} {socket rest : ReadEnd} {before body : Region 1024}
    (received : receiveBody length socket before = some (body, rest)) :
    rest.bytes.length ≤ socket.bytes.length := by
  rw [receiveBody] at received
  split at received
  · split at received
    · cases received
    · cases received
      exact recvN_rest_le socket length
  · cases received
    exact Nat.le_refl _

/-- The loop of `handle_client`.  Every iteration that continues has consumed
at least one byte. -/
def receiveLoop (env : Env γ) (socket : ReadEnd) (connection : Connection) (world : World γ) :
    Exit γ :=
  if (recvN socket ProtocolHeader.size).ret ≤ 0 then .returned world
  else
    let merged := connection.header.write (recvN socket ProtocolHeader.size).data
    let length := (ProtocolHeader.decode merged.bytes).length.toNat
    if 1024 < length then .returned world
    else
      match _received : receiveBody length (recvN socket ProtocolHeader.size).rest
          connection.body with
      | none => .returned world
      | some (body, rest) =>
          match handlePacket env { connection with header := merged, body } world with
          | .again next later => receiveLoop env rest next later
          | .exit result => result
termination_by socket.bytes.length
decreasing_by
  exact Nat.lt_of_le_of_lt (receiveBody_shrinks _received) (recvN_rest_lt (Int.not_le.mp ‹_›))

/-- The local variables of `handle_client` before the loop; its two buffers are
not initialised. -/
def Connection.opened (header : Vector UInt8 ProtocolHeader.size) (body : Vector UInt8 1024) :
    Connection where
  header := .ofVector header
  body := .ofVector body
  sessionKey := []
  isKeyEstablished := false

/-- `handle_client`. -/
def handleClient (env : Env γ) (header : Vector UInt8 ProtocolHeader.size)
    (body : Vector UInt8 1024) (socket : ReadEnd) (world : World γ) : Exit γ :=
  receiveLoop env socket (Connection.opened header body) world

end RideHailing.Server
