import RideHailing.Client.Core
import RideHailing.Session.Reply

/-!
# A client and a server on one connection

One run of `perform_ride_request` and one of `handle_client`, each receiving
exactly the bytes that the other sends.  The division of the streams into
system calls is arbitrary on both sides, and nothing else about the two runs is
fixed.  Which bytes are exchanged follows from the programs alone.
-/

namespace RideHailing.Session

open RideHailing.Arithmetic
open RideHailing.Bytes
open RideHailing.Client
open RideHailing.Common
open RideHailing.Fleet
open RideHailing.Server
open RideHailing.Transition

universe u

variable {γ : Type u} {env : Env γ}

/-- The two runs, with everything they start from. -/
structure Exchange (γ : Type u) where
  clientPriv : Int
  request : RideRequestData
  buffers : Buffers
  channel : Channel
  header : Vector UInt8 ProtocolHeader.size
  body : Vector UInt8 1024
  socket : ReadEnd
  world : World γ

namespace Exchange

/-- The run of `perform_ride_request`. -/
def client (exchange : Exchange γ) : Option Outcome :=
  performRideRequestWith exchange.clientPriv (requestRegion exchange.request) exchange.buffers
    exchange.channel

/-- The key that the client derives in that run. -/
def clientKey (exchange : Exchange γ) : Option CString :=
  (performDhHandshake exchange.clientPriv (.ofVector exchange.buffers.handshakeHeader)
    (.ofVector exchange.buffers.handshakeBody) exchange.channel).1

/-- The run of `handle_client`. -/
def server (env : Env γ) (exchange : Exchange γ) : Exit γ :=
  handleClient env exchange.header exchange.body exchange.socket exchange.world

/-- The server's private key. -/
def serverPriv (env : Env γ) (exchange : Exchange γ) : Int :=
  (env.generatePrivateKey exchange.world.outside).1

/-- The key that the server derives from the client's public key. -/
def serverKey (env : Env γ) (exchange : Exchange γ) : CString :=
  deriveSessionKey (calculateSharedSecret (calculatePublicKey exchange.clientPriv)
    (exchange.serverPriv env)) 64

/-- The client's identifier as the server sees it. -/
def clientId (exchange : Exchange γ) : Int :=
  wrap32 exchange.request.clientId.toNat

/-- The limiter's answer to the request. -/
def limiter (env : Env γ) (exchange : Exchange γ) : Bool × SharedState :=
  checkAndUpdateRateLimit exchange.clientId
    (env.time (env.generatePrivateKey exchange.world.outside).2).1 exchange.world.shared

/-- Each side receives what the other sends, in order and without loss. -/
structure Lossless (env : Env γ) (exchange : Exchange γ) : Prop where
  channel : exchange.channel.Reliable
  serverReads : exchange.socket.Reliable
  serverWrites : exchange.world.writes.Reliable
  clientFresh : exchange.channel.sent = []
  serverFresh : exchange.world.sent = []
  toServer : ∀ outcome, exchange.client = some outcome →
    exchange.socket.bytes = outcome.channel.sent
  toClient : exchange.channel.reads.bytes = (exitWorld (exchange.server env)).sent

end Exchange

/-! ## The client's packets -/

/-- The client's handshake. -/
def handshakePacket (clientPriv : Int) : Packet where
  header := handshakeHeader
  body := encodeHandshakeData (calculatePublicKey clientPriv)
  length_eq := length_encodeHandshakeData (calculatePublicKey clientPriv)
  fits := handshakeData_fits

/-- The client's sealed request. -/
def requestPacket (key : Rc4State) (request : RideRequestData) : Packet :=
  sealRequest key request.encode request.length_encode

namespace Exchange

variable {exchange : Exchange γ} {key : Rc4State}

/-- Whatever it receives, the client ends, after it has sent its handshake. -/
theorem client_handshake (reliable : exchange.channel.Reliable)
    (fresh : exchange.channel.sent = []) :
    ∃ outcome more, exchange.client = some outcome ∧
      outcome.channel.sent = (handshakePacket exchange.clientPriv).wire ++ more := by
  obtain ⟨after, handshake, sent, _, still⟩ := performDhHandshake_reliable reliable
    exchange.clientPriv (.ofVector exchange.buffers.handshakeHeader)
    (.ofVector exchange.buffers.handshakeBody)
  obtain ⟨ackSent, ackReliable⟩ := receiveAck_keeps still exchange.clientPriv
    (.ofVector exchange.buffers.handshakeHeader) (.ofVector exchange.buffers.handshakeBody)
  rw [fresh, List.nil_append] at sent
  rw [client, performRideRequestWith, handshake]
  cases derived : (receiveAck exchange.clientPriv (.ofVector exchange.buffers.handshakeHeader)
      (.ofVector exchange.buffers.handshakeBody) after).1 with
  | none =>
      refine ⟨_, [], rfl, ?_⟩
      rw [List.append_nil]
      exact ackSent.trans sent
  | some sessionKey =>
      obtain ⟨secret, rfl⟩ := receiveAck_key derived
      obtain ⟨key, scheduled⟩ := keySchedule_deriveSessionKey secret
      have writable : (requestRegion exchange.request).writable = true := rfl
      obtain ⟨final, request, requestSent, _, _⟩ := sendRequest_reliable ackReliable scheduled
        writable (.ofVector exchange.buffers.responseHeader) (.ofVector exchange.buffers.message)
      obtain ⟨outcome, response, responseSent⟩ := receiveResponse_total scheduled
        (.ofVector exchange.buffers.responseHeader)
        (Region.writable_ofVector exchange.buffers.message) final
      refine ⟨outcome, (requestPacket key exchange.request).wire, request.trans response, ?_⟩
      rw [responseSent, requestSent, ackSent, sent]
      rfl

/-- Once the server's acknowledgement arrives, the client derives its key from
it, sends the sealed request and waits for the response. -/
theorem client_acknowledged (reliable : exchange.channel.Reliable)
    (fresh : exchange.channel.sent = []) {header : ProtocolHeader} {serverPriv : Int}
    {rest : List UInt8} (isAck : header.type = msgTypeHandshakeAck)
    (bytes : exchange.channel.reads.bytes =
      header.encode ++ (encodeHandshakeData (calculatePublicKey serverPriv) ++ rest))
    {sessionKey : CString}
    (agreed : sessionKey = deriveSessionKey
      (calculateSharedSecret (calculatePublicKey serverPriv) exchange.clientPriv) 64)
    (scheduled : keySchedule sessionKey = some key) :
    ∃ after, exchange.clientKey = some sessionKey ∧
      exchange.client = receiveResponse sessionKey (.ofVector exchange.buffers.responseHeader)
        (.ofVector exchange.buffers.message) after ∧
      after.sent = wires [handshakePacket exchange.clientPriv,
        requestPacket key exchange.request] ∧
      after.reads.bytes = rest ∧ after.Reliable := by
  obtain ⟨lower, upper⟩ := calculatePublicKey_bounds serverPriv
  have prime : dhPrime = 2147483647 := rfl
  obtain ⟨first, handshake, handshakeSent, handshakeReads, firstReliable⟩ :=
    performDhHandshake_reliable reliable exchange.clientPriv
      (.ofVector exchange.buffers.handshakeHeader) (.ofVector exchange.buffers.handshakeBody)
  rw [← handshakeReads] at bytes
  obtain ⟨second, ack, ackRest, ackSent, secondReliable⟩ :=
    receiveAck_reliable firstReliable isAck (by omega) (by omega) bytes exchange.clientPriv
      (.ofVector exchange.buffers.handshakeHeader) (.ofVector exchange.buffers.handshakeBody)
  rw [← agreed] at ack
  have writable : (requestRegion exchange.request).writable = true := rfl
  obtain ⟨after, request, requestSent, requestReads, afterReliable⟩ :=
    sendRequest_reliable secondReliable scheduled writable
      (.ofVector exchange.buffers.responseHeader) (.ofVector exchange.buffers.message)
  refine ⟨after, ?_, ?_, ?_, ?_, afterReliable⟩
  · rw [clientKey, handshake, ack]
  · rw [client, performRideRequestWith, handshake, ack]
    exact request
  · rw [requestSent, ackSent, handshakeSent, fresh, List.nil_append]
    rfl
  · rw [requestReads, ackRest]

end Exchange

/-! ## The server's side -/

namespace Exchange

variable {exchange : Exchange γ} {key : Rc4State}

/-- The connection after the handshake. -/
def keyed (env : Env γ) (exchange : Exchange γ) : Connection :=
  { (Connection.opened exchange.header exchange.body).receive
      (handshakePacket exchange.clientPriv) with
    sessionKey := exchange.serverKey env
    isKeyEstablished := true }

theorem keyed_sessionKey (env : Env γ) (exchange : Exchange γ) :
    (exchange.keyed env).sessionKey = exchange.serverKey env :=
  rfl

/-- The world after the handshake was answered. -/
def acknowledged (env : Env γ) (exchange : Exchange γ) : World γ :=
  (({ exchange.world with outside := (env.generatePrivateKey exchange.world.outside).2 }.record
    (.handshake (exchange.serverKey env))).send handshakeResponseHeader.encode).send
      (encodeHandshakeData (calculatePublicKey (exchange.serverPriv env)))

/-- The world after the request was decrypted and its checksum agreed. -/
def accepted (env : Env γ) (exchange : Exchange γ) (key : Rc4State) : World γ :=
  accept key (requestPacket key exchange.request) (exchange.acknowledged env)

theorem handlePacket_handshakePacket (env : Env γ) (exchange : Exchange γ) :
    handlePacket env ((Connection.opened exchange.header exchange.body).receive
        (handshakePacket exchange.clientPriv)) exchange.world =
      .again (exchange.keyed env) (exchange.acknowledged env) := by
  obtain ⟨lower, upper⟩ := calculatePublicKey_bounds exchange.clientPriv
  have prime : dhPrime = 2147483647 := rfl
  have fits : (encodeHandshakeData (calculatePublicKey exchange.clientPriv)).length ≤ 1024 := by
    rw [length_encodeHandshakeData]
    decide
  have received : publicKeyField ((Connection.opened exchange.header exchange.body).receive
      (handshakePacket exchange.clientPriv)).body.bytes =
        calculatePublicKey exchange.clientPriv := by
    rw [Connection.receive, handshakePacket, Region.bytes_write _ fits]
    exact publicKeyField_encodeHandshakeData (by omega) (by omega) _
  have isHandshake : (handshakePacket exchange.clientPriv).header.type = msgTypeHandshake := rfl
  rw [handlePacket_handshake env exchange.world isHandshake]
  unfold answerHandshake
  simp only [received]
  rfl

theorem acknowledged_sent (reliable : exchange.world.writes.Reliable)
    (fresh : exchange.world.sent = []) :
    (exchange.acknowledged env).sent = handshakeResponseHeader.encode ++
        encodeHandshakeData (calculatePublicKey (exchange.serverPriv env)) ∧
      (exchange.acknowledged env).writes.Reliable := by
  have before : (World.record
      { exchange.world with outside := (env.generatePrivateKey exchange.world.outside).2 }
      (.handshake (exchange.serverKey env))).writes.Reliable := reliable
  obtain ⟨sent, still⟩ := World.send_send before handshakeResponseHeader.encode
    (encodeHandshakeData (calculatePublicKey (exchange.serverPriv env)))
  rw [World.record_sent, fresh, List.nil_append] at sent
  exact ⟨sent, still⟩

/-- The acknowledgement is the first thing that the client receives. -/
theorem Lossless.acknowledgement (lossless : exchange.Lossless env) :
    ∃ rest, exchange.channel.reads.bytes = handshakeResponseHeader.encode ++
      (encodeHandshakeData (calculatePublicKey (exchange.serverPriv env)) ++ rest) := by
  obtain ⟨outcome, more, client, sent⟩ :=
    client_handshake lossless.channel lossless.clientFresh
  have stream : exchange.socket.bytes = (handshakePacket exchange.clientPriv).wire ++ more :=
    (lossless.toServer outcome client).trans sent
  obtain ⟨remaining, _, _, loop⟩ := receiveLoop_packet env lossless.serverReads stream
    (Connection.opened exchange.header exchange.body) exchange.world
  rw [handlePacket_handshakePacket] at loop
  have later := prefix_receiveLoop env remaining (exchange.keyed env) (exchange.acknowledged env)
  obtain ⟨rest, whole⟩ := later
  have served : exchange.server env =
      receiveLoop env remaining (exchange.keyed env) (exchange.acknowledged env) := loop
  refine ⟨rest, ?_⟩
  rw [lossless.toClient, served, ← whole,
    (acknowledged_sent lossless.serverWrites lossless.serverFresh).1, List.append_assoc]

theorem serverKey_eq (env : Env γ) (exchange : Exchange γ) :
    exchange.serverKey env = deriveSessionKey (calculateSharedSecret
      (calculatePublicKey (exchange.serverPriv env)) exchange.clientPriv) 64 := by
  rw [serverKey, sharedSecret_comm]

/-- The packets that the server receives, and what the client then waits for. -/
theorem Lossless.packets (lossless : exchange.Lossless env)
    (scheduled : keySchedule (exchange.serverKey env) = some key) :
    exchange.socket.bytes = wires [handshakePacket exchange.clientPriv,
      requestPacket key exchange.request] ∧
    ∃ after rest, exchange.clientKey = some (exchange.serverKey env) ∧
      exchange.client = receiveResponse (exchange.serverKey env)
        (.ofVector exchange.buffers.responseHeader) (.ofVector exchange.buffers.message) after ∧
      after.reads.bytes = rest ∧ after.Reliable ∧
      (exitWorld (exchange.server env)).sent = (exchange.acknowledged env).sent ++ rest := by
  obtain ⟨rest, bytes⟩ := lossless.acknowledgement
  have isAck : handshakeResponseHeader.type = msgTypeHandshakeAck := rfl
  obtain ⟨after, clientKey, client, sent, remaining, reliable⟩ := client_acknowledged
    lossless.channel lossless.clientFresh isAck bytes (serverKey_eq env exchange) scheduled
  obtain ⟨outcome, response, responseSent⟩ := receiveResponse_total scheduled
    (.ofVector exchange.buffers.responseHeader)
    (Region.writable_ofVector exchange.buffers.message) after
  constructor
  · rw [lossless.toServer outcome (client.trans response), responseSent, sent]
  · refine ⟨after, rest, clientKey, client, remaining, reliable, ?_⟩
    rw [← lossless.toClient, bytes,
      (acknowledged_sent lossless.serverWrites lossless.serverFresh).1, List.append_assoc]

/-! ## The server's part in whole -/

theorem requestPacket_body (key : Rc4State) (request : RideRequestData) :
    rc4Encrypt key (requestPacket key request).body = request.encode :=
  rc4Encrypt_rc4Encrypt key request.encode

/-- The decrypted buffer starts with the client's plaintext. -/
theorem requestClientId_decrypt (connection : Connection) (key : Rc4State)
    (request : RideRequestData) :
    requestClientId (connection.decrypt (requestPacket key request) key).body.bytes =
      wrap32 request.clientId.toNat :=
  requestClientId_sealRequest connection key request

/-- The two packets of a client, one after the other. -/
theorem serve_request (scheduled : keySchedule (exchange.serverKey env) = some key) :
    serve env [handshakePacket exchange.clientPriv, requestPacket key exchange.request]
        (Connection.opened exchange.header exchange.body) exchange.world =
      .exit (processRideRequestWrapper env
        ((exchange.keyed env).decrypt (requestPacket key exchange.request) key).body
        (exchange.keyed env).sessionKey (exchange.accepted env key)) := by
  have writable : (exchange.keyed env).body.writable = true := rfl
  have isRequest : (requestPacket key exchange.request).header.type = msgTypeRideReq := rfl
  have isRide : (requestPacket key exchange.request).header.opcode = opReqRide := rfl
  have established : (exchange.keyed env).isKeyEstablished = true := rfl
  have keys : keySchedule (exchange.keyed env).sessionKey = some key := by
    rw [keyed_sessionKey]
    exact scheduled
  have agrees : ChecksumAgrees key (requestPacket key exchange.request) :=
    checksumAgrees_sealRequest key exchange.request.length_encode
  rw [serve, handlePacket_handshakePacket]
  simp only
  rw [serve, handlePacket_decrypted env _ writable isRequest established keys, if_pos agrees,
    if_pos isRide, accepted]

/-- With the client's packets on its stream, the server hands the request to
its wrapper. -/
theorem server_request (reliable : exchange.socket.Reliable)
    (scheduled : keySchedule (exchange.serverKey env) = some key)
    (packets : exchange.socket.bytes = wires [handshakePacket exchange.clientPriv,
      requestPacket key exchange.request]) :
    exchange.server env = processRideRequestWrapper env
      ((exchange.keyed env).decrypt (requestPacket key exchange.request) key).body
      (exchange.serverKey env) (exchange.accepted env key) := by
  have finished := handleClient_wires env reliable packets exchange.header exchange.body
    exchange.world
  rw [serve_request scheduled, keyed_sessionKey, Control.finish_exit] at finished
  rw [server, finished]

end Exchange

end RideHailing.Session
