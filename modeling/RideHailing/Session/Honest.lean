import RideHailing.Session.Exchange

/-!
# Honest sessions

In every lossless exchange whose request the limiter lets through, the two
sides agree on the key, the server acts once and on the client's own plaintext,
and the client reads the server's own text.  Such exchanges exist for all
private keys, requests and states of the server.
-/

namespace RideHailing.Session

open RideHailing.Arithmetic
open RideHailing.Bytes
open RideHailing.Client
open RideHailing.Common
open RideHailing.Fleet
open RideHailing.Server
open RideHailing.Transition

universe u

variable {γ : Type u} {env : Env γ} {exchange : Exchange γ} {key : Rc4State}

/-! ## The server's record -/

theorem accepted_operations (env : Env γ) (exchange : Exchange γ) (key : Rc4State) :
    (exchange.accepted env key).operations = exchange.world.operations ++
      [.handshake (exchange.serverKey env), .requestAccepted exchange.request.encode] := by
  rw [Exchange.accepted, accept, World.record_operations, Exchange.requestPacket_body,
    Exchange.acknowledged, World.send_operations, World.send_operations, World.record_operations,
    List.append_assoc]
  rfl

theorem accepted_shared (env : Env γ) (exchange : Exchange γ) (key : Rc4State) :
    (exchange.accepted env key).shared = exchange.world.shared := by
  rw [Exchange.accepted, accept_shared, Exchange.acknowledged, World.send_shared,
    World.send_shared, World.record_shared]

theorem accepted_outside (env : Env γ) (exchange : Exchange γ) (key : Rc4State) :
    (exchange.accepted env key).outside = (env.generatePrivateKey exchange.world.outside).2 := by
  rw [Exchange.accepted, accept, World.record_outside, Exchange.acknowledged, World.send_outside,
    World.send_outside, World.record_outside]

/-- The limiter sees the state and the clock as the connection found them. -/
theorem limiter_verdict (env : Env γ) (exchange : Exchange γ) (key : Rc4State) :
    (limitRequest env exchange.clientId (exchange.accepted env key)).1 =
      (exchange.limiter env).1 := by
  rw [limitRequest_verdict, accepted_shared, accepted_outside, Exchange.limiter]

theorem limiter_shared (env : Env γ) (exchange : Exchange γ) (key : Rc4State) :
    (limitRequest env exchange.clientId (exchange.accepted env key)).2.shared =
      (exchange.limiter env).2 := by
  rw [limitRequest_shared, accepted_shared, accepted_outside, Exchange.limiter]

/-- Accepting the request sends nothing. -/
theorem accepted_frame (env : Env γ) (exchange : Exchange γ) (key : Rc4State) :
    (exchange.accepted env key).sent = (exchange.acknowledged env).sent ∧
      (exchange.accepted env key).writes = (exchange.acknowledged env).writes := by
  rw [Exchange.accepted, accept, World.record_sent, World.record_writes]
  exact ⟨rfl, rfl⟩

/-! ## The exchange -/

/-- The server's run when the limiter lets the request through: the service's
text follows its acknowledgement. -/
theorem server_serves (lossless : exchange.Lossless env)
    (reachable : Reachable secureServer exchange.world.shared)
    (allowed : (exchange.limiter env).1 = false)
    (sendable : ∀ state found, Sendable (env.response state found))
    (scheduled : keySchedule (exchange.serverKey env) = some key) :
    ∃ text served after,
      serveRequest env exchange.clientId
        (limitRequest env exchange.clientId (exchange.accepted env key)).2 = some (text, served) ∧
      Sendable text ∧ exchange.server env = .returned after ∧
      after.shared = served.shared ∧ after.operations = served.operations ∧
      after.sent = (exchange.acknowledged env).sent ++
        ((responseHeader text text.length opResponse).encode ++ rc4Encrypt key text) := by
  have server := Exchange.server_request lossless.serverReads scheduled
    (lossless.packets scheduled).1
  have verdict := (limiter_verdict env exchange key).trans allowed
  have request : requestClientId ((exchange.keyed env).decrypt
      (requestPacket key exchange.request) key).body.bytes = exchange.clientId := by
    rw [Exchange.requestClientId_decrypt, Exchange.clientId]
  rw [← accepted_shared env exchange key] at reachable
  obtain ⟨text, served, service, wrapped⟩ := processRideRequestWrapper_allowed reachable
    request verdict (exchange.serverKey env)
  obtain ⟨_, ⟨state, found, rfl⟩, _, sameSent, sameWrites⟩ := serveRequest_spec service
  have fits := sendable state found
  rw [wrapped, replyText_sendable scheduled fits] at server
  obtain ⟨_, limitedSent, limitedWrites⟩ :=
    limitRequest_frame env exchange.clientId (exchange.accepted env key)
  obtain ⟨acceptedSent, acceptedWrites⟩ := accepted_frame env exchange key
  have reliable : served.writes.Reliable := by
    rw [sameWrites, limitedWrites, acceptedWrites]
    exact (Exchange.acknowledged_sent lossless.serverWrites lossless.serverFresh).2
  obtain ⟨sent, _⟩ := World.send_send reliable
    (responseHeader (env.response state found) (env.response state found).length opResponse).encode
    (rc4Encrypt key (env.response state found))
  refine ⟨_, served, _, service, fits, server, rfl, rfl, ?_⟩
  rw [sealAnswer, sent, sameSent, limitedSent, acceptedSent]

/-- It serves the request once, with the limiter's check before it. -/
theorem server_served (lossless : exchange.Lossless env)
    (reachable : Reachable secureServer exchange.world.shared)
    (allowed : (exchange.limiter env).1 = false)
    (sendable : ∀ state found, Sendable (env.response state found))
    (scheduled : keySchedule (exchange.serverKey env) = some key) :
    ∃ after text draws ret, exchange.server env = .returned after ∧ Sendable text ∧
      after.operations = exchange.world.operations ++
        [.handshake (exchange.serverKey env), .requestAccepted exchange.request.encode,
          .rateLimitCheck exchange.clientId false, .rideRequest exchange.clientId] ∧
      handleRideRequestLogic env.response exchange.clientId draws (exchange.limiter env).2 =
        some (after.shared, ret, text) ∧
      after.sent = (exchange.acknowledged env).sent ++
        ((responseHeader text text.length opResponse).encode ++ rc4Encrypt key text) := by
  obtain ⟨text, served, after, service, fits, server, shared, recorded, sent⟩ :=
    server_serves lossless reachable allowed sendable scheduled
  obtain ⟨⟨draws, ret, logic⟩, _, operations, _⟩ := serveRequest_spec service
  obtain ⟨checked, _⟩ := limitRequest_frame env exchange.clientId (exchange.accepted env key)
  have verdict := (limiter_verdict env exchange key).trans allowed
  refine ⟨after, text, draws, ret, server, fits, ?_, ?_, sent⟩
  · rw [recorded, operations, checked, verdict, accepted_operations, List.append_assoc,
      List.append_assoc]
    rfl
  · rw [← limiter_shared env exchange key, shared]
    exact logic

theorem length_responseHeader {text : List UInt8} (sendable : Sendable text) (opcode : UInt16) :
    (responseHeader text text.length opcode).length.toNat = text.length := by
  have small : text.length < 2 ^ 32 := Nat.lt_of_le_of_lt sendable.fits (by norm_num)
  exact UInt32.toNat_ofNat_of_lt' small

/-- Both runs of an exchange whose request is served, with all that they leave. -/
structure Served (env : Env γ) (exchange : Exchange γ) (key : Rc4State) (outcome : Outcome)
    (after : World γ) (text : List UInt8) : Prop where
  client : exchange.client = some outcome
  server : exchange.server env = .returned after
  clientKey : exchange.clientKey = some (exchange.serverKey env)
  operations : after.operations = exchange.world.operations ++
    [.handshake (exchange.serverKey env), .requestAccepted exchange.request.encode,
      .rateLimitCheck exchange.clientId false, .rideRequest exchange.clientId]
  logic : ∃ draws ret, handleRideRequestLogic env.response exchange.clientId draws
    (exchange.limiter env).2 = some (after.shared, ret, text)
  sent : after.sent = (exchange.acknowledged env).sent ++
    ((responseHeader text text.length opResponse).encode ++ rc4Encrypt key text)
  nonempty : text ≠ []
  accepted : outcome.accepted = some text
  message : outcome.msgBuffer.cString = text

/-- The client decrypts the text that the server has encrypted. -/
theorem client_answered (lossless : exchange.Lossless env)
    (scheduled : keySchedule (exchange.serverKey env) = some key) {after : World γ}
    {text : List UInt8} (server : exchange.server env = .returned after) (fits : Sendable text)
    (answered : after.sent = (exchange.acknowledged env).sent ++
      ((responseHeader text text.length opResponse).encode ++ rc4Encrypt key text)) :
    ∃ outcome, exchange.client = some outcome ∧
      exchange.clientKey = some (exchange.serverKey env) ∧ outcome.accepted = some text ∧
      outcome.msgBuffer.cString = text := by
  obtain ⟨_, waiting, rest, clientKey, client, reads, reliable, sent⟩ :=
    lossless.packets scheduled
  rw [server, exitWorld, answered] at sent
  have bytes := reads.trans (List.append_cancel_left sent).symm
  rw [← List.append_nil (rc4Encrypt key text)] at bytes
  have short : text.length < 1024 := Nat.lt_of_le_of_lt fits.fits (by norm_num)
  obtain ⟨outcome, response, accepted, _, message⟩ := receiveResponse_reliable scheduled reliable
    (length_responseHeader fits opResponse) fits.nonempty short rfl bytes
    (.ofVector exchange.buffers.responseHeader)
    (Region.writable_ofVector exchange.buffers.message)
  exact ⟨outcome, client.trans response, clientKey, accepted, message fits.noTerminator⟩

theorem exists_served (lossless : exchange.Lossless env)
    (reachable : Reachable secureServer exchange.world.shared)
    (allowed : (exchange.limiter env).1 = false)
    (sendable : ∀ state found, Sendable (env.response state found))
    (scheduled : keySchedule (exchange.serverKey env) = some key) :
    ∃ outcome after text, Served env exchange key outcome after text := by
  obtain ⟨after, text, draws, ret, server, fits, operations, logic, answered⟩ :=
    server_served lossless reachable allowed sendable scheduled
  obtain ⟨outcome, client, clientKey, accepted, message⟩ :=
    client_answered lossless scheduled server fits answered
  exact ⟨outcome, after, text, client, server, clientKey, operations, ⟨draws, ret, logic⟩,
    answered, List.ne_nil_of_length_pos fits.nonempty, accepted, message⟩

/-! ## Every exchange can take place -/

namespace Exchange

/-- The client's two packets on one side and the server's answers on the other
make an exchange lossless. -/
theorem lossless_of_streams (scheduled : keySchedule (exchange.serverKey env) = some key)
    (channel : exchange.channel.Reliable) (clientFresh : exchange.channel.sent = [])
    (serverReads : exchange.socket.Reliable) (serverWrites : exchange.world.writes.Reliable)
    (serverFresh : exchange.world.sent = [])
    (stream : exchange.socket.bytes =
      wires [handshakePacket exchange.clientPriv, requestPacket key exchange.request])
    (answers : exchange.channel.reads.bytes = (exitWorld (exchange.server env)).sent) :
    exchange.Lossless env := by
  refine ⟨channel, serverReads, serverWrites, clientFresh, serverFresh, ?_, answers⟩
  intro outcome client
  obtain ⟨rest, sent⟩ := prefix_processRideRequestWrapper env
    ((exchange.keyed env).decrypt (requestPacket key exchange.request) key).body
    (exchange.serverKey env) (exchange.accepted env key)
  rw [← server_request serverReads scheduled stream, ← answers,
    (accepted_frame env exchange key).1, (acknowledged_sent serverWrites serverFresh).1,
    List.append_assoc] at sent
  have isAck : handshakeResponseHeader.type = msgTypeHandshakeAck := rfl
  obtain ⟨after, _, waits, wrote, _⟩ := client_acknowledged channel clientFresh isAck sent.symm
    (serverKey_eq env exchange) scheduled
  obtain ⟨ended, response, responseSent⟩ := receiveResponse_total scheduled
    (.ofVector exchange.buffers.responseHeader)
    (Region.writable_ofVector exchange.buffers.message) after
  rw [waits, response] at client
  rw [← Option.some.inj client, responseSent, wrote, stream]

/-- The exchange with the client's packets on the server's stream. -/
def served (exchange : Exchange γ) (key : Rc4State) : Exchange γ :=
  { exchange with
    socket := .ofBytes (wires [handshakePacket exchange.clientPriv,
      requestPacket key exchange.request]) }

/-- The same programs and inputs, connected with each other. -/
def connected (env : Env γ) (exchange : Exchange γ) (key : Rc4State) : Exchange γ :=
  { exchange.served key with
    channel :=
      { reads := .ofBytes (exitWorld ((exchange.served key).server env)).sent
        writes := []
        sent := [] } }

theorem connected_serverKey (env : Env γ) (exchange : Exchange γ) (key : Rc4State) :
    (exchange.connected env key).serverKey env = exchange.serverKey env :=
  rfl

/-- For all private keys, requests, buffers and server states there is a
lossless exchange. -/
theorem connected_lossless (scheduled : keySchedule (exchange.serverKey env) = some key)
    (reliable : exchange.world.writes.Reliable) (fresh : exchange.world.sent = []) :
    (exchange.connected env key).Lossless env := by
  have known : keySchedule ((exchange.connected env key).serverKey env) = some key := by
    rw [connected_serverKey]
    exact scheduled
  have channel : (exchange.connected env key).channel.Reliable :=
    ⟨ReadEnd.reliable_ofBytes _, WriteEnd.reliable_nil⟩
  have stream := ReadEnd.bytes_ofBytes (wires [handshakePacket exchange.clientPriv,
    requestPacket key exchange.request])
  have serverReads := ReadEnd.reliable_ofBytes (wires [handshakePacket exchange.clientPriv,
    requestPacket key exchange.request])
  exact lossless_of_streams known channel rfl serverReads reliable fresh stream
    (ReadEnd.bytes_ofBytes _)

end Exchange

/-! ## A concrete session -/

/-- The identifier that `perform_ride_request` puts on the wire is the one that
the server reads. -/
theorem wrap32_clientId {clientId : Int} (lower : -2 ^ 31 ≤ clientId) (upper : clientId < 2 ^ 31) :
    wrap32 (rideRequestData clientId).clientId.toNat = clientId := by
  have small : (clientId % 2 ^ 32).toNat < 2 ^ 32 := by omega
  have field : (rideRequestData clientId).clientId.toNat = (clientId % 2 ^ 32).toNat :=
    UInt32.toNat_ofNat_of_lt' small
  have reduce : (clientId % (2 ^ 32 : Nat)).bmod (2 ^ 32) = clientId.bmod (2 ^ 32) :=
    Int.emod_bmod _ _
  rw [field, Int.toNat_of_nonneg (Int.emod_nonneg _ (by norm_num)), wrap32,
    show ((2 : Int) ^ 32) = ((2 ^ 32 : Nat) : Int) by norm_num, reduce]
  exact wrap32_eq_self lower upper

/-- An outside whose service always answers the same text. -/
def plainEnv : Env Unit :=
  { stillEnv with response := fun _ _ => ascii "Ride Confirmed!" }

/-- Client 7 and a fresh server, with 1 for both private keys. -/
def firstExchange : Exchange Unit where
  clientPriv := 1
  request := rideRequestData 7
  buffers :=
    { handshakeHeader := Vector.replicate _ 0
      handshakeBody := Vector.replicate _ 0
      responseHeader := Vector.replicate _ 0
      message := Vector.replicate _ 0 }
  channel := { reads := [], writes := [], sent := [] }
  header := Vector.replicate _ 0
  body := Vector.replicate _ 0
  socket := []
  world := World.opened SharedState.zeroed

theorem plainEnv_sendable (state : SharedState) (found : Option (Fin maxDrivers × ℚ)) :
    Sendable (plainEnv.response state found) := by
  have text : Sendable (ascii "Ride Confirmed!") := ⟨by decide, by decide, by decide⟩
  exact text

theorem firstExchange_key : ∃ key, keySchedule (firstExchange.serverKey plainEnv) = some key :=
  keySchedule_deriveSessionKey _

theorem firstExchange_lossless
    (scheduled : keySchedule (firstExchange.serverKey plainEnv) = some key) :
    (firstExchange.connected plainEnv key).Lossless plainEnv :=
  Exchange.connected_lossless scheduled WriteEnd.reliable_nil rfl

theorem firstExchange_allowed (key : Rc4State) :
    ((firstExchange.connected plainEnv key).limiter plainEnv).1 = false := by
  have identifier : (firstExchange.connected plainEnv key).clientId = 7 :=
    wrap32_clientId (by norm_num) (by norm_num)
  have first : (checkAndUpdateRateLimit 7 5 SharedState.zeroed).1 = false := by
    decide
  rw [Exchange.limiter, identifier]
  exact first

/-! ## Honest sessions -/

/-- Both sides of a lossless exchange derive one session key; the server's
decrypted request is the client's plaintext, it is served exactly once and
under the client's own identifier, and the client's decrypted response is the
text that the service produced. -/
theorem honest_exchange (lossless : exchange.Lossless env)
    (reachable : Reachable secureServer exchange.world.shared)
    (allowed : (exchange.limiter env).1 = false)
    (sendable : ∀ state found, Sendable (env.response state found)) :
    ∃ sessionKey outcome after text draws ret,
      exchange.client = some outcome ∧ exchange.server env = .returned after ∧
      exchange.clientKey = some sessionKey ∧
      after.operations = exchange.world.operations ++
        [.handshake sessionKey, .requestAccepted exchange.request.encode,
          .rateLimitCheck exchange.clientId false, .rideRequest exchange.clientId] ∧
      handleRideRequestLogic env.response exchange.clientId draws (exchange.limiter env).2 =
        some (after.shared, ret, text) ∧
      outcome.accepted = some text ∧ outcome.msgBuffer.cString = text := by
  obtain ⟨key, scheduled⟩ : ∃ key, keySchedule (exchange.serverKey env) = some key :=
    keySchedule_deriveSessionKey _
  obtain ⟨outcome, after, text, served⟩ :=
    exists_served lossless reachable allowed sendable scheduled
  obtain ⟨draws, ret, logic⟩ := served.logic
  exact ⟨exchange.serverKey env, outcome, after, text, draws, ret, served.client, served.server,
    served.clientKey, served.operations, logic, served.accepted, served.message⟩

theorem honest_exchange_firstExchange :
    ∃ (key : Rc4State) (outcome : Outcome) (after : World Unit),
      (firstExchange.connected plainEnv key).client = some outcome ∧
      (firstExchange.connected plainEnv key).server plainEnv = .returned after ∧
      outcome.accepted = some (ascii "Ride Confirmed!") := by
  obtain ⟨key, scheduled⟩ := firstExchange_key
  obtain ⟨_, outcome, after, answer, draws, ret, client, server, _, _, logic, accepted, _⟩ :=
    honest_exchange (firstExchange_lossless scheduled) zeroed_reachable
      (firstExchange_allowed key) plainEnv_sendable
  obtain ⟨chosen, _, made⟩ := Option.map_eq_some_iff.mp logic
  have produced : ascii "Ride Confirmed!" = answer := congrArg (fun result => result.2.2) made
  rw [← produced] at accepted
  exact ⟨key, outcome, after, client, server, accepted⟩

end RideHailing.Session
