import RideHailing.Session.Insecure

/-!
# The secure session layer is transparent

On an honest session that the limiter lets through, the key exchange, the cipher
and the checksums add nothing to what the insecure server does with the same
request in the clear: the same ride, and the same text for the client.
-/

namespace RideHailing.Session

open RideHailing.Arithmetic
open RideHailing.Bytes
open RideHailing.Client
open RideHailing.Common
open RideHailing.Fleet
open RideHailing.Server
open RideHailing.Transition

universe u

variable {γ : Type u} {env : Env γ} {exchange : Exchange γ} {key : Rc4State}
  {seen count : Fin maxClients → Int}

/-! ## The service beside the limiter's tables -/

/-- The text of an answer does not depend on the limiter's tables. -/
def IgnoresTables (env : Env γ) : Prop :=
  ∀ seen count state found, env.response (withTables seen count state) found =
    env.response state found

theorem ignoresTables_rideResponse (formats : env.response = rideResponse env.format) :
    IgnoresTables env := by
  intro seen count state found
  rw [formats]
  cases found with
  | none => rfl
  | some chosen => rfl

/-- Two workers with the same draws, whose shared memories agree outside the
limiter's tables, serve a request alike. -/
theorem serveRequest_withTables (ignores : IgnoresTables env) {clientId : Int}
    {world other served : World γ} {text : CString}
    (shared : world.shared = withTables seen count other.shared)
    (outside : world.outside = other.outside)
    (service : serveRequest env clientId world = some (text, served)) :
    ∃ plain, serveRequest env clientId other = some (text, plain) ∧
      served.shared = withTables seen count plain.shared ∧
      plain.writes = other.writes ∧ plain.sent = other.sent := by
  rw [serveRequest, shared, outside] at service
  simp only [handleRideRequestLogic, rideCriticalSection_withTables] at service
  obtain ⟨outcome, handled, made⟩ := Option.map_eq_some_iff.mp service
  obtain ⟨chosen, section_, rfl⟩ := Option.map_eq_some_iff.mp handled
  obtain ⟨found, plainSection, rfl⟩ := Option.map_eq_some_iff.mp section_
  cases made
  let plain : World γ := { other with
    shared := found.1
    outside := if (if found.2.isSome then (0 : Int) else -1) = 0 then
      (env.rand (env.rand other.outside).2).2 else other.outside }
  have text_eq : env.response (withTables seen count found.1) found.2 =
      env.response found.1 found.2 := ignores seen count found.1 found.2
  refine ⟨plain.record (.rideRequest clientId), ?_, rfl, rfl, rfl⟩
  rw [serveRequest]
  simp only [handleRideRequestLogic, plainSection, Option.map_some, text_eq]
  rfl

/-- The limiter's section shows in its tables only. -/
theorem limitRequest_withTables (env : Env γ) (clientId : Int) (world : World γ) :
    ∃ seen count, (limitRequest env clientId world).2.shared =
      withTables seen count world.shared := by
  have same := eraseTables_checkAndUpdateRateLimit clientId (env.time world.outside).1 world.shared
  refine ⟨(limitRequest env clientId world).2.shared.clientLastSeen,
    (limitRequest env clientId world).2.shared.clientReqCount, ?_⟩
  have shared : (limitRequest env clientId world).2.shared =
      (checkAndUpdateRateLimit clientId (env.time world.outside).1 world.shared).2 := rfl
  rw [← withTables_eraseTables world.shared, ← same, ← shared, withTables_eraseTables,
    withTables_self]

/-! ## The request in the clear -/

/-- The client's request before encryption, under any type and checksum. -/
def plainPacket (request : RideRequestData) (type : UInt8) (checksum : UInt16) : Packet where
  header :=
    { length := UInt32.ofNat rideRequestDataSize
      type
      opcode := opReqRide
      checksum }
  body := request.encode
  length_eq := request.length_encode
  fits := rideRequestData_fits

theorem clientIn_plainPacket (request : RideRequestData) (type : UInt8) (checksum : UInt16)
    (body : Vector UInt8 1024) :
    (plainPacket request type checksum).clientIn body = wrap32 request.clientId.toNat := by
  have size : request.encode.length = 24 := request.length_encode
  have fits : request.encode.length ≤ 1024 := by
    rw [size]
    norm_num
  have agree := Region.take_bytes_write_of_le (Region.ofVector body) fits (Nat.le_refl _)
  have same := field_congr agree (show 0 + 4 ≤ request.encode.length by omega)
  rw [Packet.clientIn, requestClientId, clientIdField]
  have body_eq : (plainPacket request type checksum).body = request.encode := rfl
  rw [body_eq, same, ← clientIdField, request.clientIdField_encode]

/-- The insecure server on a complete ride request. -/
theorem handleInsecure_ride {visit : Visit γ} {packet : Packet} {rest : List UInt8}
    (reliable : visit.socket.Reliable) (bytes : visit.socket.bytes = packet.wire ++ rest)
    (isRide : packet.header.opcode = opReqRide) (padding : UInt8) {shared : SharedState}
    {text : CString} {served : World γ}
    (service : serveRequest env (packet.clientIn visit.body) (visit.opened shared) =
      some (text, served)) :
    visit.handleInsecure env padding shared = .returned (replyPlain padding text served) := by
  rw [Visit.handleInsecure_eq, visit.firstPacket_wire reliable bytes]
  simp only [switchInsecure]
  rw [if_pos isRide, processRideRequestInsecureWrapper]
  have named : requestClientId ((Region.ofVector visit.body).write packet.body).bytes =
      packet.clientIn visit.body := rfl
  rw [named, service]

/-- What the secure server meets outside when it serves the request. -/
def Exchange.servedOutside (env : Env γ) (exchange : Exchange γ) : γ :=
  let keyed := (env.generatePrivateKey exchange.world.outside).2
  if (limiterSlot exchange.clientId).isSome then (env.time keyed).2 else keyed

theorem limitRequest_outside (env : Env γ) (clientId : Int) (world : World γ) :
    (limitRequest env clientId world).2.outside =
      if (limiterSlot clientId).isSome then (env.time world.outside).2 else world.outside :=
  rfl

theorem servedOutside_eq (env : Env γ) (exchange : Exchange γ) (key : Rc4State) :
    (limitRequest env exchange.clientId (exchange.accepted env key)).2.outside =
      exchange.servedOutside env := by
  rw [limitRequest_outside, accepted_outside, Exchange.servedOutside]

/-- The answer of the insecure server to a sendable text. -/
theorem replyPlain_sent (padding : UInt8) {text : CString} (sendable : Sendable text)
    {world : World γ} (reliable : world.writes.Reliable) :
    (replyPlain padding text world).sent = world.sent ++
      ((insecureResponseHeader padding text text.length opResponse).encode ++ text) := by
  have content := take_responseBuffer sendable
  have checksum : calculateChecksum (responseBuffer text).bytes text.length =
      calculateChecksum text text.length :=
    calculateChecksum_congr (content.trans (List.take_length).symm)
  rw [replyPlain, cString_responseBuffer sendable, sendResponsePacketInsecure]
  simp only [content]
  rw [(World.send_send reliable _ _).1, insecureResponseHeader, insecureResponseHeader, checksum]

/-- An honest session that the limiter lets through, beside the same request in
the clear on a connection to the insecure server, with the same shared memory
and the same outside at the moment of service: both return, the shared memories
agree outside the limiter's tables, and the text that the client decrypts is the
one that the insecure server sends. -/
theorem secure_transparent (lossless : exchange.Lossless env)
    (reachable : Reachable secureServer exchange.world.shared)
    (allowed : (exchange.limiter env).1 = false)
    (sendable : ∀ state found, Sendable (env.response state found))
    (ignores : IgnoresTables env) {visit : Visit γ} {type : UInt8} {checksum : UInt16}
    {rest : List UInt8} (reads : visit.socket.Reliable) (writes : visit.writes.Reliable)
    (bytes : visit.socket.bytes = (plainPacket exchange.request type checksum).wire ++ rest)
    (outside : visit.outside = exchange.servedOutside env) (padding : UInt8) :
    ∃ outcome after world text, exchange.client = some outcome ∧
      exchange.server env = .returned after ∧
      visit.handleInsecure env padding exchange.world.shared = .returned world ∧
      eraseTables after.shared = eraseTables world.shared ∧
      outcome.accepted = some text ∧
      world.sent = (insecureResponseHeader padding text text.length opResponse).encode ++ text := by
  obtain ⟨key, scheduled⟩ : ∃ key, keySchedule (exchange.serverKey env) = some key :=
    keySchedule_deriveSessionKey _
  obtain ⟨text, served, after, service, fits, server, shared, _, sent⟩ :=
    server_serves lossless reachable allowed sendable scheduled
  obtain ⟨outcome, client, _, accepted, _⟩ :=
    client_answered lossless scheduled server fits sent
  obtain ⟨seen, count, limited⟩ :=
    limitRequest_withTables env exchange.clientId (exchange.accepted env key)
  rw [accepted_shared] at limited
  have beside : (limitRequest env exchange.clientId (exchange.accepted env key)).2.shared =
      withTables seen count (visit.opened exchange.world.shared).shared := limited
  have draws : (limitRequest env exchange.clientId (exchange.accepted env key)).2.outside =
      (visit.opened exchange.world.shared).outside :=
    (servedOutside_eq env exchange key).trans outside.symm
  obtain ⟨plain, plainService, plainShared, plainWrites, plainSent⟩ :=
    serveRequest_withTables ignores beside draws service
  have named := clientIn_plainPacket exchange.request type checksum visit.body
  rw [Exchange.clientId, ← named] at plainService
  have handled := handleInsecure_ride reads bytes rfl padding plainService
  have fresh : (visit.opened exchange.world.shared).sent = [] := rfl
  refine ⟨outcome, after, _, text, client, server, handled, ?_, accepted, ?_⟩
  · rw [shared, plainShared]
    rfl
  · rw [replyPlain_sent padding fits (plainWrites ▸ writes), plainSent, fresh, List.nil_append]

/-- The first session, at a server with one driver. -/
def drivenExchange : Exchange Unit :=
  { firstExchange with world := World.opened loneDriver }

theorem drivenExchange_lossless {key : Rc4State}
    (scheduled : keySchedule (drivenExchange.serverKey stillEnv) = some key) :
    (drivenExchange.connected stillEnv key).Lossless stillEnv :=
  Exchange.connected_lossless scheduled WriteEnd.reliable_nil rfl

theorem drivenExchange_allowed (key : Rc4State) :
    ((drivenExchange.connected stillEnv key).limiter stillEnv).1 = false := by
  have identifier : (drivenExchange.connected stillEnv key).clientId = 7 :=
    wrap32_clientId (by norm_num) (by norm_num)
  have first : (checkAndUpdateRateLimit 7 5 loneDriver).1 = false := by
    decide
  rw [Exchange.limiter, identifier]
  exact first

/-- The request of client 7 in the clear, with a type and a checksum that the
secure server would not accept. -/
def plainVisit : Visit Unit where
  header := Vector.replicate _ 0
  body := Vector.replicate _ 0
  socket := .ofBytes (wires [plainPacket (rideRequestData 7) 0xFF 0])
  writes := []
  outside := ()

theorem plainVisit_reliable : plainVisit.socket.Reliable :=
  ReadEnd.reliable_ofBytes (wires [plainPacket (rideRequestData 7) 0xFF 0])

theorem plainVisit_bytes :
    plainVisit.socket.bytes = (plainPacket (rideRequestData 7) 0xFF 0).wire ++ [] :=
  ReadEnd.bytes_ofBytes (wires [plainPacket (rideRequestData 7) 0xFF 0])

/-- The insecure server dispatches the driver for it. -/
theorem plainVisit_rides {world : World Unit}
    (handled : plainVisit.handleInsecure stillEnv 0 loneDriver = .returned world) :
    world.shared.totalSuccessRequests = 1 := by
  have named : (plainPacket (rideRequestData 7) 0xFF 0).clientIn plainVisit.body = 7 :=
    (clientIn_plainPacket _ _ _ _).trans (wrap32_clientId (by norm_num) (by norm_num))
  have service := serveRequest_of_section
    (loneDriver_dispatch 7 (targetDraws stillEnv plainVisit.start))
  rw [← named] at service
  have rode := handleInsecure_ride plainVisit_reliable plainVisit_bytes rfl 0 service
  cases rode.symm.trans handled
  rfl

/-- Both servers send their driver to client 7. -/
theorem secure_transparent_plainVisit :
    ∃ (key : Rc4State) (outcome : Outcome) (after world : World Unit) (text : List UInt8),
      (drivenExchange.connected stillEnv key).client = some outcome ∧
        (drivenExchange.connected stillEnv key).server stillEnv = .returned after ∧
        plainVisit.handleInsecure stillEnv 0 loneDriver = .returned world ∧
        after.shared.totalSuccessRequests = 1 ∧ world.shared.totalSuccessRequests = 1 ∧
        outcome.accepted = some text ∧
        world.sent = (insecureResponseHeader 0 text text.length opResponse).encode ++ text := by
  obtain ⟨key, scheduled⟩ : ∃ key, keySchedule (drivenExchange.serverKey stillEnv) = some key :=
    keySchedule_deriveSessionKey _
  obtain ⟨outcome, after, world, text, client, server, handled, agree, accepted, sent⟩ :=
    secure_transparent (drivenExchange_lossless scheduled) loneDriver_run.reachable
      (drivenExchange_allowed key) (sendable_rideResponse plain_stillEnv)
      (ignoresTables_rideResponse rfl) plainVisit_reliable WriteEnd.reliable_nil plainVisit_bytes
      (Subsingleton.elim _ _) 0
  have rode := plainVisit_rides handled
  have same := congrArg (fun shared => shared.totalSuccessRequests) agree
  exact ⟨key, outcome, after, world, text, client, server, handled, same.trans rode, rode,
    accepted, sent⟩

end RideHailing.Session
