import RideHailing.Session.Packets
import RideHailing.Transition.Logged

/-!
# The keys of `rc4_crypt`

`rc4_crypt` divides by the length of its key and adds its characters to an index,
and the key buffer of a connection is empty until a handshake fills it.  The
functions of the dispatcher are repeated here with a log of the keys that they
pass to `rc4_crypt`; the established flag is what keeps the empty key out of it.
-/

namespace RideHailing.Session

open RideHailing.Bytes
open RideHailing.Common
open RideHailing.Server
open RideHailing.Transition

universe u

variable {γ : Type u} (env : Env γ) {key : CString} {connection : Connection} {world : World γ}
  {socket : ReadEnd}

/-! ## Logging the keys -/

/-- `rc4_crypt` with its key logged. -/
def loggedCrypt {n : Nat} (data : Region n) (len : Nat) (key : CString) :
    Logged CString (Option (Region n)) :=
  .log key (rc4Crypt data len key)

/-- `send_response_packet`. -/
def loggedResponse {n : Nat} (respMsg : Region n) (len : Nat) (opcode : UInt16)
    (sessionKey : Option CString) (world : World γ) : Logged CString (Exit γ) :=
  let header := responseHeader respMsg.bytes len opcode
  let encrypted : Logged CString (Option (Region n)) :=
    match sessionKey with
    | some key => loggedCrypt respMsg len key
    | none => .pure (some respMsg)
  encrypted.bind fun
    | some message => .pure (.returned ((world.send header.encode).send (message.bytes.take len)))
    | none => .pure (.killed world)

/-- `process_ride_request_wrapper`. -/
def loggedWrapper (body : Region 1024) (sessionKey : CString) (world : World γ) :
    Logged CString (Exit γ) :=
  let clientId := requestClientId body.bytes
  let limited := limitRequest env clientId world
  if limited.1 then loggedResponse blockedMessage 15 opResponse (some sessionKey) limited.2
  else
    match serveRequest env clientId limited.2 with
    | none => .pure (.killed limited.2)
    | some (text, served) =>
        loggedResponse (responseBuffer text) (responseBuffer text).cString.length opResponse
          (some sessionKey) served

/-- The branch of a ride request. -/
def loggedRequest (connection : Connection) (world : World γ) : Logged CString (Control γ) :=
  let header := ProtocolHeader.decode connection.header.bytes
  if connection.isKeyEstablished = false then .pure (.exit (.returned world))
  else
    (loggedCrypt connection.body header.length.toNat connection.sessionKey).bind fun
      | none => .pure (.exit (.killed world))
      | some body =>
          if calculateChecksum body.bytes header.length.toNat ≠ header.checksum then
            .pure (.exit (.returned world))
          else
            let accepted := world.record
              (.requestAccepted (body.bytes.take header.length.toNat))
            if header.opcode = opReqRide then
              (loggedWrapper env body connection.sessionKey accepted).bind fun result =>
                .pure (.exit result)
            else .pure (joinOrContinue { connection with body } accepted)

/-- The loop body of `handle_client`. -/
def loggedPacket (connection : Connection) (world : World γ) : Logged CString (Control γ) :=
  let header := ProtocolHeader.decode connection.header.bytes
  if header.type = msgTypeHandshake then .pure (answerHandshake env connection world)
  else if header.type = msgTypeRideReq then loggedRequest env connection world
  else .pure (joinOrContinue connection world)

/-- The loop of `handle_client`. -/
def keyLoop (socket : ReadEnd) (connection : Connection) (world : World γ) :
    Logged CString (Exit γ) :=
  if (recvN socket ProtocolHeader.size).ret ≤ 0 then .pure (.returned world)
  else
    let merged := connection.header.write (recvN socket ProtocolHeader.size).data
    let length := (ProtocolHeader.decode merged.bytes).length.toNat
    if 1024 < length then .pure (.returned world)
    else
      match _received : receiveBody length (recvN socket ProtocolHeader.size).rest
          connection.body with
      | none => .pure (.returned world)
      | some (body, rest) =>
          (loggedPacket env { connection with header := merged, body } world).bind fun
            | .again next later => keyLoop rest next later
            | .exit result => .pure result
termination_by socket.bytes.length
decreasing_by
  exact Nat.lt_of_le_of_lt (receiveBody_shrinks _received) (recvN_rest_lt (Int.not_le.mp ‹_›))

/-- `handle_client`. -/
def keyLog (header : Vector UInt8 ProtocolHeader.size) (body : Vector UInt8 1024)
    (socket : ReadEnd) (world : World γ) : Logged CString (Exit γ) :=
  keyLoop env socket (Connection.opened header body) world

/-! ## Logging changes nothing else -/

@[simp]
theorem loggedResponse_value {n : Nat} (respMsg : Region n) (len : Nat) (opcode : UInt16)
    (sessionKey : Option CString) (world : World γ) :
    (loggedResponse respMsg len opcode sessionKey world).value =
      sendResponsePacket respMsg len opcode sessionKey world := by
  unfold loggedResponse sendResponsePacket
  cases sessionKey with
  | none => rfl
  | some key =>
      simp only [loggedCrypt, Logged.value_bind, Logged.value_log]
      cases rc4Crypt respMsg len key with
      | none => rfl
      | some message => rfl

@[simp]
theorem loggedWrapper_value (body : Region 1024) (sessionKey : CString) (world : World γ) :
    (loggedWrapper env body sessionKey world).value =
      processRideRequestWrapper env body sessionKey world := by
  rw [loggedWrapper, processRideRequestWrapper]
  by_cases blocked : (limitRequest env (requestClientId body.bytes) world).1 = true
  · rw [if_pos blocked, if_pos blocked, loggedResponse_value]
    rfl
  · rw [if_neg blocked, if_neg blocked]
    cases serveRequest env (requestClientId body.bytes)
        (limitRequest env (requestClientId body.bytes) world).2 with
    | none => rfl
    | some served => exact loggedResponse_value _ _ _ _ _

@[simp]
theorem loggedRequest_value (connection : Connection) (world : World γ) :
    (loggedRequest env connection world).value = handleRequest env connection world := by
  rw [loggedRequest, handleRequest]
  simp only
  split
  next => rfl
  next =>
    simp only [loggedCrypt, Logged.value_bind, Logged.value_log]
    cases rc4Crypt connection.body (ProtocolHeader.decode connection.header.bytes).length.toNat
        connection.sessionKey with
    | none => rfl
    | some body =>
        simp only
        split
        next => rfl
        next =>
          split
          next => rw [Logged.value_bind, loggedWrapper_value, Logged.value_pure]
          next => rfl

@[simp]
theorem loggedPacket_value (connection : Connection) (world : World γ) :
    (loggedPacket env connection world).value = handlePacket env connection world := by
  rw [loggedPacket, handlePacket]
  split
  next => rfl
  next =>
    split
    next => exact loggedRequest_value env connection world
    next => rfl

theorem keyLoop_of_ends (ends : RoundEnds socket connection) (world : World γ) :
    keyLoop env socket connection world = .pure (.returned world) := by
  rw [keyLoop]
  by_cases arrived : (recvN socket ProtocolHeader.size).ret ≤ 0
  · exact if_pos arrived
  · rw [if_neg arrived]
    simp only
    split
    next => rfl
    next fits =>
      split
      next => rfl
      next body rest found =>
        rcases ends with ended | beyond | missing
        · exact absurd ended arrived
        · exact absurd beyond fits
        · rw [missing] at found
          cases found

theorem keyLoop_of_receives {body : Region 1024} {rest : ReadEnd}
    (round : RoundReceives socket connection body rest) (world : World γ) :
    keyLoop env socket connection world =
      (loggedPacket env
        { connection with
          header := connection.header.write (recvN socket ProtocolHeader.size).data
          body } world).bind fun
        | .again next later => keyLoop env rest next later
        | .exit result => .pure result := by
  rw [keyLoop, if_neg (Int.not_le.mpr round.arrived)]
  simp only [if_neg (Nat.not_lt.mpr round.fits)]
  split
  next fault =>
    rw [round.received] at fault
    cases fault
  next found_body found_rest found =>
    rw [round.received] at found
    cases found
    rfl

theorem keyLoop_value (socket : ReadEnd) (connection : Connection) (world : World γ) :
    (keyLoop env socket connection world).value = receiveLoop env socket connection world := by
  induction left : socket.bytes.length using Nat.strong_induction_on
    generalizing socket connection world with
  | _ count ih =>
      rcases round_cases socket connection with ends | ⟨body, rest, round⟩
      · rw [keyLoop_of_ends env ends, receiveLoop_of_ends env ends, Logged.value_pure]
      · rw [keyLoop_of_receives env round, receiveLoop_of_receives env round, Logged.value_bind,
          loggedPacket_value]
        cases handlePacket env { connection with
            header := connection.header.write (recvN socket ProtocolHeader.size).data
            body } world with
        | again next later => exact ih _ (left ▸ round.shorter) rest next later rfl
        | exit result => rfl

/-! ## What the log holds -/

/-- The key of an answer is logged once. -/
theorem loggedResponse_events {n : Nat} (respMsg : Region n) (len : Nat) (opcode : UInt16)
    (key : CString) (world : World γ) :
    (loggedResponse respMsg len opcode (some key) world).events = [key] := by
  unfold loggedResponse
  simp only [loggedCrypt, Logged.events_bind, Logged.events_log, Logged.value_log]
  cases rc4Crypt respMsg len key with
  | none => rfl
  | some message => rfl

/-- An answer is sent when the limiter blocks the request or the service serves it. -/
theorem loggedWrapper_events (body : Region 1024) (key : CString) (world : World γ) {clientId : Int}
    (request : requestClientId body.bytes = clientId) {limited : Bool × World γ}
    (limits : limitRequest env clientId world = limited) :
    (loggedWrapper env body key world).events =
      if limited.1 || (serveRequest env clientId limited.2).isSome then [key] else [] := by
  rw [loggedWrapper, request, limits]
  by_cases blocked : limited.1 = true
  · rw [if_pos blocked, loggedResponse_events, blocked, Bool.true_or, if_pos rfl]
  · rw [if_neg blocked, Bool.eq_false_iff.mpr blocked, Bool.false_or]
    cases serveRequest env clientId limited.2 with
    | none => simp only [Logged.events_pure, Option.isSome_none, Bool.false_eq_true, if_false]
    | some served => simp only [loggedResponse_events, Option.isSome_some, if_true]

theorem loggedRequest_unkeyed (unkeyed : connection.isKeyEstablished = false) :
    (loggedRequest env connection world).events = [] := by
  rw [loggedRequest, if_pos unkeyed, Logged.events_pure]

/-- The key of the connection is logged for the request that it decrypts, and once
more when the checksum agrees, the opcode is that of a ride request, and the request
is blocked or served. -/
theorem loggedRequest_events {header : ProtocolHeader} {clientId : Int} {body : Region 1024}
    (decodes : ProtocolHeader.decode connection.header.bytes = header)
    (keyed : connection.isKeyEstablished = true)
    (decrypts : rc4Crypt connection.body header.length.toNat connection.sessionKey = some body)
    (request : requestClientId body.bytes = clientId) {limited : Bool × World γ}
    (limits : limitRequest env clientId
      (world.record (.requestAccepted (body.bytes.take header.length.toNat))) = limited) :
    (loggedRequest env connection world).events =
      connection.sessionKey ::
        if calculateChecksum body.bytes header.length.toNat = header.checksum ∧
            header.opcode = opReqRide ∧
            (limited.1 || (serveRequest env clientId limited.2).isSome) = true then
          [connection.sessionKey]
        else [] := by
  have open_ : ¬ connection.isKeyEstablished = false := by
    rw [keyed]
    exact Bool.noConfusion
  rw [loggedRequest, decodes]
  simp only
  rw [if_neg open_]
  simp only [loggedCrypt, Logged.events_bind, Logged.events_log, Logged.value_log, decrypts]
  by_cases agrees : calculateChecksum body.bytes header.length.toNat = header.checksum
  · by_cases asks : header.opcode = opReqRide
    · simp [agrees, asks, loggedWrapper_events env body _ _ request limits]
    · simp [agrees, asks]
  · simp [agrees]

theorem loggedPacket_events (connection : Connection) (world : World γ) :
    (loggedPacket env connection world).events =
      if (ProtocolHeader.decode connection.header.bytes).type = msgTypeRideReq then
        (loggedRequest env connection world).events
      else [] := by
  rw [loggedPacket]
  generalize (ProtocolHeader.decode connection.header.bytes).type = type
  by_cases handshake : type = msgTypeHandshake
  · have other : ¬ type = msgTypeRideReq := by
      rw [handshake]
      decide
    rw [if_pos handshake, if_neg other, Logged.events_pure]
  · rw [if_neg handshake]
    split
    next => rfl
    next => exact Logged.events_pure _

/-- What a packet adds to the log of the loop. -/
theorem keyLoop_events {body : Region 1024} {rest : ReadEnd} {received : Connection}
    (round : RoundReceives socket connection body rest)
    (arrived : received = { connection with
      header := connection.header.write (recvN socket ProtocolHeader.size).data, body })
    (world : World γ) :
    (keyLoop env socket connection world).events =
      (loggedPacket env received world).events ++
        match handlePacket env received world with
        | .again next later => (keyLoop env rest next later).events
        | .exit _ => [] := by
  rw [keyLoop_of_receives env round, ← arrived, Logged.events_bind, loggedPacket_value]
  cases handlePacket env received world with
  | again next later => rfl
  | exit result => exact congrArg _ (Logged.events_pure result)

/-! ## Proper keys -/

/-- What `rc4_crypt` relies on: a key of 1 to 63 characters, all of them in the
range 1 to 127, which is the whole text of a derived key, and which any buffer of
64 bytes holds with its terminator. -/
structure ProperKey (key : CString) : Prop where
  nonempty : 1 ≤ key.length
  short : key.length ≤ 63
  characters : ∀ character ∈ key, 1 ≤ character.toNat ∧ character.toNat ≤ 127
  whole : ∃ secret, key = ascii "KEY_" ++ printDecimal secret ++ ascii "_SECURE"
  terminated : ∀ buffer : Region 64, (buffer.snprintf 64 key).cString = key ∧
    (buffer.snprintf 64 key).bytes[key.length]? = some 0

theorem properKey_deriveSessionKey {secret : Int} (small : |secret| < dhPrime) :
    ProperKey (deriveSessionKey secret 64) := by
  have digits := length_printDecimal small
  have start : (ascii "KEY_").length = 4 := by decide
  have finish : (ascii "_SECURE").length = 7 := by decide
  have valid := (deriveSessionKey_valid secret).2
  have whole := deriveSessionKey_eq small
  have size : (deriveSessionKey secret 64).length = 11 + (printDecimal secret).length := by
    rw [whole, List.length_append, List.length_append, start, finish]
    omega
  have noTerminator : 0 ∉ deriveSessionKey secret 64 := fun member =>
    absurd (valid 0 member).1 (by decide)
  have fits : (deriveSessionKey secret 64).length < 64 := by omega
  constructor
  · omega
  · omega
  · exact valid
  · exact ⟨secret, whole⟩
  · intro buffer
    refine ⟨buffer.cString_snprintf fits (Nat.le_refl 64) noTerminator, ?_⟩
    rw [buffer.bytes_snprintf fits (Nat.le_refl 64),
      List.getElem?_append_right (Nat.le_refl _), Nat.sub_self]
    rfl

/-! ## The invariant of the loop -/

/-- The flag is set together with a key derived from a secret below the prime. -/
def KeyDerived (connection : Connection) : Prop :=
  connection.isKeyEstablished = true →
    ∃ secret, |secret| < dhPrime ∧ connection.sessionKey = deriveSessionKey secret 64

def KeyDerivedAfter : Control γ → Prop
  | .again next _ => KeyDerived next
  | .exit _ => True

theorem KeyDerived.properKey (derived : KeyDerived connection)
    (keyed : connection.isKeyEstablished = true) : ProperKey connection.sessionKey := by
  obtain ⟨secret, small, key⟩ := derived keyed
  rw [key]
  exact properKey_deriveSessionKey small

/-- Whatever the public key and the private key are, a handshake stores a key of
a secret below the prime. -/
theorem keyDerivedAfter_answerHandshake (connection : Connection) (world : World γ) :
    KeyDerivedAfter (answerHandshake env connection world) := by
  have small := (powerMod_modEq (publicKeyField connection.body.bytes)
    (env.generatePrivateKey world.outside).1 (by decide : 2 ≤ dhPrime) (by decide)).1
  exact fun _ => ⟨_, small, rfl⟩

theorem keyDerivedAfter_joinOrContinue (derived : KeyDerived connection) (world : World γ) :
    KeyDerivedAfter (joinOrContinue connection world) := by
  rw [joinOrContinue]
  split
  next => trivial
  next => exact derived

theorem loggedResponse_keys {n : Nat} {respMsg : Region n} {len : Nat} {opcode : UInt16}
    (proper : ProperKey key) :
    (loggedResponse respMsg len opcode (some key) world).Satisfies ProperKey fun _ => True := by
  have encrypted : (loggedCrypt respMsg len key).Satisfies ProperKey fun _ => True :=
    Logged.satisfies_log proper trivial
  unfold loggedResponse
  simp only
  apply encrypted.bind
  intro message _
  cases message with
  | none => exact Logged.satisfies_pure trivial
  | some message => exact Logged.satisfies_pure trivial

theorem loggedWrapper_keys {body : Region 1024} (proper : ProperKey key) :
    (loggedWrapper env body key world).Satisfies ProperKey fun _ => True := by
  rw [loggedWrapper]
  split
  next => exact loggedResponse_keys proper
  next =>
    split
    next => exact Logged.satisfies_pure trivial
    next => exact loggedResponse_keys proper

/-- A request is decrypted and answered with the key of the connection, and only
when it has one. -/
theorem loggedRequest_keys (derived : KeyDerived connection) :
    (loggedRequest env connection world).Satisfies ProperKey KeyDerivedAfter := by
  rw [loggedRequest]
  split
  next => exact Logged.satisfies_pure trivial
  next keyed =>
    have proper := derived.properKey (Bool.eq_true_of_not_eq_false keyed)
    have decrypted : (loggedCrypt connection.body
        (ProtocolHeader.decode connection.header.bytes).length.toNat
          connection.sessionKey).Satisfies ProperKey fun _ => True :=
      Logged.satisfies_log proper trivial
    apply decrypted.bind
    intro body _
    cases body with
    | none => exact Logged.satisfies_pure trivial
    | some body =>
        simp only
        split
        next => exact Logged.satisfies_pure trivial
        next =>
          split
          next =>
            apply (loggedWrapper_keys env proper).bind
            exact fun _ _ => Logged.satisfies_pure trivial
          next =>
            have unchanged : KeyDerived { connection with body } := derived
            exact Logged.satisfies_pure (keyDerivedAfter_joinOrContinue unchanged _)

/-- One packet uses proper keys only and keeps the invariant. -/
theorem loggedPacket_keys (derived : KeyDerived connection) :
    (loggedPacket env connection world).Satisfies ProperKey KeyDerivedAfter := by
  rw [loggedPacket]
  split
  next => exact Logged.satisfies_pure (keyDerivedAfter_answerHandshake env connection world)
  next =>
    split
    next => exact loggedRequest_keys env derived
    next => exact Logged.satisfies_pure (keyDerivedAfter_joinOrContinue derived world)

theorem keyLoop_keys (socket : ReadEnd) (derived : KeyDerived connection) (world : World γ) :
    (keyLoop env socket connection world).Satisfies ProperKey fun _ => True := by
  induction left : socket.bytes.length using Nat.strong_induction_on
    generalizing socket connection world with
  | _ count ih =>
      rcases round_cases socket connection with ends | ⟨body, rest, round⟩
      · rw [keyLoop_of_ends env ends]
        exact Logged.satisfies_pure trivial
      · have received : KeyDerived
            { connection with
              header := connection.header.write (recvN socket ProtocolHeader.size).data
              body } := derived
        rw [keyLoop_of_receives env round]
        apply (loggedPacket_keys env received).bind
        intro control after
        cases control with
        | again next later => exact ih _ (left ▸ round.shorter) rest after later rfl
        | exit result => exact Logged.satisfies_pure trivial

/-- On every connection, whatever its socket answers and whichever private keys
are drawn, every call of `rc4_crypt` in `handle_client` gets a proper key. -/
theorem handleClient_keys (header : Vector UInt8 ProtocolHeader.size) (body : Vector UInt8 1024)
    (socket : ReadEnd) (world : World γ) :
    (keyLog env header body socket world).value = handleClient env header body socket world ∧
      ∀ key ∈ (keyLog env header body socket world).events, ProperKey key := by
  have unkeyed : KeyDerived (Connection.opened header body) := nofun
  exact ⟨keyLoop_value env socket _ world, (keyLoop_keys env socket unkeyed world).events⟩

end RideHailing.Session
