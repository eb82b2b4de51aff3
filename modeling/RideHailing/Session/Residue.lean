import RideHailing.Session.Gate

/-!
# Residue of earlier packets in the body buffer

The body buffer of `handle_client` is reused, and its handlers read their
structures from it without a look at the length of the packet.  Two runs on one
packet and one key state, over different previous contents of the buffers, tell
which bytes a handler takes from where.
-/

namespace RideHailing.Session

open RideHailing.Arithmetic
open RideHailing.Bytes
open RideHailing.Common
open RideHailing.Server

universe u

variable {γ : Type u}

/-! ## Two runs -/

/-- The part of a connection that is not a buffer. -/
structure KeyState where
  sessionKey : CString
  isKeyEstablished : Bool

/-- A connection with given previous contents of its two buffers. -/
def KeyState.connection (keys : KeyState) (header : Vector UInt8 ProtocolHeader.size)
    (body : Vector UInt8 1024) : Connection where
  header := .ofVector header
  body := .ofVector body
  sessionKey := keys.sessionKey
  isKeyEstablished := keys.isKeyEstablished

/-- Two outcomes that differ in the buffers at most. -/
def SameEffect : Control γ → Control γ → Prop
  | .again first firstWorld, .again second secondWorld =>
      first.sessionKey = second.sessionKey ∧
        first.isKeyEstablished = second.isKeyEstablished ∧ firstWorld = secondWorld
  | .exit first, .exit second => first = second
  | _, _ => False

theorem SameEffect.refl (control : Control γ) : SameEffect control control := by
  cases control with
  | again connection world => exact ⟨rfl, rfl, rfl⟩
  | exit result => rfl

/-- The previous contents of the buffers do not matter. -/
def Independent (keys : KeyState) (packet : Packet) : Prop :=
  ∀ (γ : Type) (env : Env γ) (world : World γ) (header header' : Vector UInt8 ProtocolHeader.size)
    (body body' : Vector UInt8 1024),
    SameEffect (handlePacket env ((keys.connection header body).receive packet) world)
      (handlePacket env ((keys.connection header' body').receive packet) world)

/-- The packet ends the connection and has no effect at all. -/
def Rejected (keys : KeyState) (packet : Packet) : Prop :=
  ∀ (γ : Type) (env : Env γ) (world : World γ) (header : Vector UInt8 ProtocolHeader.size)
    (body : Vector UInt8 1024),
    handlePacket env ((keys.connection header body).receive packet) world =
      .exit (.returned world)

/-! ## Handlers -/

/-- The handlers that cast the buffer to a structure. -/
inductive Handler
  | handshake
  | rideRequest
  | driverJoin
  deriving DecidableEq

/-- The size of the structure. -/
def Handler.structureSize : Handler → Nat
  | .handshake => handshakeDataSize
  | .rideRequest => rideRequestDataSize
  | .driverJoin => driverJoinDataSize

/-- The number of its bytes up to the last one that is read. -/
def Handler.bytesRead : Handler → Nat
  | .handshake => 8
  | .rideRequest => 4
  | .driverJoin => 4

theorem Handler.bytesRead_le (handler : Handler) : handler.bytesRead ≤ handler.structureSize := by
  cases handler <;> decide

/-- The handler that a packet reaches. -/
def handlerOf (keys : KeyState) (packet : Packet) : Option Handler :=
  let join := if packet.header.opcode = opDriverJoin then some Handler.driverJoin else none
  if packet.header.type = msgTypeHandshake then some .handshake
  else if packet.header.type = msgTypeRideReq then
    if keys.isKeyEstablished = false then none
    else
      match keySchedule keys.sessionKey with
      | none => none
      | some key =>
          if ChecksumAgrees key packet then
            if packet.header.opcode = opReqRide then some .rideRequest else join
          else none
  else join

/-- The world in which the join test is reached: after the checksum test when a
key was used. -/
def passed (packet : Packet) (world : World γ) : Option Rc4State → World γ
  | none => world
  | some key => accept key packet world

/-- The bytes of the packet that the buffer then holds. -/
def received (packet : Packet) : Option Rc4State → List UInt8
  | none => packet.body
  | some key => rc4Encrypt key packet.body

@[simp]
theorem length_received (packet : Packet) (key : Option Rc4State) :
    (received packet key).length = packet.body.length := by
  cases key with
  | none => rfl
  | some key => exact length_rc4Encrypt key packet.body

/-- The outcome of a packet for every previous contents of the buffers, with the
handler that it reaches. -/
inductive Path (keys : KeyState) (packet : Packet) : Option Handler → Prop
  | handshake (outcome : ∀ (γ : Type) (env : Env γ) (world : World γ) header body,
      handlePacket env ((keys.connection header body).receive packet) world =
        answerHandshake env ((keys.connection header body).receive packet) world) :
      Path keys packet (some .handshake)
  | refused (outcome : ∀ (γ : Type) (env : Env γ) (world : World γ) header body,
      handlePacket env ((keys.connection header body).receive packet) world =
        .exit (.returned world)) :
      Path keys packet none
  | died (outcome : ∀ (γ : Type) (env : Env γ) (world : World γ) header body,
      handlePacket env ((keys.connection header body).receive packet) world =
        .exit (.killed world)) :
      Path keys packet none
  | ride (key : Rc4State) (outcome : ∀ (γ : Type) (env : Env γ) (world : World γ) header body,
      handlePacket env ((keys.connection header body).receive packet) world =
        .exit (processRideRequestWrapper env
          ((Region.ofVector body).write (rc4Encrypt key packet.body)) keys.sessionKey
          (accept key packet world))) :
      Path keys packet (some .rideRequest)
  | join (key : Option Rc4State)
      (outcome : ∀ (γ : Type) (env : Env γ) (world : World γ) header body,
        handlePacket env ((keys.connection header body).receive packet) world =
          .exit (processDriverJoinPacket ((Region.ofVector body).write (received packet key))
            (passed packet world key))) :
      Path keys packet (some .driverJoin)
  | continues (key : Option Rc4State)
      (outcome : ∀ (γ : Type) (env : Env γ) (world : World γ) header body,
        ∃ next, handlePacket env ((keys.connection header body).receive packet) world =
            .again next (passed packet world key) ∧
          next.sessionKey = keys.sessionKey ∧
          next.isKeyEstablished = keys.isKeyEstablished) :
      Path keys packet none

theorem decrypt_body (connection : Connection) (packet : Packet) (key : Rc4State) :
    (connection.decrypt packet key).body =
      connection.body.write (rc4Encrypt key packet.body) :=
  Region.write_write connection.body (length_rc4Encrypt key packet.body)

/-- The join test, reached with or without a key. -/
theorem path_of_joinOrContinue (keys : KeyState) (packet : Packet) (key : Option Rc4State)
    (reached : ∀ (γ : Type) (env : Env γ) (world : World γ) header body,
      ∃ next : Connection, handlePacket env ((keys.connection header body).receive packet) world =
          joinOrContinue next (passed packet world key) ∧
        ProtocolHeader.decode next.header.bytes = packet.header ∧
        next.body = (Region.ofVector body).write (received packet key) ∧
        next.sessionKey = keys.sessionKey ∧ next.isKeyEstablished = keys.isKeyEstablished) :
    Path keys packet
      (if packet.header.opcode = opDriverJoin then some Handler.driverJoin else none) := by
  by_cases isJoin : packet.header.opcode = opDriverJoin
  · rw [if_pos isJoin]
    apply Path.join key
    intro γ env world header body
    obtain ⟨next, outcome, decoded, contents, _, _⟩ := reached γ env world header body
    rw [outcome, joinOrContinue_of_eq (by rw [decoded]; exact isJoin), contents]
  · rw [if_neg isJoin]
    apply Path.continues key
    intro γ env world header body
    obtain ⟨next, outcome, decoded, _, sessionKey, established⟩ := reached γ env world header body
    refine ⟨next, ?_, sessionKey, established⟩
    rw [outcome, joinOrContinue_of_ne (by rw [decoded]; exact isJoin)]

theorem path_handlerOf (keys : KeyState) (packet : Packet) :
    Path keys packet (handlerOf keys packet) := by
  rw [handlerOf]
  by_cases isHandshake : packet.header.type = msgTypeHandshake
  · rw [if_pos isHandshake]
    exact .handshake fun γ env world header body => handlePacket_handshake env world isHandshake
  · rw [if_neg isHandshake]
    by_cases isRequest : packet.header.type = msgTypeRideReq
    · rw [if_pos isRequest]
      cases keyed : keys.isKeyEstablished with
      | false =>
          exact .refused fun γ env world header body =>
            handlePacket_unkeyed env world isRequest keyed
      | true =>
          rw [if_neg Bool.noConfusion]
          cases scheduled : keySchedule keys.sessionKey with
          | none =>
              exact .died fun γ env world header body =>
                handlePacket_unscheduled env world isRequest keyed scheduled
          | some key =>
              have writable : ∀ header body, (keys.connection header body).body.writable = true :=
                fun _ _ => rfl
              have outcome : ∀ (γ : Type) (env : Env γ) (world : World γ) header body, _ :=
                fun γ env world header body => handlePacket_decrypted env world
                  (writable header body) isRequest keyed scheduled
              by_cases agrees : ChecksumAgrees key packet
              · simp only [if_pos agrees] at outcome ⊢
                by_cases isRide : packet.header.opcode = opReqRide
                · simp only [if_pos isRide] at outcome ⊢
                  apply Path.ride key
                  intro γ env world header body
                  rw [outcome, decrypt_body]
                  rfl
                · simp only [if_neg isRide] at outcome ⊢
                  apply path_of_joinOrContinue keys packet (some key)
                  intro γ env world header body
                  exact ⟨_, outcome γ env world header body, Connection.decrypt_header _ _ _,
                    decrypt_body _ _ _, rfl, rfl⟩
              · simp only [if_neg agrees] at outcome ⊢
                exact .refused outcome
    · rw [if_neg isRequest]
      apply path_of_joinOrContinue keys packet none
      intro γ env world header body
      exact ⟨_, handlePacket_other env world isHandshake isRequest, Connection.receive_header _ _,
        rfl, rfl, rfl⟩

/-! ## Enough bytes -/

section Agreement

variable {first second : Region 1024} {data : List UInt8}

/-- Buffers that received the same bytes agree on fields within them. -/
theorem field_write_congr (fits : data.length ≤ 1024) {width : Nat} (within : width ≤ data.length) :
    field (first.write data).bytes 0 width = field (second.write data).bytes 0 width := by
  apply field_congr _ (Nat.le_of_eq (Nat.zero_add width))
  rw [Region.take_bytes_write_of_le first fits within,
    Region.take_bytes_write_of_le second fits within]

theorem processRideRequestWrapper_congr {env : Env γ} {sessionKey : CString} {world : World γ}
    (same : requestClientId first.bytes = requestClientId second.bytes) :
    processRideRequestWrapper env first sessionKey world =
      processRideRequestWrapper env second sessionKey world := by
  rw [processRideRequestWrapper, processRideRequestWrapper, same]

theorem processDriverJoinPacket_congr {world : World γ}
    (same : driverIdField first.bytes = driverIdField second.bytes) :
    processDriverJoinPacket first world = processDriverJoinPacket second world := by
  rw [processDriverJoinPacket, processDriverJoinPacket, same]

end Agreement

/-- A packet that brings every byte that its handler reads is independent of the
residue. -/
theorem independent_of_bytesRead {keys : KeyState} {packet : Packet}
    (enough : ∀ handler, handlerOf keys packet = some handler →
      handler.bytesRead ≤ packet.body.length) : Independent keys packet := by
  intro γ env world header header' body body'
  have path := path_handlerOf keys packet
  have fits : packet.body.length ≤ 1024 := packet.length_eq ▸ packet.fits
  generalize handlerOf keys packet = handler at path enough
  cases path with
  | handshake outcome =>
      rw [outcome, outcome]
      have same : publicKeyField ((keys.connection header body).receive packet).body.bytes =
          publicKeyField ((keys.connection header' body').receive packet).body.bytes :=
        congrArg (fun value : Nat => wrap64 value) (field_write_congr fits (enough _ rfl))
      rw [answerHandshake, answerHandshake, same]
      exact ⟨rfl, rfl, rfl⟩
  | refused outcome =>
      rw [outcome, outcome]
      exact SameEffect.refl _
  | died outcome =>
      rw [outcome, outcome]
      exact SameEffect.refl _
  | ride key outcome =>
      have within : 4 ≤ (rc4Encrypt key packet.body).length := by
        rw [length_rc4Encrypt]
        exact enough _ rfl
      have same :
          requestClientId ((Region.ofVector body).write (rc4Encrypt key packet.body)).bytes =
            requestClientId ((Region.ofVector body').write (rc4Encrypt key packet.body)).bytes :=
        congrArg (fun value : Nat => wrap32 (UInt32.ofNat value).toNat)
          (field_write_congr (by rw [length_rc4Encrypt]; exact fits) within)
      rw [outcome, outcome, processRideRequestWrapper_congr same]
      exact SameEffect.refl _
  | join key outcome =>
      have within : 4 ≤ (received packet key).length := by
        rw [length_received]
        exact enough _ rfl
      have same : driverIdField ((Region.ofVector body).write (received packet key)).bytes =
          driverIdField ((Region.ofVector body').write (received packet key)).bytes :=
        congrArg UInt32.ofNat (field_write_congr (by rw [length_received]; exact fits) within)
      rw [outcome, outcome, processDriverJoinPacket_congr same]
      exact SameEffect.refl _
  | continues key outcome =>
      obtain ⟨first, firstOutcome, firstKey, firstEstablished⟩ := outcome γ env world header body
      obtain ⟨second, secondOutcome, secondKey, secondEstablished⟩ :=
        outcome γ env world header' body'
      rw [firstOutcome, secondOutcome]
      exact ⟨firstKey.trans secondKey.symm, firstEstablished.trans secondEstablished.symm, rfl⟩

/-! ## Too few bytes -/

/-- Zeros with one given byte behind the first `low` of them. -/
def residue (low : Nat) (room : low < 1024) (last : UInt8) : Vector UInt8 1024 where
  toArray := (List.replicate low 0 ++ last :: List.replicate (1023 - low) 0).toArray
  size_toArray := by
    simp only [List.size_toArray, List.length_append, List.length_replicate, List.length_cons]
    omega

/-- The bytes of the packet and zeros behind them, as a number. -/
def belowMark (data : List UInt8) (low : Nat) : Nat :=
  ofLittleEndian (data ++ List.replicate (low - data.length) 0)

/-- A field that ends with the marked byte, over fewer received bytes. -/
theorem field_residue {data : List UInt8} {low : Nat} (room : low < 1024)
    (short : data.length ≤ low) (last : UInt8) :
    field ((Region.ofVector (residue low room last)).write data).bytes 0 (low + 1) =
      belowMark data low + 256 ^ low * last.toNat := by
  let below := data ++ List.replicate (low - data.length) 0
  have size : below.length = low := by
    simp only [below, List.length_append, List.length_replicate]
    omega
  have contents : (Region.ofVector (residue low room last)).bytes =
      List.replicate low 0 ++ last :: List.replicate (1023 - low) 0 := rfl
  have remaining : (List.replicate low (0 : UInt8) ++ last :: List.replicate (1023 - low) 0).drop
      data.length =
        List.replicate (low - data.length) 0 ++ last :: List.replicate (1023 - low) 0 := by
    rw [List.drop_append_of_le_length (by rw [List.length_replicate]; exact short),
      List.drop_replicate]
  have stored : ((Region.ofVector (residue low room last)).write data).bytes =
      (below ++ [last]) ++ List.replicate (1023 - low) 0 := by
    rw [Region.bytes_write _ (by omega), contents, remaining]
    simp [below]
  have marked : (below ++ [last]).length = low + 1 := by
    rw [List.length_append, size, List.length_singleton]
  rw [field, List.drop_zero, stored, List.take_left' marked, ofLittleEndian_append, size]
  simp [below, belowMark, ofLittleEndian_cons]

theorem belowMark_lt {data : List UInt8} {low : Nat} (short : data.length ≤ low) :
    belowMark data low < 256 ^ low := by
  have bound := ofLittleEndian_lt (data ++ List.replicate (low - data.length) 0)
  rwa [List.length_append, List.length_replicate, Nat.add_sub_cancel' short] at bound

section Marks

variable {data : List UInt8}

theorem publicKeyField_residue (short : data.length ≤ 7) {last : UInt8} (small : last.toNat ≤ 1) :
    publicKeyField ((Region.ofVector (residue 7 (by decide) last)).write data).bytes =
      belowMark data 7 + 256 ^ 7 * last.toNat := by
  have below : belowMark data 7 < 256 ^ 7 := belowMark_lt short
  rw [publicKeyField, field_residue (by decide) short]
  exact wrap64_eq_self (by omega) (by push_cast; omega)

theorem clientIdField_residue (short : data.length ≤ 3) {last : UInt8} (small : last.toNat ≤ 1) :
    (clientIdField ((Region.ofVector (residue 3 (by decide) last)).write data).bytes).toNat =
      belowMark data 3 + 256 ^ 3 * last.toNat := by
  have below : belowMark data 3 < 256 ^ 3 := belowMark_lt short
  rw [clientIdField, field_residue (by decide) short, UInt32.toNat_ofNat']
  omega

theorem requestClientId_residue (short : data.length ≤ 3) {last : UInt8} (small : last.toNat ≤ 1) :
    requestClientId ((Region.ofVector (residue 3 (by decide) last)).write data).bytes =
      belowMark data 3 + 256 ^ 3 * last.toNat := by
  have below : belowMark data 3 < 256 ^ 3 := belowMark_lt short
  rw [requestClientId, clientIdField_residue short small,
    wrap32_eq_self (by omega) (by push_cast; omega)]
  push_cast
  rfl

/-- The secret of the exponent 1 is the public key itself, reduced. -/
theorem calculateSharedSecret_one {publicKey : Int} (nonneg : 0 ≤ publicKey) :
    calculateSharedSecret publicKey 1 = publicKey % dhPrime := by
  rw [calculateSharedSecret, powerMod_eq_emod 1 (by decide) (by decide) nonneg]
  simp

/-- The mark shifts the public key by 2⁵⁶, which the prime does not divide. -/
theorem residue_sessionKey_ne (short : data.length ≤ 7) :
    deriveSessionKey (calculateSharedSecret (publicKeyField
        ((Region.ofVector (residue 7 (by decide) 0)).write data).bytes) 1) 64 ≠
      deriveSessionKey (calculateSharedSecret (publicKeyField
        ((Region.ofVector (residue 7 (by decide) 1)).write data).bytes) 1) 64 := by
  have prime : dhPrime = 2147483647 := rfl
  have positive : 0 < dhPrime := by decide
  rw [publicKeyField_residue short (by decide), publicKeyField_residue short (by decide),
    calculateSharedSecret_one (by omega), calculateSharedSecret_one (by omega)]
  intro same
  have residues := deriveSessionKey_injective (Int.emod_nonneg _ positive.ne')
    (Int.emod_lt_of_pos _ positive) (Int.emod_nonneg _ positive.ne')
    (Int.emod_lt_of_pos _ positive) same
  rw [prime] at residues
  have zero : (0 : UInt8).toNat = 0 := rfl
  have one : (1 : UInt8).toNat = 1 := rfl
  rw [zero, one] at residues
  omega

theorem residue_requestClientId_ne (short : data.length ≤ 3) :
    requestClientId ((Region.ofVector (residue 3 (by decide) 0)).write data).bytes ≠
      requestClientId ((Region.ofVector (residue 3 (by decide) 1)).write data).bytes := by
  have zero : (0 : UInt8).toNat = 0 := rfl
  have one : (1 : UInt8).toNat = 1 := rfl
  rw [requestClientId_residue short (by decide), requestClientId_residue short (by decide), zero,
    one]
  omega

/-- The driver's identifier is the same field as the client's. -/
theorem residue_driverId_ne (short : data.length ≤ 3) :
    driverIdField ((Region.ofVector (residue 3 (by decide) 0)).write data).bytes ≠
      driverIdField ((Region.ofVector (residue 3 (by decide) 1)).write data).bytes := by
  intro same
  exact residue_requestClientId_ne short
    (congrArg (fun value : UInt32 => wrap32 value.toNat) same)

end Marks

theorem handshakeKey_of_sameEffect {env : Env γ} {first second : Connection} {world : World γ}
    (same : SameEffect (answerHandshake env first world) (answerHandshake env second world)) :
    handshakeKey env first world = handshakeKey env second world := by
  rw [answerHandshake, answerHandshake] at same
  obtain ⟨sessionKey, _, _⟩ := same
  exact sessionKey

theorem handshakeKey_stillEnv (connection : Connection) (world : World Unit) :
    handshakeKey stillEnv connection world =
      deriveSessionKey (calculateSharedSecret (publicKeyField connection.body.bytes) 1) 64 := by
  have privateKey : (stillEnv.generatePrivateKey world.outside).1 = 1 := rfl
  rw [handshakeKey, privateKey]

theorem requestClientId_of_eq {env : Env γ} {first second : Region 1024} {sessionKey : CString}
    {world : World γ} (same : processRideRequestWrapper env first sessionKey world =
      processRideRequestWrapper env second sessionKey world) :
    requestClientId first.bytes = requestClientId second.bytes := by
  obtain ⟨_, ⟨firstRecord, _⟩, _⟩ := processRideRequestWrapper_effect env first sessionKey world
  obtain ⟨_, ⟨secondRecord, _⟩, _⟩ := processRideRequestWrapper_effect env second sessionKey world
  rw [same, secondRecord] at firstRecord
  have heads := List.head_eq_of_cons_eq (List.append_cancel_left firstRecord)
  exact (Operation.rateLimitCheck.inj heads).1.symm

theorem driverIdField_of_eq {first second : Region 1024} {world : World γ}
    (nonneg : 0 ≤ world.shared.driverCount)
    (same : processDriverJoinPacket first world = processDriverJoinPacket second world) :
    driverIdField first.bytes = driverIdField second.bytes := by
  have firstRecord := processDriverJoinPacket_record first nonneg
  rw [same, processDriverJoinPacket_record second nonneg] at firstRecord
  have heads := List.head_eq_of_cons_eq (List.append_cancel_left firstRecord)
  exact (Operation.driverJoin.inj heads).symm

theorem passed_driverCount (packet : Packet) (key : Option Rc4State) :
    0 ≤ (passed packet (World.opened SharedState.zeroed) key).shared.driverCount := by
  cases key with
  | none => exact Int.le_refl 0
  | some key => exact Int.le_refl 0

/-- With fewer bytes than its handler reads, a packet is not independent: the
last byte read comes from the residue. -/
theorem bytesRead_of_independent {keys : KeyState} {packet : Packet} {handler : Handler}
    (independent : Independent keys packet) (reaches : handlerOf keys packet = some handler) :
    handler.bytesRead ≤ packet.body.length := by
  by_contra short
  have runs := fun low room => independent Unit stillEnv (World.opened SharedState.zeroed)
    (Vector.replicate _ 0) (Vector.replicate _ 0) (residue low room 0) (residue low room 1)
  have path := path_handlerOf keys packet
  rw [reaches] at path
  cases path with
  | handshake outcome =>
      have few : packet.body.length ≤ 7 := Nat.le_of_lt_succ (Nat.lt_of_not_le short)
      have same := runs 7 (by decide)
      rw [outcome, outcome] at same
      have keys_eq := handshakeKey_of_sameEffect same
      rw [handshakeKey_stillEnv, handshakeKey_stillEnv] at keys_eq
      exact residue_sessionKey_ne few keys_eq
  | ride key outcome =>
      have few : (rc4Encrypt key packet.body).length ≤ 3 := by
        rw [length_rc4Encrypt]
        exact Nat.le_of_lt_succ (Nat.lt_of_not_le short)
      have same := runs 3 (by decide)
      rw [outcome, outcome] at same
      exact residue_requestClientId_ne few (requestClientId_of_eq same)
  | join key outcome =>
      have few : (received packet key).length ≤ 3 := by
        rw [length_received]
        exact Nat.le_of_lt_succ (Nat.lt_of_not_le short)
      have same := runs 3 (by decide)
      rw [outcome, outcome] at same
      exact residue_driverId_ne few (driverIdField_of_eq (passed_driverCount packet key) same)

/-! ## The exact condition -/

/-- Nothing but the bytes of the packet is used: the outcome is independent of
the residue, and a packet shorter than the structure of its handler is
rejected. -/
def UsesOwnBytes (keys : KeyState) (packet : Packet) : Prop :=
  Independent keys packet ∧ ∀ handler, handlerOf keys packet = some handler →
    packet.body.length < handler.structureSize → Rejected keys packet

/-- A packet that reaches a handler is not rejected. -/
theorem not_rejected_of_handlerOf {keys : KeyState} {packet : Packet} {handler : Handler}
    (reaches : handlerOf keys packet = some handler) : ¬ Rejected keys packet := by
  intro rejected
  have refused := rejected Unit stillEnv (World.opened SharedState.zeroed) (Vector.replicate _ 0)
    (Vector.replicate _ 0)
  have path := path_handlerOf keys packet
  rw [reaches] at path
  cases path with
  | handshake outcome =>
      rw [outcome, answerHandshake] at refused
      cases refused
  | ride key outcome =>
      obtain ⟨_, ⟨recorded, _⟩, _⟩ := processRideRequestWrapper_effect stillEnv
        ((Region.ofVector (Vector.replicate _ 0)).write (rc4Encrypt key packet.body))
        keys.sessionKey (accept key packet (World.opened SharedState.zeroed))
      rw [outcome] at refused
      rw [Control.exit.inj refused] at recorded
      cases recorded
  | join key outcome =>
      have nonneg : 0 ≤ (passed packet (World.opened SharedState.zeroed) key).shared.driverCount :=
        passed_driverCount packet key
      have recorded := processDriverJoinPacket_record
        ((Region.ofVector (Vector.replicate _ 0)).write (received packet key)) nonneg
      rw [outcome] at refused
      rw [Control.exit.inj refused] at recorded
      cases key with
      | none => cases recorded
      | some key => cases recorded

/-- For every packet and key state: the effect is independent of the residue
exactly when the packet brings the bytes that its handler reads, and only the
packet's own bytes are used exactly when it brings the whole structure. -/
theorem usesOwnBytes_iff (keys : KeyState) (packet : Packet) :
    (Independent keys packet ↔
      ∀ handler, handlerOf keys packet = some handler →
        handler.bytesRead ≤ packet.body.length) ∧
    (UsesOwnBytes keys packet ↔
      ∀ handler, handlerOf keys packet = some handler →
        handler.structureSize ≤ packet.body.length) := by
  constructor
  · constructor
    · intro independent handler reaches
      exact bytesRead_of_independent independent reaches
    · exact independent_of_bytesRead
  · constructor
    · rintro ⟨_, short⟩ handler reaches
      by_contra less
      exact not_rejected_of_handlerOf reaches (short handler reaches (Nat.lt_of_not_le less))
    · intro whole
      constructor
      · apply independent_of_bytesRead
        intro handler reaches
        exact Nat.le_trans handler.bytesRead_le (whole handler reaches)
      · intro handler reaches short
        exact absurd short (Nat.not_lt_of_le (whole handler reaches))

/-- A join without a body. -/
def emptyJoin : Packet where
  header := { length := 0, type := 0, opcode := opDriverJoin, checksum := 0 }
  body := []
  length_eq := noBody_length
  fits := noBody_fits

/-- The driver that an empty join registers is named by the residue. -/
theorem not_usesOwnBytes_emptyJoin :
    ¬ ∀ (keys : KeyState) (packet : Packet), UsesOwnBytes keys packet := by
  intro own
  have reaches : handlerOf ⟨[], false⟩ emptyJoin = some .driverJoin := by decide
  have short := bytesRead_of_independent (own ⟨[], false⟩ emptyJoin).1 reaches
  exact absurd short (by decide)

end RideHailing.Session
