import RideHailing.Common.Checksum
import RideHailing.Session.Contribution

/-!
# Corruption of one ciphertext byte

The checksum of a request is computed before encryption and compared after
decryption.  The stream cipher turns one changed ciphertext byte into one
changed plaintext byte, and the checksum tells every such pair apart.
-/

namespace RideHailing.Session

open RideHailing.Bytes
open RideHailing.Cipher
open RideHailing.Common
open RideHailing.Server

universe u

variable {γ : Type u} {key : CString} {start : Rc4State} {plain : List UInt8} {request : Packet}

/-- A ride request whose sender computed the checksum of a body and encrypted it
with `rc4_crypt`, and of which one ciphertext byte was changed on the way. -/
structure Corrupted (key : CString) (plain : List UInt8) (request : Packet) : Prop where
  isRequest : request.header.type = msgTypeRideReq
  checksum : request.header.checksum = calculateChecksum plain plain.length
  encrypted : ∃ (n : Nat) (buffer sent : Region n), buffer.bytes.take plain.length = plain ∧
    rc4Crypt buffer plain.length key = some sent ∧
      OneChange (sent.bytes.take plain.length) request.body

/-- The change happened to the encryption of the body under a scheduled key. -/
theorem Corrupted.oneChange (corrupted : Corrupted key plain request) :
    ∃ start, keySchedule key = some start ∧ OneChange (rc4Encrypt start plain) request.body := by
  rcases corrupted.encrypted with ⟨n, buffer, sent, contents, encrypted, change⟩
  have within : plain.length ≤ n := by
    have size := congrArg List.length contents
    rw [List.length_take, buffer.length_eq] at size
    omega
  obtain ⟨start, scheduled, sealed_⟩ := rc4Crypt_take within encrypted
  rw [sealed_, contents] at change
  exact ⟨start, scheduled, change⟩

/-- One changed byte of a ciphertext is one changed byte of its decryption. -/
theorem oneChange_decrypted (change : OneChange (rc4Encrypt start plain) request.body) :
    OneChange plain (rc4Encrypt start request.body) := by
  have injective : ∀ key : UInt8, Function.Injective fun symbol => symbol ^^^ key := by
    intro key first second same
    exact UInt8.xor_left_inj key |>.mp same
  have decrypted : OneChange (rc4Encrypt start (rc4Encrypt start plain))
      (rc4Encrypt start request.body) := change.encrypt injective start
  rwa [rc4Encrypt_rc4Encrypt] at decrypted

/-- The checksum test fails on a corrupted request. -/
theorem Corrupted.disagrees (corrupted : Corrupted key plain request)
    (scheduled : keySchedule key = some start) : ¬ ChecksumAgrees start request := by
  obtain ⟨other, known, change⟩ := corrupted.oneChange
  rw [scheduled] at known
  cases known
  have size : request.header.length.toNat = plain.length := by
    rw [← request.length_eq, ← change.length_eq, length_rc4Encrypt]
  have short : 255 * plain.length < 2 ^ 32 := by
    have fits := request.fits
    omega
  rw [ChecksumAgrees, corrupted.checksum, size]
  exact (calculateChecksum_oneChange (oneChange_decrypted change) short).symm

/-- The checksum that `handle_client` computes over the decrypted body is not
the one in the header. -/
theorem Corrupted.detected (corrupted : Corrupted key plain request) {connection : Connection}
    (writable : connection.body.writable = true) (current : connection.sessionKey = key) :
    ∃ decrypted, rc4Crypt (connection.receive request).body request.header.length.toNat
        connection.sessionKey = some decrypted ∧
      calculateChecksum decrypted.bytes request.header.length.toNat ≠
        request.header.checksum := by
  obtain ⟨start, scheduled, _⟩ := corrupted.oneChange
  rw [← current] at scheduled
  refine ⟨_, connection.rc4Crypt_receive request writable scheduled, ?_⟩
  rw [Connection.calculateChecksum_decrypt]
  exact corrupted.disagrees (current ▸ scheduled)

theorem Corrupted.rejected (corrupted : Corrupted key plain request) {connection : Connection}
    (writable : connection.body.writable = true) (current : connection.sessionKey = key)
    (env : Env γ) (world : World γ) :
    handlePacket env (connection.receive request) world = .exit (.returned world) := by
  obtain ⟨start, scheduled, _⟩ := corrupted.oneChange
  apply handlePacket_rejected writable corrupted.isRequest
  exact Or.inr ⟨start, current ▸ scheduled, corrupted.disagrees scheduled⟩

/-- Whatever the session key and the body, a request with one changed ciphertext
byte is detected: in the buffers of any connection with that key the checksum of
the decrypted body differs from the one in the header, and a connection that
receives it after any packets returns with the shared state as it was. -/
theorem corruption_detected (corrupted : Corrupted key plain request) (env : Env γ) :
    (∀ connection : Connection, connection.body.writable = true → connection.sessionKey = key →
      (∃ decrypted, rc4Crypt (connection.receive request).body request.header.length.toNat
          connection.sessionKey = some decrypted ∧
        calculateChecksum decrypted.bytes request.header.length.toNat ≠
          request.header.checksum) ∧
      ∀ world, handlePacket env (connection.receive request) world = .exit (.returned world)) ∧
    ∀ (header : Vector UInt8 ProtocolHeader.size) (body : Vector UInt8 1024) (world : World γ)
        (socket : ReadEnd) (before : List Packet) (tail : List UInt8) (connection : Connection)
        (current : World γ),
      socket.Reliable → socket.bytes = wires (before ++ [request]) ++ tail →
      serve env before (Connection.opened header body) world = .again connection current →
      connection.sessionKey = key →
        handleClient env header body socket world = .returned current ∧
          current.shared = world.shared ∧ stateOperations current = stateOperations world := by
  constructor
  · intro connection writable current
    exact ⟨corrupted.detected writable current, corrupted.rejected writable current env⟩
  · intro header body world socket before tail connection current reliable bytes served keyed
    have reached := reached_of_served rfl rfl served
    have ends := corrupted.rejected reached.writable keyed env current
    obtain ⟨_, _, _, loop⟩ :=
      receiveLoop_wires env reliable bytes (Connection.opened header body) world
    refine ⟨?_, reached.shared, reached.quiet⟩
    rw [handleClient, loop, serve_append_again served, serve, ends]

/-- Under every derived session key every body that fits the buffer can be sent
with any byte of its ciphertext changed to any other value. -/
theorem exists_corrupted (secret : Int) (opcode : UInt16) (fits : plain.length ≤ 1024) :
    ∃ start, keySchedule (deriveSessionKey secret 64) = some start ∧
      ∀ position byte, ∀ inside : position < (rc4Encrypt start plain).length,
        (rc4Encrypt start plain)[position] ≠ byte →
          ∃ request : Packet, Corrupted (deriveSessionKey secret 64) plain request ∧
            request.header.opcode = opcode ∧
            request.body = (rc4Encrypt start plain).set position byte := by
  obtain ⟨start, scheduled⟩ := keySchedule_deriveSessionKey secret
  refine ⟨start, scheduled, fun position byte inside different => ?_⟩
  have change := oneChange_set inside different
  generalize (rc4Encrypt start plain).set position byte = ciphertext at change
  have announced : (UInt32.ofNat plain.length).toNat = plain.length :=
    UInt32.toNat_ofNat_of_lt' (Nat.lt_of_le_of_lt fits (by decide))
  have size : ciphertext.length = plain.length := by
    rw [← change.length_eq, length_rc4Encrypt]
  let request : Packet :=
    { header :=
        { length := UInt32.ofNat plain.length
          type := msgTypeRideReq
          opcode := opcode
          checksum := calculateChecksum plain plain.length }
      body := ciphertext
      length_eq := size.trans announced.symm
      fits := announced.le.trans fits }
  have contents := (Region.zero 1024).take_bytes_write fits
  have encrypted : rc4Crypt ((Region.zero 1024).write plain) plain.length
      (deriveSessionKey secret 64) = some _ := rc4Crypt_eq_some scheduled rfl
  obtain ⟨other, known, transformed⟩ := rc4Crypt_take fits encrypted
  rw [scheduled] at known
  cases known
  rw [contents] at transformed
  refine ⟨request, ⟨rfl, rfl, 1024, _, _, contents, encrypted, ?_⟩, rfl, rfl⟩
  rw [contents, transformed]
  exact change

/-- A request of one byte after a handshake, with its ciphertext raised by one. -/
theorem corruption_detected_raisedByte :
    ∃ request connection current,
      serve stillEnv [publicKeyPacket 1] freshConnection (World.opened SharedState.zeroed) =
        .again connection current ∧
      Corrupted connection.sessionKey [65] request ∧
      handleClient stillEnv (Vector.replicate _ 0) (Vector.replicate _ 0)
        (.ofBytes (wires [publicKeyPacket 1, request])) (World.opened SharedState.zeroed) =
          .returned current ∧
      current.shared = SharedState.zeroed := by
  have handshake : ∃ connection current secret,
      serve stillEnv [publicKeyPacket 1] freshConnection (World.opened SharedState.zeroed) =
        .again connection current ∧ connection.sessionKey = deriveSessionKey secret 64 := by
    rw [serve, handlePacket_handshake stillEnv _ rfl, answerHandshake]
    exact ⟨_, _, _, rfl, rfl⟩
  obtain ⟨connection, current, secret, served, keyed⟩ := handshake
  obtain ⟨start, _, sendable⟩ :=
    exists_corrupted secret opReqRide (by decide : [(65 : UInt8)].length ≤ 1024)
  have raised : ∀ byte : UInt8, byte ≠ byte + 1 := by
    intro byte same
    exact absurd (UInt8.left_eq_add.mp same) (by decide)
  have inside : 0 < (rc4Encrypt start [65]).length := by
    rw [length_rc4Encrypt]
    decide
  obtain ⟨request, corrupted, _⟩ := sendable 0 _ inside (raised _)
  have detected := (corruption_detected corrupted stillEnv).2 (Vector.replicate _ 0)
    (Vector.replicate _ 0) (World.opened SharedState.zeroed)
    (.ofBytes (wires [publicKeyPacket 1, request])) [publicKeyPacket 1] [] connection current
    (ReadEnd.reliable_ofBytes _) (by simp) served keyed
  exact ⟨request, connection, current, served, keyed ▸ corrupted, detected.1, detected.2.1⟩

end RideHailing.Session
