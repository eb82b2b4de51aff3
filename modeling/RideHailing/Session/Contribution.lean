import RideHailing.Session.Exchange

/-!
# What each side contributes to the session key

Neither side looks at the public key that it receives.  For the two degenerate
residues every private key gives the same session key; for every other public
key the session key depends on the private key of the side that derives it.
-/

namespace RideHailing.Session

open RideHailing.Bytes
open RideHailing.Client
open RideHailing.Common
open RideHailing.Server

universe u

variable {γ : Type u} {publicKey priv : Int} {derive : Int → Option CString}

/-- The values of `generate_private_key`. -/
def PrivateKey (priv : Int) : Prop :=
  1 ≤ priv ∧ priv ≤ 100000

theorem privateKey_generatePrivateKey (rand : γ → Nat × γ) (random : γ) :
    PrivateKey (generatePrivateKey rand random).1 := by
  have small : (rand random).1 % 100000 < 100000 := Nat.mod_lt _ (by decide)
  constructor
  · simp only [generatePrivateKey]
    omega
  · simp only [generatePrivateKey]
    omega

/-- No handshake is completed, whatever the private key. -/
def Rejects (derive : Int → Option CString) : Prop :=
  ∀ priv, PrivateKey priv → derive priv = none

/-- The session key depends on the private key. -/
def Contributes (derive : Int → Option CString) : Prop :=
  ∃ first second, PrivateKey first ∧ PrivateKey second ∧ derive first ≠ derive second

/-- What a side derives that reads the public key and goes on. -/
def derivedKey (publicKey priv : Int) : Option CString :=
  some (deriveSessionKey (calculateSharedSecret publicKey priv) 64)

theorem not_rejects_derivedKey (publicKey : Int) : ¬ Rejects (derivedKey publicKey) := by
  intro rejects
  cases rejects 1 ⟨by decide, by decide⟩

theorem contributes_derivedKey_iff (publicKey : Int) :
    Contributes (derivedKey publicKey) ↔ ¬ DegenerateKey publicKey := by
  constructor
  · rintro ⟨first, second, firstKey, secondKey, differs⟩ degenerate
    apply differs
    rw [derivedKey, derivedKey, calculateSharedSecret_degenerate degenerate firstKey.1,
      calculateSharedSecret_degenerate degenerate secondKey.1]
  · intro regular
    refine ⟨1, 2, ⟨by decide, by decide⟩, ⟨by decide, by decide⟩, fun same => regular ?_⟩
    exact degenerate_of_same (Option.some.inj same)

/-! ## The two sides -/

/-- The outside of a worker that draws a given private key. -/
def Drawing (env : Env γ) (priv : Int) : Env γ :=
  { env with generatePrivateKey := fun outside => (priv, outside) }

/-- The session key that the server holds after it handled a packet, or `none`
when it ended the connection. -/
def serverSessionKey (env : Env γ) (connection : Connection) (world : World γ) (packet : Packet)
    (priv : Int) : Option CString :=
  match handlePacket (Drawing env priv) (connection.receive packet) world with
  | .again next _ => some next.sessionKey
  | .exit _ => none

/-- The session key of `perform_dh_handshake`. -/
def clientSessionKey (respHeader : Region ProtocolHeader.size) (respBody : Region handshakeDataSize)
    (channel : Channel) (priv : Int) : Option CString :=
  (performDhHandshake priv respHeader respBody channel).1

theorem publicKeyField_receive (lower : -2 ^ 63 ≤ publicKey) (upper : publicKey < 2 ^ 63)
    {packet : Packet} (carries : packet.body = encodeHandshakeData publicKey)
    (connection : Connection) :
    publicKeyField (connection.receive packet).body.bytes = publicKey := by
  have inside : (encodeHandshakeData publicKey).length ≤ 1024 := by
    rw [length_encodeHandshakeData]
    decide
  rw [Connection.receive, carries, Region.bytes_write _ inside]
  exact publicKeyField_encodeHandshakeData lower upper _

theorem serverSessionKey_eq (lower : -2 ^ 63 ≤ publicKey) (upper : publicKey < 2 ^ 63)
    {packet : Packet} (isHandshake : packet.header.type = msgTypeHandshake)
    (carries : packet.body = encodeHandshakeData publicKey) (env : Env γ)
    (connection : Connection) (world : World γ) :
    serverSessionKey env connection world packet = derivedKey publicKey := by
  funext priv
  rw [serverSessionKey, handlePacket_handshake _ _ isHandshake, derivedKey,
    ← publicKeyField_receive lower upper carries connection]
  rfl

theorem clientSessionKey_eq (lower : -2 ^ 63 ≤ publicKey) (upper : publicKey < 2 ^ 63)
    {channel : Channel} (reliable : channel.Reliable) {header : ProtocolHeader} {rest : List UInt8}
    (isAck : header.type = msgTypeHandshakeAck)
    (bytes : channel.reads.bytes = header.encode ++ (encodeHandshakeData publicKey ++ rest))
    (respHeader : Region ProtocolHeader.size) (respBody : Region handshakeDataSize) :
    clientSessionKey respHeader respBody channel = derivedKey publicKey := by
  funext priv
  obtain ⟨sent, handshake, _, reads, still⟩ :=
    performDhHandshake_reliable reliable priv respHeader respBody
  rw [← reads] at bytes
  obtain ⟨after, acknowledged, _⟩ :=
    receiveAck_reliable still isAck lower upper bytes priv respHeader respBody
  rw [clientSessionKey, handshake, acknowledged]
  rfl

/-- What a side does with a public key: it completes the handshake under every
private key; the session key depends on the private key exactly when the public
key is not degenerate, and it is the same key for every private key when it is. -/
structure KeyAgreement (publicKey : Int) (derive : Int → Option CString) : Prop where
  accepts : ∀ priv, PrivateKey priv → ∃ sessionKey, derive priv = some sessionKey
  contributes : Contributes derive ↔ ¬ DegenerateKey publicKey
  forced : DegenerateKey publicKey → ∀ priv, PrivateKey priv →
    derive priv = some (deriveSessionKey (publicKey.tmod dhPrime) 64)

theorem keyAgreement_derivedKey (publicKey : Int) :
    KeyAgreement publicKey (derivedKey publicKey) where
  accepts := fun _ _ => ⟨_, rfl⟩
  contributes := contributes_derivedKey_iff publicKey
  forced := by
    intro degenerate priv key
    rw [derivedKey, calculateSharedSecret_degenerate degenerate key.1]

/-- Every public key of 64 bits is accepted by both sides; each contributes to
the session key exactly when the public key is not degenerate. -/
theorem publicKey_agreement (lower : -2 ^ 63 ≤ publicKey) (upper : publicKey < 2 ^ 63) :
    (∀ (env : Env γ) (connection : Connection) (world : World γ) (packet : Packet),
      packet.header.type = msgTypeHandshake → packet.body = encodeHandshakeData publicKey →
      KeyAgreement publicKey (serverSessionKey env connection world packet)) ∧
    ∀ (respHeader : Region ProtocolHeader.size) (respBody : Region handshakeDataSize)
        (channel : Channel) (header : ProtocolHeader) (rest : List UInt8),
      channel.Reliable → header.type = msgTypeHandshakeAck →
      channel.reads.bytes = header.encode ++ (encodeHandshakeData publicKey ++ rest) →
      KeyAgreement publicKey (clientSessionKey respHeader respBody channel) := by
  constructor
  · intro env connection world packet isHandshake carries
    rw [serverSessionKey_eq lower upper isHandshake carries]
    exact keyAgreement_derivedKey publicKey
  · intro respHeader respBody channel header rest reliable isAck bytes
    rw [clientSessionKey_eq lower upper reliable isAck bytes]
    exact keyAgreement_derivedKey publicKey

/-- A handshake packet with a public key of the sender's choice. -/
def publicKeyPacket (publicKey : Int) : Packet where
  header := handshakeHeader
  body := encodeHandshakeData publicKey
  length_eq := length_encodeHandshakeData publicKey
  fits := handshakeData_fits

/-- The server's buffers when they hold zeros, before any packet. -/
def freshConnection : Connection :=
  Connection.opened (Vector.replicate _ 0) (Vector.replicate _ 0)

/-- A client whose server acknowledges with a public key of its choice. -/
def acknowledgedChannel (publicKey : Int) : Channel where
  reads := .ofBytes (handshakeResponseHeader.encode ++ (encodeHandshakeData publicKey ++ []))
  writes := []
  sent := []

theorem acknowledgedChannel_reliable (publicKey : Int) :
    (acknowledgedChannel publicKey).Reliable ∧ (acknowledgedChannel publicKey).reads.bytes =
      handshakeResponseHeader.encode ++ (encodeHandshakeData publicKey ++ []) := by
  constructor
  · constructor
    · simp only [acknowledgedChannel]
      exact ReadEnd.reliable_ofBytes _
    · exact WriteEnd.reliable_nil
  · simp only [acknowledgedChannel, ReadEnd.bytes_ofBytes]

theorem publicKey_agreement_five :
    KeyAgreement 5 (serverSessionKey stillEnv freshConnection (World.opened SharedState.zeroed)
      (publicKeyPacket 5)) ∧
    KeyAgreement 5 (clientSessionKey (.zero _) (.zero _) (acknowledgedChannel 5)) := by
  obtain ⟨server, client⟩ :=
    publicKey_agreement (γ := Unit) (by norm_num : -2 ^ 63 ≤ (5 : Int)) (by norm_num)
  obtain ⟨reliable, bytes⟩ := acknowledgedChannel_reliable 5
  constructor
  · exact server stillEnv freshConnection _ _ rfl rfl
  · exact client _ _ _ handshakeResponseHeader [] reliable rfl bytes

/-- The public key 1 is accepted by both sides and forces the session key of the
secret 1 on them. -/
theorem not_contributes_one :
    (¬ Rejects (serverSessionKey stillEnv freshConnection (World.opened SharedState.zeroed)
        (publicKeyPacket 1)) ∧
      ¬ Contributes (serverSessionKey stillEnv freshConnection (World.opened SharedState.zeroed)
        (publicKeyPacket 1))) ∧
    ¬ Rejects (clientSessionKey (.zero _) (.zero _) (acknowledgedChannel 1)) ∧
      ¬ Contributes (clientSessionKey (.zero _) (.zero _) (acknowledgedChannel 1)) := by
  have degenerate : DegenerateKey 1 := by decide
  have forced : ¬ Contributes (derivedKey 1) := fun contributes =>
    (contributes_derivedKey_iff 1).mp contributes degenerate
  obtain ⟨reliable, bytes⟩ := acknowledgedChannel_reliable 1
  have lower : -2 ^ 63 ≤ (1 : Int) := by norm_num
  have upper : (1 : Int) < 2 ^ 63 := by norm_num
  have isHandshake : (publicKeyPacket 1).header.type = msgTypeHandshake := rfl
  have carries : (publicKeyPacket 1).body = encodeHandshakeData 1 := rfl
  rw [serverSessionKey_eq lower upper isHandshake carries,
    clientSessionKey_eq lower upper reliable rfl bytes]
  exact ⟨⟨not_rejects_derivedKey 1, forced⟩, not_rejects_derivedKey 1, forced⟩

end RideHailing.Session
