import RideHailing.Session.Honest

/-!
# The keystreams of the two directions

`rc4_crypt` schedules its key anew on every call, and the client's request and
the server's response are encrypted under one key.  The two ciphertexts of a
session therefore start at the same place of the same keystream.
-/

namespace RideHailing.Session

open RideHailing.Cipher
open RideHailing.Client
open RideHailing.Common
open RideHailing.Fleet
open RideHailing.Server
open RideHailing.Transition

universe u

variable {γ : Type u} {env : Env γ} {exchange : Exchange γ}

/-- What an observer of the wire sees of a session, with the plaintext of the
response. -/
structure Observed (env : Env γ) (exchange : Exchange γ) (key : Rc4State)
    (text requestCipher responseCipher : List UInt8) : Prop where
  keys : ∃ sessionKey, exchange.clientKey = some sessionKey ∧ keySchedule sessionKey = some key
  request : ∃ header : ProtocolHeader, exchange.socket.bytes =
    (handshakePacket exchange.clientPriv).wire ++ (header.encode ++ requestCipher)
  response : ∃ header : ProtocolHeader, (exitWorld (exchange.server env)).sent =
    (exchange.acknowledged env).sent ++ (header.encode ++ responseCipher)
  accepted : ∃ outcome, exchange.client = some outcome ∧ outcome.accepted = some text

/-- Both ciphertexts are made by the same call under the same key. -/
theorem exists_observed (lossless : exchange.Lossless env)
    (reachable : Reachable secureServer exchange.world.shared)
    (allowed : (exchange.limiter env).1 = false)
    (sendable : ∀ state found, Sendable (env.response state found)) {key : Rc4State}
    (scheduled : keySchedule (exchange.serverKey env) = some key) :
    ∃ text, text ≠ [] ∧ Observed env exchange key text
      (rc4Encrypt key exchange.request.encode) (rc4Encrypt key text) := by
  obtain ⟨outcome, after, text, served⟩ :=
    exists_served lossless reachable allowed sendable scheduled
  refine ⟨text, served.nonempty, ⟨_, served.clientKey, scheduled⟩, ?_, ?_, ?_⟩
  · refine ⟨(requestPacket key exchange.request).header, ?_⟩
    rw [(lossless.packets scheduled).1, wires, List.flatMap_cons, List.flatMap_cons,
      List.flatMap_nil, List.append_nil]
    rfl
  · exact ⟨_, by rw [served.server, exitWorld, served.sent]⟩
  · exact ⟨outcome, served.client, served.accepted⟩

/-- In every session the request and the response are both encrypted from the
beginning of one keystream, so that the combination of the two ciphertexts is
that of the two plaintexts. -/
theorem observed_reuse (lossless : exchange.Lossless env)
    (reachable : Reachable secureServer exchange.world.shared)
    (allowed : (exchange.limiter env).1 = false)
    (sendable : ∀ state found, Sendable (env.response state found)) :
    ∃ key text requestCipher responseCipher,
      Observed env exchange key text requestCipher responseCipher ∧
      EncryptedFrom (· ^^^ ·) prgaStep key 0 exchange.request.encode requestCipher ∧
      EncryptedFrom (· ^^^ ·) prgaStep key 0 text responseCipher ∧
      List.zipWith (· ^^^ ·) requestCipher responseCipher =
        List.zipWith (· ^^^ ·) exchange.request.encode text := by
  obtain ⟨key, scheduled⟩ : ∃ key, keySchedule (exchange.serverKey env) = some key :=
    keySchedule_deriveSessionKey _
  obtain ⟨text, _, observed⟩ := exists_observed lossless reachable allowed sendable scheduled
  refine ⟨key, text, _, _, observed, ?_, ?_, ?_⟩
  · exact encryptedFrom_encrypt _ prgaStep key exchange.request.encode
  · exact encryptedFrom_encrypt _ prgaStep key text
  · exact zipWith_rc4Encrypt key exchange.request.encode text

theorem observed_reuse_firstExchange :
    ∃ exchange : Exchange Unit, exchange.request = rideRequestData 7 ∧
      ∃ key text requestCipher responseCipher,
        Observed plainEnv exchange key text requestCipher responseCipher ∧
        List.zipWith (· ^^^ ·) requestCipher responseCipher =
          List.zipWith (· ^^^ ·) (rideRequestData 7).encode text := by
  obtain ⟨key, scheduled⟩ := firstExchange_key
  obtain ⟨used, text, requestCipher, responseCipher, observed, _, _, combined⟩ :=
    observed_reuse (firstExchange_lossless scheduled) zeroed_reachable
      (firstExchange_allowed key) plainEnv_sendable
  exact ⟨_, rfl, used, text, requestCipher, responseCipher, observed, combined⟩

/-- Already the first session of a fresh server uses keystream positions for
both directions, and shows the combination of its plaintexts. -/
theorem not_disjoint_firstExchange :
    ∃ key text requestCipher responseCipher,
      (firstExchange.connected plainEnv key).Lossless plainEnv ∧
      Observed plainEnv (firstExchange.connected plainEnv key) key text requestCipher
        responseCipher ∧
      ¬ DisjointPositions (· ^^^ ·) prgaStep key (rideRequestData 7).encode requestCipher text
        responseCipher ∧
      List.zipWith (· ^^^ ·) requestCipher responseCipher =
        List.zipWith (· ^^^ ·) (rideRequestData 7).encode text := by
  obtain ⟨key, scheduled⟩ := firstExchange_key
  have lossless := firstExchange_lossless scheduled
  rw [← Exchange.connected_serverKey plainEnv firstExchange key] at scheduled
  obtain ⟨text, nonempty, observed⟩ := exists_observed lossless zeroed_reachable
    (firstExchange_allowed key) plainEnv_sendable scheduled
  have some : (rideRequestData 7).encode ≠ [] := by
    apply List.ne_nil_of_length_pos
    rw [RideRequestData.length_encode]
    decide
  refine ⟨key, text, _, _, lossless, observed, ?_, zipWith_rc4Encrypt key _ text⟩
  exact not_disjointPositions_encrypt _ prgaStep key some nonempty

end RideHailing.Session
