import RideHailing.Client.Core

/-!
# The malicious client

`perform_malicious_request` encrypts its request under a constant of its own,
without a handshake, and reads the answer as it is.  The type of its header and
the type of its body are never assigned: both hold what the stack holds.
-/

namespace RideHailing.Client

open RideHailing.Bytes
open RideHailing.Common

/-- `WRONG_SECRET_KEY`. -/
def wrongSecretKey : CString :=
  ascii "HACKER_WRONG_2025_KEY!"

/-- The body, over what `req_body.type` happens to hold. -/
def maliciousData (filler : UInt32) (clientId : Int) : RideRequestData :=
  { rideRequestData clientId with type := filler }

/-- The header, over what `req_header.type` happens to hold. -/
def maliciousHeader (padding : UInt8) (body : List UInt8) : ProtocolHeader :=
  { requestHeader body with type := padding }

/-- The part of `perform_malicious_request` after the request was sent. -/
def readReply (respHeader : Region ProtocolHeader.size) (msgBuffer : Region 1024)
    (channel : Channel) : Int × Region 1024 × Channel :=
  let gotHeader := channel.receive respHeader ProtocolHeader.size
  if 0 < gotHeader.1 then
    let length := (ProtocolHeader.decode gotHeader.2.1.bytes).length.toNat
    if 0 < length ∧ length < 1024 then
      let gotBody := gotHeader.2.2.receive msgBuffer length
      if 0 < gotBody.1 then (0, gotBody.2.1.set length 0, gotBody.2.2)
      else (-1, gotBody.2.1, gotBody.2.2)
    else (-1, msgBuffer, gotHeader.2.2)
  else (-1, msgBuffer, gotHeader.2.2)

/-- `perform_malicious_request`. -/
def performMaliciousRequest (padding : UInt8) (filler : UInt32) (clientId : Int)
    (respHeader : Region ProtocolHeader.size) (msgBuffer : Region 1024) (channel : Channel) :
    Option (Int × Region 1024 × Channel) :=
  let reqBody := requestRegion (maliciousData filler clientId)
  (rc4Crypt reqBody rideRequestDataSize wrongSecretKey).map fun encrypted =>
    let sentHeader := channel.send (maliciousHeader padding reqBody.bytes).encode
    if sentHeader.1 ≤ 0 then (-1, msgBuffer, sentHeader.2)
    else
      let sentBody := sentHeader.2.send encrypted.bytes
      if sentBody.1 ≤ 0 then (-1, msgBuffer, sentBody.2)
      else readReply respHeader msgBuffer sentBody.2

theorem wrongSecretKey_scheduled : ∃ key, keySchedule wrongSecretKey = some key := by
  apply keySchedule_of_valid
  constructor
  · simp [wrongSecretKey, ascii]
  · simp [wrongSecretKey, ascii]

variable {channel : Channel}

/-- On a lossless socket the forged request is sent whole. -/
theorem performMaliciousRequest_reliable (reliable : channel.Reliable) {key : Rc4State}
    (scheduled : keySchedule wrongSecretKey = some key) (padding : UInt8) (filler : UInt32)
    (clientId : Int) (respHeader : Region ProtocolHeader.size) (msgBuffer : Region 1024) :
    ∃ after, performMaliciousRequest padding filler clientId respHeader msgBuffer channel =
        some (readReply respHeader msgBuffer after) ∧
      after.sent = channel.sent ++
        ((maliciousHeader padding (maliciousData filler clientId).encode).encode ++
          rc4Encrypt key (maliciousData filler clientId).encode) ∧
      after.reads = channel.reads ∧ after.Reliable := by
  have whole := (maliciousData filler clientId).length_encode
  have all : (maliciousData filler clientId).encode.take rideRequestDataSize =
      (maliciousData filler clientId).encode := List.take_of_length_le (Nat.le_of_eq whole)
  have size : (rc4Encrypt key (maliciousData filler clientId).encode).length =
      rideRequestDataSize := by
    rw [length_rc4Encrypt, whole]
  have writable : (requestRegion (maliciousData filler clientId)).writable = true := rfl
  have bytes : (requestRegion (maliciousData filler clientId)).bytes =
      (maliciousData filler clientId).encode := rfl
  have encrypted : rc4Crypt (requestRegion (maliciousData filler clientId)) rideRequestDataSize
      wrongSecretKey = _ := rc4Crypt_eq_some scheduled writable
  rw [bytes, all] at encrypted
  obtain ⟨middle, first, firstSent, firstReads, middleReliable⟩ := Channel.send_reliable reliable
    (maliciousHeader padding (maliciousData filler clientId).encode).encode
  obtain ⟨after, second, secondSent, secondReads, afterReliable⟩ := Channel.send_reliable
    middleReliable (rc4Encrypt key (maliciousData filler clientId).encode)
  rw [ProtocolHeader.length_encode] at first
  rw [size] at second
  refine ⟨after, ?_, ?_, secondReads.trans firstReads, afterReliable⟩
  · rw [performMaliciousRequest]
    simp only [encrypted, Option.map_some, bytes, first, Region.bytes_write_of_length_eq _ size,
      second]
    rfl
  · rw [secondSent, firstSent, List.append_assoc]

/-- A peer that closes without a word makes the attack fail. -/
theorem readReply_end (reliable : channel.Reliable) (ended : channel.reads.bytes = [])
    (respHeader : Region ProtocolHeader.size) (msgBuffer : Region 1024) :
    (readReply respHeader msgBuffer channel).1 = -1 := by
  obtain ⟨ret, _⟩ := recvN_reliable reliable.reads ProtocolHeader.size
  rw [ended] at ret
  have nothing : ¬ 0 < (channel.receive respHeader ProtocolHeader.size).1 :=
    Int.not_lt.mpr (Int.le_of_eq ret)
  rw [readReply]
  simp only [if_neg nothing]

/-- Reading the answer sends nothing. -/
theorem readReply_sent (respHeader : Region ProtocolHeader.size) (msgBuffer : Region 1024)
    (channel : Channel) : (readReply respHeader msgBuffer channel).2.2.sent = channel.sent := by
  rw [readReply]
  simp only
  split
  · split
    · split
      · rfl
      · rfl
    · rfl
  · rfl

/-- An answer that arrives in full is taken as it is, whatever its header says
apart from its length. -/
theorem readReply_reliable (reliable : channel.Reliable) {header : ProtocolHeader}
    {text rest : List UInt8} (size : header.length.toNat = text.length)
    (positive : 0 < text.length) (fits : text.length < 1024)
    (bytes : channel.reads.bytes = header.encode ++ (text ++ rest))
    (respHeader : Region ProtocolHeader.size) (msgBuffer : Region 1024) :
    ∃ after, readReply respHeader msgBuffer channel =
      (0, msgBuffer.write (text ++ [0]), after) := by
  obtain ⟨middle, first, firstRest, _, middleReliable⟩ :=
    Channel.receive_reliable reliable bytes respHeader
  obtain ⟨after, second, _, _, _⟩ :=
    Channel.receive_reliable middleReliable firstRest msgBuffer
  rw [header.length_encode] at first
  rw [← size] at second
  have decoded : ProtocolHeader.decode (respHeader.write header.encode).bytes = header := by
    rw [Region.bytes_write_of_length_eq _ header.length_encode, ProtocolHeader.decode_encode]
  have headerArrived : 0 < ((ProtocolHeader.size : Nat) : Int) := by decide
  have bodyArrived : 0 < ((header.length.toNat : Nat) : Int) := by omega
  have accepts : 0 < header.length.toNat ∧ header.length.toNat < 1024 :=
    ⟨size ▸ positive, size ▸ fits⟩
  refine ⟨after, ?_⟩
  rw [readReply]
  simp only [first, decoded, if_pos headerArrived, if_pos accepts, second, if_pos bodyArrived]
  rw [size, Region.set_write _ fits]

end RideHailing.Client
