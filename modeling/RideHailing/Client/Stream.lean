import RideHailing.Client.Core

/-!
# The client on an arbitrary stream

What `perform_dh_handshake` and `perform_ride_request` make of the bytes that
the server sends before it closes, however many they are.  Both test the counts
of `recv_n` with `<= 0` only, so a body may be read that is not complete.
-/

namespace RideHailing.Client

open RideHailing.Bytes
open RideHailing.Common

variable {channel : Channel}

/-- One `recv_n` takes what there is, up to the count. -/
theorem Channel.receive_eq {n : Nat} (reliable : channel.Reliable) (buffer : Region n)
    (count : Nat) :
    ∃ after, channel.receive buffer count =
        (((channel.reads.bytes.take count).length : Int),
          buffer.write (channel.reads.bytes.take count), after) ∧
      after.reads.bytes = channel.reads.bytes.drop count ∧ after.Reliable := by
  obtain ⟨ret, stored, remaining, still⟩ := recvN_reliable reliable.reads count
  refine ⟨{ channel with reads := (recvN channel.reads count).rest }, ?_, remaining,
    ⟨still, reliable.writes⟩⟩
  rw [receive, ret, stored]

/-- A header with something behind it is received in full. -/
theorem header_complete {stream : List UInt8} (long : ProtocolHeader.size < stream.length) :
    (stream.take ProtocolHeader.size).length = ProtocolHeader.size ∧
      ¬ (((stream.take ProtocolHeader.size).length : Int) ≤ 0) := by
  have whole : (stream.take ProtocolHeader.size).length = ProtocolHeader.size := by
    rw [List.length_take, Nat.min_eq_left (Nat.le_of_lt long)]
  have positive : 0 < ProtocolHeader.size := by decide
  exact ⟨whole, by omega⟩

/-- Then at least one byte of the body is received, too. -/
theorem body_started {stream : List UInt8} (long : ProtocolHeader.size < stream.length)
    {count : Nat} (positive : 0 < count) :
    ¬ ((((stream.drop ProtocolHeader.size).take count).length : Int) ≤ 0) := by
  rw [List.length_take, List.length_drop]
  omega

/-! ## The acknowledgement -/

/-- The stream starts with a header of the expected type and one more byte. -/
def AckArrives (stream : List UInt8) : Prop :=
  ProtocolHeader.size < stream.length ∧
    (ProtocolHeader.decode (stream.take ProtocolHeader.size)).type = msgTypeHandshakeAck

instance (stream : List UInt8) : Decidable (AckArrives stream) :=
  inferInstanceAs (Decidable (_ ∧ _))

/-- The key that the client derives from the bytes after the header; where they
are fewer than eight, the rest is what the buffer held before. -/
def ackKey (myPriv : Int) (respBody : Region handshakeDataSize) (stream : List UInt8) : CString :=
  deriveSessionKey (calculateSharedSecret (publicKeyField (respBody.write
    ((stream.drop ProtocolHeader.size).take handshakeDataSize)).bytes) myPriv) 64

/-- The handshake on an arbitrary stream. -/
theorem receiveAck_eq (reliable : channel.Reliable) (myPriv : Int)
    (respHeader : Region ProtocolHeader.size) (respBody : Region handshakeDataSize) :
    ∃ after, receiveAck myPriv respHeader respBody channel =
        (if AckArrives channel.reads.bytes then some (ackKey myPriv respBody channel.reads.bytes)
          else none, after) ∧
      (AckArrives channel.reads.bytes → after.reads.bytes =
        channel.reads.bytes.drop (ProtocolHeader.size + handshakeDataSize)) ∧
      after.Reliable := by
  obtain ⟨middle, first, middleBytes, middleReliable⟩ :=
    Channel.receive_eq reliable respHeader ProtocolHeader.size
  obtain ⟨after, second, afterBytes, afterReliable⟩ :=
    Channel.receive_eq middleReliable respBody handshakeDataSize
  rw [middleBytes] at second
  rw [middleBytes, List.drop_drop] at afterBytes
  unfold receiveAck
  simp only [first, second]
  by_cases long : ProtocolHeader.size < channel.reads.bytes.length
  · obtain ⟨whole, headerArrived⟩ := header_complete long
    have bodyArrived := body_started long (by decide : 0 < handshakeDataSize)
    rw [if_neg headerArrived, if_neg bodyArrived, Region.bytes_write_of_length_eq _ whole]
    by_cases isAck : (ProtocolHeader.decode
        (channel.reads.bytes.take ProtocolHeader.size)).type = msgTypeHandshakeAck
    · rw [if_neg (not_not_intro isAck)]
      refine ⟨after, ?_, fun _ => afterBytes, afterReliable⟩
      rw [if_pos ⟨long, isAck⟩]
      rfl
    · rw [if_pos isAck]
      refine ⟨middle, ?_, fun arrives => absurd arrives.2 isAck, middleReliable⟩
      rw [if_neg fun arrives => isAck arrives.2]
  · have notArrives : ¬ AckArrives channel.reads.bytes := fun arrives => long arrives.1
    have nothing : (((channel.reads.bytes.drop ProtocolHeader.size).take
        handshakeDataSize).length : Int) ≤ 0 := by
      rw [List.length_take, List.length_drop]
      omega
    rw [if_neg notArrives, if_pos nothing]
    split
    · exact ⟨middle, rfl, fun arrives => absurd arrives notArrives, middleReliable⟩
    · split
      · exact ⟨middle, rfl, fun arrives => absurd arrives notArrives, middleReliable⟩
      · exact ⟨after, rfl, fun arrives => absurd arrives notArrives, afterReliable⟩

/-- The handshake fails unless an acknowledgement arrives, if only its first
byte. -/
theorem performDhHandshake_eq (reliable : channel.Reliable) (myPriv : Int)
    (respHeader : Region ProtocolHeader.size) (respBody : Region handshakeDataSize) :
    ∃ after, performDhHandshake myPriv respHeader respBody channel =
        (if AckArrives channel.reads.bytes then some (ackKey myPriv respBody channel.reads.bytes)
          else none, after) ∧
      (AckArrives channel.reads.bytes → after.reads.bytes =
        channel.reads.bytes.drop (ProtocolHeader.size + handshakeDataSize)) ∧
      after.Reliable := by
  obtain ⟨sent, handshake, _, reads, still⟩ :=
    performDhHandshake_reliable reliable myPriv respHeader respBody
  obtain ⟨after, acknowledged, rest, final⟩ := receiveAck_eq still myPriv respHeader respBody
  rw [reads] at acknowledged rest
  exact ⟨after, handshake.trans acknowledged, rest, final⟩

/-! ## The response -/

/-- The message buffer after the body announced by the header was read, as far
as it arrived, and decrypted. -/
def decryptedAnswer (key : Rc4State) (msgBuffer : Region 1024) (stream : List UInt8) :
    Region 1024 :=
  let length := (ProtocolHeader.decode (stream.take ProtocolHeader.size)).length.toNat
  decryptResponse key length
    (msgBuffer.write ((stream.drop ProtocolHeader.size).take length))

/-- The stream passes for an answer of the server: at least one byte follows the
header, and the decrypted buffer bears the header's checksum and one of the two
texts. -/
def PassesForAnswer (key : Rc4State) (msgBuffer : Region 1024) (stream : List UInt8) : Prop :=
  let header := ProtocolHeader.decode (stream.take ProtocolHeader.size)
  let message := decryptedAnswer key msgBuffer stream
  ProtocolHeader.size < stream.length ∧ 0 < header.length.toNat ∧ header.length.toNat < 1024 ∧
    calculateChecksum message.bytes header.length.toNat = header.checksum ∧
    (ascii "Ride Confirmed!" <:+: message.cString ∨ ascii "Blocked." <:+: message.cString)

theorem classify_eq_neg_one_iff (message : CString) :
    classify message = -1 ↔
      ¬ (ascii "Ride Confirmed!" <:+: message ∨ ascii "Blocked." <:+: message) := by
  unfold classify
  by_cases confirmed : ascii "Ride Confirmed!" <:+: message
  · simp [confirmed]
  · by_cases blocked : ascii "Blocked." <:+: message
    · simp [confirmed, blocked]
    · simp [confirmed, blocked]

/-- Without a byte after the header the response fails. -/
theorem receiveResponse_short (reliable : channel.Reliable) (sessionKey : CString)
    (respHeader : Region ProtocolHeader.size) (msgBuffer : Region 1024)
    (short : channel.reads.bytes.length ≤ ProtocolHeader.size) :
    ∃ outcome, receiveResponse sessionKey respHeader msgBuffer channel = some outcome ∧
      outcome.ret = -1 := by
  obtain ⟨middle, first, middleBytes, middleReliable⟩ :=
    Channel.receive_eq reliable respHeader ProtocolHeader.size
  obtain ⟨after, second, _, _⟩ := Channel.receive_eq middleReliable msgBuffer
    (ProtocolHeader.decode (respHeader.write
      (channel.reads.bytes.take ProtocolHeader.size)).bytes).length.toNat
  rw [middleBytes, List.drop_of_length_le short, List.take_nil] at second
  unfold receiveResponse
  simp only [first]
  split
  · exact ⟨_, rfl, rfl⟩
  · split
    · simp only [second, List.length_nil, Nat.cast_zero, Int.le_refl, if_true]
      exact ⟨_, rfl, rfl⟩
    · exact ⟨_, rfl, rfl⟩

/-- The end of `perform_ride_request` on an arbitrary stream. -/
theorem receiveResponse_fails_iff (reliable : channel.Reliable) {sessionKey : CString}
    {key : Rc4State} (scheduled : keySchedule sessionKey = some key)
    (respHeader : Region ProtocolHeader.size) {msgBuffer : Region 1024}
    (writable : msgBuffer.writable = true) :
    ∃ outcome, receiveResponse sessionKey respHeader msgBuffer channel = some outcome ∧
      (outcome.ret = -1 ↔ ¬ PassesForAnswer key msgBuffer channel.reads.bytes) := by
  by_cases long : ProtocolHeader.size < channel.reads.bytes.length
  · obtain ⟨middle, first, middleBytes, middleReliable⟩ :=
      Channel.receive_eq reliable respHeader ProtocolHeader.size
    obtain ⟨whole, headerArrived⟩ := header_complete long
    unfold receiveResponse
    simp only [first]
    rw [if_neg headerArrived, Region.bytes_write_of_length_eq _ whole]
    generalize header_eq : ProtocolHeader.decode
      (channel.reads.bytes.take ProtocolHeader.size) = header
    by_cases announced : 0 < header.length.toNat ∧ header.length.toNat < 1024
    · obtain ⟨after, second, _, _⟩ :=
        Channel.receive_eq middleReliable msgBuffer header.length.toNat
      rw [middleBytes] at second
      have stored : (msgBuffer.write ((channel.reads.bytes.drop ProtocolHeader.size).take
          header.length.toNat)).writable = true := writable
      rw [if_pos announced]
      simp only [second]
      rw [if_neg (body_started long announced.1), readResponse_eq scheduled header stored]
      refine ⟨_, rfl, ?_⟩
      have message_eq : decryptedAnswer key msgBuffer channel.reads.bytes =
          decryptResponse key header.length.toNat (msgBuffer.write
            ((channel.reads.bytes.drop ProtocolHeader.size).take header.length.toNat)) := by
        rw [decryptedAnswer, header_eq]
      rw [PassesForAnswer, header_eq, message_eq]
      simp only [long, announced, true_and]
      split
      next differs => simp [differs]
      next agrees =>
        rw [classify_eq_neg_one_iff, not_not.mp agrees]
        simp
    · rw [if_neg announced]
      refine ⟨_, rfl, iff_of_true rfl ?_⟩
      rw [PassesForAnswer, header_eq]
      exact fun passes => announced ⟨passes.2.1, passes.2.2.1⟩
  · obtain ⟨outcome, response, failed⟩ := receiveResponse_short reliable sessionKey respHeader
      msgBuffer (Nat.le_of_not_lt long)
    exact ⟨outcome, response, iff_of_true failed fun passes => long passes.1⟩

/-! ## The whole request -/

/-- The stream passes for an acknowledgement with an answer after it. -/
def PassesForExchange (myPriv : Int) (buffers : Buffers) (stream : List UInt8) : Prop :=
  AckArrives stream ∧ ∃ key,
    keySchedule (ackKey myPriv (.ofVector buffers.handshakeBody) stream) = some key ∧
    PassesForAnswer key (.ofVector buffers.message)
      (stream.drop (ProtocolHeader.size + handshakeDataSize))

/-- `perform_ride_request` on an arbitrary stream never crashes, and it reports
a failure unless the stream passes for a whole exchange. -/
theorem performRideRequestWith_fails_iff (reliable : channel.Reliable) (myPriv : Int)
    {reqBody : Region rideRequestDataSize} (writable : reqBody.writable = true)
    (buffers : Buffers) :
    ∃ outcome, performRideRequestWith myPriv reqBody buffers channel = some outcome ∧
      (outcome.ret = -1 ↔ ¬ PassesForExchange myPriv buffers channel.reads.bytes) := by
  obtain ⟨after, handshake, rest, still⟩ := performDhHandshake_eq reliable myPriv
    (.ofVector buffers.handshakeHeader) (.ofVector buffers.handshakeBody)
  unfold performRideRequestWith
  simp only [handshake]
  by_cases arrives : AckArrives channel.reads.bytes
  · obtain ⟨key, scheduled⟩ : ∃ key, keySchedule
        (ackKey myPriv (.ofVector buffers.handshakeBody) channel.reads.bytes) = some key :=
      keySchedule_deriveSessionKey _
    obtain ⟨sent, request, _, reads, final⟩ := sendRequest_reliable still scheduled writable
      (.ofVector buffers.responseHeader) (.ofVector buffers.message)
    obtain ⟨outcome, received, fails⟩ := receiveResponse_fails_iff final scheduled
      (.ofVector buffers.responseHeader) (Region.writable_ofVector buffers.message)
    rw [reads, rest arrives] at fails
    rw [if_pos arrives]
    refine ⟨outcome, request.trans received, fails.trans (not_congr ?_)⟩
    rw [PassesForExchange, scheduled]
    constructor
    · intro passes
      exact ⟨arrives, key, rfl, passes⟩
    · rintro ⟨_, other, same, passes⟩
      rwa [Option.some.inj same]
  · rw [if_neg arrives]
    exact ⟨_, rfl, iff_of_true rfl fun passes => arrives passes.1⟩

end RideHailing.Client
