import RideHailing.Common.Net
import RideHailing.Common.Rc4
import RideHailing.Common.Protocol

/-!
# The client

`perform_ride_request` negotiates a key, sends one encrypted request and reads
one response.  Its received packets go into buffers that are not initialised,
and their types of failure are told apart by the return value only.
-/

namespace RideHailing.Client

open RideHailing.Bytes
open RideHailing.Common

/-! ## The socket -/

/-- The client's end of a connection with the bytes that it has sent. -/
structure Channel where
  reads : ReadEnd
  writes : WriteEnd
  sent : List UInt8

namespace Channel

/-- `send_n`, with its return value. -/
def send (channel : Channel) (data : List UInt8) : Int × Channel :=
  let result := sendN channel.writes data
  (result.ret,
    { channel with writes := result.rest, sent := channel.sent ++ result.transmitted })

/-- `recv_n` into a buffer, with its return value. -/
def receive {n : Nat} (channel : Channel) (buffer : Region n) (count : Nat) :
    Int × Region n × Channel :=
  let result := recvN channel.reads count
  (result.ret, buffer.write result.data, { channel with reads := result.rest })

/-- No call on the socket is answered by an error. -/
structure Reliable (channel : Channel) : Prop where
  reads : channel.reads.Reliable
  writes : channel.writes.Reliable

theorem send_reliable {channel : Channel} (reliable : channel.Reliable) (data : List UInt8) :
    ∃ after, channel.send data = ((data.length : Int), after) ∧ after.sent = channel.sent ++ data ∧
      after.reads = channel.reads ∧ after.Reliable := by
  obtain ⟨ret, transmitted, still⟩ := sendN_reliable reliable.writes data
  refine ⟨_, Prod.ext ret rfl, ?_, rfl, ⟨reliable.reads, still⟩⟩
  rw [send, transmitted]

theorem receive_keeps {n : Nat} {channel : Channel} (reliable : channel.Reliable)
    (buffer : Region n) (count : Nat) : (channel.receive buffer count).2.2.Reliable :=
  ⟨(recvN_reliable reliable.reads count).2.2.2, reliable.writes⟩

theorem receive_writable {n : Nat} (channel : Channel) (buffer : Region n) (count : Nat) :
    (channel.receive buffer count).2.1.writable = buffer.writable :=
  rfl

/-- The bytes at the front of a lossless stream are received in full. -/
theorem receive_reliable {n : Nat} {channel : Channel} (reliable : channel.Reliable)
    {data rest : List UInt8} (bytes : channel.reads.bytes = data ++ rest) (buffer : Region n) :
    ∃ after, channel.receive buffer data.length = ((data.length : Int), buffer.write data, after) ∧
      after.reads.bytes = rest ∧ after.sent = channel.sent ∧ after.Reliable := by
  obtain ⟨ret, stored, remaining, still⟩ := recvN_reliable reliable.reads data.length
  rw [bytes, List.take_left] at ret stored
  rw [bytes, List.drop_left] at remaining
  refine ⟨{ channel with reads := (recvN channel.reads data.length).rest }, ?_, remaining, rfl,
    ⟨still, reliable.writes⟩⟩
  rw [receive, ret, stored]

end Channel

/-! ## The handshake -/

/-- The header of the client's handshake. -/
def handshakeHeader : ProtocolHeader where
  length := UInt32.ofNat handshakeDataSize
  type := msgTypeHandshake
  opcode := opHandshake
  checksum := 0

/-- The part of `perform_dh_handshake` after the public key was sent. -/
def receiveAck (myPriv : Int) (respHeader : Region ProtocolHeader.size)
    (respBody : Region handshakeDataSize) (channel : Channel) : Option CString × Channel :=
  let gotHeader := channel.receive respHeader ProtocolHeader.size
  if gotHeader.1 ≤ 0 then (none, gotHeader.2.2)
  else if (ProtocolHeader.decode gotHeader.2.1.bytes).type ≠ msgTypeHandshakeAck then
    (none, gotHeader.2.2)
  else
    let gotBody := gotHeader.2.2.receive respBody handshakeDataSize
    if gotBody.1 ≤ 0 then (none, gotBody.2.2)
    else
      let serverPub := publicKeyField gotBody.2.1.bytes
      (some (deriveSessionKey (calculateSharedSecret serverPub myPriv) 64), gotBody.2.2)

/-- `perform_dh_handshake` with the private key drawn for it: the derived key,
or `none` for the return value -1. -/
def performDhHandshake (myPriv : Int) (respHeader : Region ProtocolHeader.size)
    (respBody : Region handshakeDataSize) (channel : Channel) : Option CString × Channel :=
  let sentHeader := channel.send handshakeHeader.encode
  if sentHeader.1 ≤ 0 then (none, sentHeader.2)
  else
    let sentBody := sentHeader.2.send (encodeHandshakeData (calculatePublicKey myPriv))
    if sentBody.1 ≤ 0 then (none, sentBody.2)
    else receiveAck myPriv respHeader respBody sentBody.2

/-- On a lossless socket both parts of the handshake are sent. -/
theorem performDhHandshake_reliable {channel : Channel} (reliable : channel.Reliable)
    (myPriv : Int) (respHeader : Region ProtocolHeader.size) (respBody : Region handshakeDataSize) :
    ∃ after, performDhHandshake myPriv respHeader respBody channel =
        receiveAck myPriv respHeader respBody after ∧
      after.sent = channel.sent ++ (handshakeHeader.encode ++
        encodeHandshakeData (calculatePublicKey myPriv)) ∧
      after.reads = channel.reads ∧ after.Reliable := by
  obtain ⟨middle, first, firstSent, firstReads, middleReliable⟩ :=
    Channel.send_reliable reliable handshakeHeader.encode
  obtain ⟨after, second, secondSent, secondReads, afterReliable⟩ :=
    Channel.send_reliable middleReliable (encodeHandshakeData (calculatePublicKey myPriv))
  refine ⟨after, ?_, ?_, secondReads.trans firstReads, afterReliable⟩
  · rw [performDhHandshake]
    simp only [first, second, ProtocolHeader.length_encode, length_encodeHandshakeData]
    rfl
  · rw [secondSent, firstSent, List.append_assoc]

/-- Receiving the acknowledgement sends nothing. -/
theorem receiveAck_keeps {channel : Channel} (reliable : channel.Reliable) (myPriv : Int)
    (respHeader : Region ProtocolHeader.size) (respBody : Region handshakeDataSize) :
    (receiveAck myPriv respHeader respBody channel).2.sent = channel.sent ∧
      (receiveAck myPriv respHeader respBody channel).2.Reliable := by
  have middle := Channel.receive_keeps reliable respHeader ProtocolHeader.size
  have final := Channel.receive_keeps middle respBody handshakeDataSize
  unfold receiveAck
  simp only
  split
  · exact ⟨rfl, middle⟩
  · split
    · exact ⟨rfl, middle⟩
    · split
      · exact ⟨rfl, final⟩
      · exact ⟨rfl, final⟩

/-- Whatever is received, a key that was accepted was derived by
`derive_session_key`. -/
theorem receiveAck_key {myPriv : Int} {respHeader : Region ProtocolHeader.size}
    {respBody : Region handshakeDataSize} {channel : Channel} {sessionKey : CString}
    (accepted : (receiveAck myPriv respHeader respBody channel).1 = some sessionKey) :
    ∃ secret, sessionKey = deriveSessionKey secret 64 := by
  unfold receiveAck at accepted
  simp only at accepted
  split at accepted
  · cases accepted
  · split at accepted
    · cases accepted
    · split at accepted
      · cases accepted
      · exact ⟨_, (Option.some.inj accepted).symm⟩

/-- An acknowledgement that arrives in full gives the key of its public key. -/
theorem receiveAck_reliable {channel : Channel} (reliable : channel.Reliable)
    {header : ProtocolHeader} {publicKey : Int} {rest : List UInt8}
    (isAck : header.type = msgTypeHandshakeAck) (lower : -2 ^ 63 ≤ publicKey)
    (upper : publicKey < 2 ^ 63)
    (bytes : channel.reads.bytes = header.encode ++ (encodeHandshakeData publicKey ++ rest))
    (myPriv : Int) (respHeader : Region ProtocolHeader.size) (respBody : Region handshakeDataSize) :
    ∃ after, receiveAck myPriv respHeader respBody channel =
        (some (deriveSessionKey (calculateSharedSecret publicKey myPriv) 64), after) ∧
      after.reads.bytes = rest ∧ after.sent = channel.sent ∧ after.Reliable := by
  obtain ⟨middle, first, firstRest, firstSent, middleReliable⟩ :=
    Channel.receive_reliable reliable bytes respHeader
  obtain ⟨after, second, secondRest, secondSent, afterReliable⟩ :=
    Channel.receive_reliable middleReliable firstRest respBody
  rw [header.length_encode] at first
  rw [length_encodeHandshakeData] at second
  have decoded : ProtocolHeader.decode (respHeader.write header.encode).bytes = header := by
    rw [Region.bytes_write_of_length_eq _ header.length_encode, ProtocolHeader.decode_encode]
  have field : publicKeyField (respBody.write (encodeHandshakeData publicKey)).bytes =
      publicKey := by
    rw [Region.bytes_write_of_length_eq _ (length_encodeHandshakeData publicKey)]
    simpa using publicKeyField_encodeHandshakeData lower upper []
  refine ⟨after, ?_, secondRest, secondSent.trans firstSent, afterReliable⟩
  rw [receiveAck]
  simp only [first, second, decoded, isAck, field]
  rfl

/-! ## The request -/

/-- The two constant coordinates of a request as IEEE bit patterns. -/
def pickupLat : UInt64 := 0x40390872b020c49c

def pickupLon : UInt64 := 0x405e642f837b4a23

/-- The body that `perform_ride_request` builds. -/
def rideRequestData (clientId : Int) : RideRequestData where
  clientId := UInt32.ofNat (clientId % 2 ^ 32).toNat
  type := if clientId ≤ 10 then 1 else 0
  lat := pickupLat
  lon := pickupLon

/-- The header of a request, with the checksum of its body before encryption. -/
def requestHeader (body : List UInt8) : ProtocolHeader where
  length := UInt32.ofNat rideRequestDataSize
  type := msgTypeRideReq
  opcode := opReqRide
  checksum := calculateChecksum body rideRequestDataSize

/-! ## The response -/

/-- What `perform_ride_request` leaves behind; `accepted` is the decrypted
response that passed the checksum test. -/
structure Outcome where
  ret : Int
  msgBuffer : Region 1024
  accepted : Option (List UInt8)
  channel : Channel

/-- The return value for an accepted response, by the two calls of `strstr`. -/
def classify (message : CString) : Int :=
  if ascii "Ride Confirmed!" <:+: message then 0
  else if ascii "Blocked." <:+: message then -2
  else -1

/-- The part of `perform_ride_request` after a response body was received. -/
def readResponse (header : ProtocolHeader) (sessionKey : CString) (msgBuffer : Region 1024)
    (channel : Channel) : Option Outcome :=
  let length := header.length.toNat
  (rc4Crypt (msgBuffer.set length 0) length sessionKey).map fun message =>
    if calculateChecksum message.bytes length ≠ header.checksum then
      { ret := -1, msgBuffer := message.snprintf 1024 (ascii "Checksum Mismatch"),
        accepted := none, channel }
    else
      { ret := classify message.cString, msgBuffer := message,
        accepted := some (message.bytes.take length), channel }

/-- The part of `perform_ride_request` after the request was sent.  `none` is a
crash of the client. -/
def receiveResponse (sessionKey : CString) (respHeader : Region ProtocolHeader.size)
    (msgBuffer : Region 1024) (channel : Channel) : Option Outcome :=
  let gotHeader := channel.receive respHeader ProtocolHeader.size
  if gotHeader.1 ≤ 0 then
    some { ret := -1, msgBuffer, accepted := none, channel := gotHeader.2.2 }
  else
    let header := ProtocolHeader.decode gotHeader.2.1.bytes
    if 0 < header.length.toNat ∧ header.length.toNat < 1024 then
      let gotBody := gotHeader.2.2.receive msgBuffer header.length.toNat
      if gotBody.1 ≤ 0 then
        some { ret := -1, msgBuffer := gotBody.2.1, accepted := none, channel := gotBody.2.2 }
      else readResponse header sessionKey gotBody.2.1 gotBody.2.2
    else some { ret := -1, msgBuffer, accepted := none, channel := gotHeader.2.2 }

/-- The part of `perform_ride_request` after the handshake, for an arbitrary
request body. -/
def sendRequest (sessionKey : CString) (reqBody : Region rideRequestDataSize)
    (respHeader : Region ProtocolHeader.size) (msgBuffer : Region 1024) (channel : Channel) :
    Option Outcome :=
  (rc4Crypt reqBody rideRequestDataSize sessionKey).bind fun encrypted =>
    let sentHeader := channel.send (requestHeader reqBody.bytes).encode
    if sentHeader.1 ≤ 0 then
      some { ret := -1, msgBuffer, accepted := none, channel := sentHeader.2 }
    else
      let sentBody := sentHeader.2.send encrypted.bytes
      if sentBody.1 ≤ 0 then
        some { ret := -1, msgBuffer, accepted := none, channel := sentBody.2 }
      else receiveResponse sessionKey respHeader msgBuffer sentBody.2

/-- On a lossless socket the encrypted request is sent. -/
theorem sendRequest_reliable {channel : Channel} (reliable : channel.Reliable)
    {sessionKey : CString} {key : Rc4State} (scheduled : keySchedule sessionKey = some key)
    {reqBody : Region rideRequestDataSize} (writable : reqBody.writable = true)
    (respHeader : Region ProtocolHeader.size) (msgBuffer : Region 1024) :
    ∃ after, sendRequest sessionKey reqBody respHeader msgBuffer channel =
        receiveResponse sessionKey respHeader msgBuffer after ∧
      after.sent = channel.sent ++
        ((requestHeader reqBody.bytes).encode ++ rc4Encrypt key reqBody.bytes) ∧
      after.reads = channel.reads ∧ after.Reliable := by
  have all : reqBody.bytes.take rideRequestDataSize = reqBody.bytes :=
    List.take_of_length_le (Nat.le_of_eq reqBody.length_eq)
  have size : (rc4Encrypt key reqBody.bytes).length = rideRequestDataSize := by
    rw [length_rc4Encrypt, reqBody.length_eq]
  have encrypted : rc4Crypt reqBody rideRequestDataSize sessionKey =
      some (reqBody.write (rc4Encrypt key reqBody.bytes)) := by
    rw [rc4Crypt_eq_some scheduled writable, all]
  obtain ⟨middle, first, firstSent, firstReads, middleReliable⟩ :=
    Channel.send_reliable reliable (requestHeader reqBody.bytes).encode
  obtain ⟨after, second, secondSent, secondReads, afterReliable⟩ :=
    Channel.send_reliable middleReliable (rc4Encrypt key reqBody.bytes)
  rw [ProtocolHeader.length_encode] at first
  rw [size] at second
  refine ⟨after, ?_, ?_, secondReads.trans firstReads, afterReliable⟩
  · rw [sendRequest, encrypted]
    simp only [Option.bind_some, first, Region.bytes_write_of_length_eq _ size, second]
    rfl
  · rw [secondSent, firstSent, List.append_assoc]

/-! ## Receiving a response -/

/-- The message buffer after the terminator was set and the body decrypted. -/
def decryptResponse (key : Rc4State) (length : Nat) (msgBuffer : Region 1024) : Region 1024 :=
  (msgBuffer.set length 0).write (rc4Encrypt key (msgBuffer.bytes.take length))

theorem take_decryptResponse (key : Rc4State) {length : Nat} (fits : length < 1024)
    (msgBuffer : Region 1024) :
    (decryptResponse key length msgBuffer).bytes.take length =
      rc4Encrypt key (msgBuffer.bytes.take length) := by
  have size : (rc4Encrypt key (msgBuffer.bytes.take length)).length = length := by
    rw [length_rc4Encrypt, List.length_take, msgBuffer.length_eq]
    exact Nat.min_eq_left (Nat.le_of_lt fits)
  have written := (msgBuffer.set length 0).take_bytes_write
    (Nat.le_trans (Nat.le_of_eq size) (Nat.le_of_lt fits))
  rwa [size] at written

/-- What the client makes of a complete body, for a key that was derived. -/
theorem readResponse_eq {sessionKey : CString} {key : Rc4State}
    (scheduled : keySchedule sessionKey = some key) (header : ProtocolHeader)
    {msgBuffer : Region 1024} (writable : msgBuffer.writable = true) (channel : Channel) :
    readResponse header sessionKey msgBuffer channel =
      let length := header.length.toNat
      let message := decryptResponse key length msgBuffer
      some (if calculateChecksum message.bytes length ≠ header.checksum then
        { ret := -1, msgBuffer := message.snprintf 1024 (ascii "Checksum Mismatch"),
          accepted := none, channel }
      else
        { ret := classify message.cString, msgBuffer := message,
          accepted := some (message.bytes.take length), channel }) := by
  have terminated : (msgBuffer.set header.length.toNat 0).writable = true := writable
  rw [readResponse, rc4Crypt_eq_some scheduled terminated, Region.take_bytes_set]
  rfl

/-- With a scheduled key the client never crashes, and it sends nothing after
its request. -/
theorem receiveResponse_total {sessionKey : CString} {key : Rc4State}
    (scheduled : keySchedule sessionKey = some key) (respHeader : Region ProtocolHeader.size)
    {msgBuffer : Region 1024} (writable : msgBuffer.writable = true) (channel : Channel) :
    ∃ outcome, receiveResponse sessionKey respHeader msgBuffer channel = some outcome ∧
      outcome.channel.sent = channel.sent := by
  unfold receiveResponse
  simp only
  split
  · exact ⟨_, rfl, rfl⟩
  · split
    · split
      · exact ⟨_, rfl, rfl⟩
      · rw [readResponse_eq scheduled _ ((Channel.receive_writable _ _ _).trans writable)]
        refine ⟨_, rfl, ?_⟩
        split
        · rfl
        · rfl
    · exact ⟨_, rfl, rfl⟩

/-- A client whose peer has closed the connection reports a failure. -/
theorem receiveResponse_end {channel : Channel} (reliable : channel.Reliable)
    (ended : channel.reads.bytes = []) (sessionKey : CString)
    (respHeader : Region ProtocolHeader.size) (msgBuffer : Region 1024) :
    ∃ outcome, receiveResponse sessionKey respHeader msgBuffer channel = some outcome ∧
      outcome.ret = -1 ∧ outcome.accepted = none := by
  obtain ⟨ret, _⟩ := recvN_reliable reliable.reads ProtocolHeader.size
  rw [ended] at ret
  have nothing : (channel.receive respHeader ProtocolHeader.size).1 ≤ 0 := Int.le_of_eq ret
  unfold receiveResponse
  simp only [if_pos nothing]
  exact ⟨_, rfl, rfl, rfl⟩

/-- A response that arrives in full is decrypted; it is accepted when it bears
its own checksum. -/
theorem receiveResponse_reliable {sessionKey : CString} {key : Rc4State}
    (scheduled : keySchedule sessionKey = some key) {channel : Channel}
    (reliable : channel.Reliable) {header : ProtocolHeader} {text rest : List UInt8}
    (size : header.length.toNat = text.length) (positive : 0 < text.length)
    (fits : text.length < 1024)
    (checksum : header.checksum = calculateChecksum text text.length)
    (bytes : channel.reads.bytes = header.encode ++ (rc4Encrypt key text ++ rest))
    (respHeader : Region ProtocolHeader.size) {msgBuffer : Region 1024}
    (writable : msgBuffer.writable = true) :
    ∃ outcome, receiveResponse sessionKey respHeader msgBuffer channel = some outcome ∧
      outcome.accepted = some text ∧ outcome.ret = classify outcome.msgBuffer.cString ∧
      (0 ∉ text → outcome.msgBuffer.cString = text) := by
  obtain ⟨middle, first, firstRest, firstSent, middleReliable⟩ :=
    Channel.receive_reliable reliable bytes respHeader
  obtain ⟨after, second, secondRest, secondSent, afterReliable⟩ :=
    Channel.receive_reliable middleReliable firstRest msgBuffer
  rw [header.length_encode] at first
  rw [length_rc4Encrypt, ← size] at second
  have decoded : ProtocolHeader.decode (respHeader.write header.encode).bytes = header := by
    rw [Region.bytes_write_of_length_eq _ header.length_encode, ProtocolHeader.decode_encode]
  have cipher : (msgBuffer.write (rc4Encrypt key text)).bytes.take header.length.toNat =
      rc4Encrypt key text := by
    have within : (rc4Encrypt key text).length ≤ 1024 := by
      rw [length_rc4Encrypt]
      exact Nat.le_of_lt fits
    have stored := msgBuffer.take_bytes_write within
    rwa [length_rc4Encrypt, ← size] at stored
  have plain := take_decryptResponse key (size ▸ fits) (msgBuffer.write (rc4Encrypt key text))
  rw [cipher, rc4Encrypt_rc4Encrypt] at plain
  let message := decryptResponse key header.length.toNat (msgBuffer.write (rc4Encrypt key text))
  have agrees : calculateChecksum message.bytes header.length.toNat = header.checksum := by
    rw [checksum, ← size]
    apply calculateChecksum_congr
    rw [plain, size, List.take_length]
  have accepts : 0 < header.length.toNat ∧ header.length.toNat < 1024 :=
    ⟨size ▸ positive, size ▸ fits⟩
  refine ⟨{ ret := classify message.cString, msgBuffer := message, accepted := some text,
            channel := after }, ?_, rfl, rfl, ?_⟩
  · have headerArrived : ¬ ((ProtocolHeader.size : Nat) : Int) ≤ 0 := by decide
    have bodyArrived : ¬ ((header.length.toNat : Nat) : Int) ≤ 0 := by omega
    have stored : (msgBuffer.write (rc4Encrypt key text)).writable = true := writable
    unfold receiveResponse
    simp only [first, decoded, if_neg headerArrived, if_pos accepts, second, if_neg bodyArrived]
    rw [readResponse_eq scheduled header stored]
    simp only [agrees, plain, message, ne_eq, not_true_eq_false, if_false]
  · intro noTerminator
    have terminated := (msgBuffer.write (rc4Encrypt key text)).drop_bytes_set accepts.2 0
    rw [size] at terminated
    have string := Region.cString_write _ (Nat.le_of_lt fits) noTerminator terminated
    simp only [message]
    rw [decryptResponse, cipher, rc4Encrypt_rc4Encrypt, size]
    exact string

/-- The buffers that receive packets, with what they hold before. -/
structure Buffers where
  handshakeHeader : Vector UInt8 ProtocolHeader.size
  handshakeBody : Vector UInt8 handshakeDataSize
  responseHeader : Vector UInt8 ProtocolHeader.size
  message : Vector UInt8 1024

/-- `perform_ride_request` on an arbitrary request body. -/
def performRideRequestWith (myPriv : Int) (reqBody : Region rideRequestDataSize)
    (buffers : Buffers) (channel : Channel) : Option Outcome :=
  let handshake := performDhHandshake myPriv (.ofVector buffers.handshakeHeader)
    (.ofVector buffers.handshakeBody) channel
  match handshake.1 with
  | none =>
      some
        { ret := -1
          msgBuffer := (Region.ofVector buffers.message).snprintf 1024 (ascii "Handshake Failed")
          accepted := none
          channel := handshake.2 }
  | some sessionKey =>
      sendRequest sessionKey reqBody (.ofVector buffers.responseHeader)
        (.ofVector buffers.message) handshake.2

/-- The request body as an object in memory. -/
def requestRegion (request : RideRequestData) : Region rideRequestDataSize where
  bytes := request.encode
  length_eq := request.length_encode

/-- `perform_ride_request`. -/
def performRideRequest (myPriv clientId : Int) (buffers : Buffers) (channel : Channel) :
    Option Outcome :=
  performRideRequestWith myPriv (requestRegion (rideRequestData clientId)) buffers channel

end RideHailing.Client
