import RideHailing.Server.Dispatcher

/-!
# Connections as sequences of packets

On a reliable socket the division of the stream into calls does not matter, and
a stream of complete packets is served one packet at a time.  `serve` is this
packet-level reading of `handle_client`; the theorems here connect it to the
receive loop, and list once everything that one packet can cause.
-/

namespace RideHailing.Session

open RideHailing.Bytes
open RideHailing.Common
open RideHailing.Server

universe u

/-- A complete packet that the receive loop accepts. -/
structure Packet where
  header : ProtocolHeader
  body : List UInt8
  length_eq : body.length = header.length.toNat
  fits : header.length.toNat ≤ 1024

/-- The packet as it is on the stream. -/
def Packet.wire (packet : Packet) : List UInt8 :=
  packet.header.encode ++ packet.body

/-- The stream of several packets. -/
def wires (packets : List Packet) : List UInt8 :=
  packets.flatMap Packet.wire

theorem noBody_length : ([] : List UInt8).length = (0 : UInt32).toNat :=
  rfl

theorem noBody_fits : (0 : UInt32).toNat ≤ 1024 := by
  decide

theorem handshakeData_fits : (UInt32.ofNat handshakeDataSize).toNat ≤ 1024 := by
  decide

theorem rideRequestData_fits : (UInt32.ofNat rideRequestDataSize).toNat ≤ 1024 := by
  decide

/-- The ride request that an honest client puts on the stream: the header holds
the checksum of the body before encryption. -/
def sealRequest (key : Rc4State) (body : List UInt8) (size : body.length = rideRequestDataSize) :
    Packet where
  header :=
    { length := UInt32.ofNat rideRequestDataSize
      type := msgTypeRideReq
      opcode := opReqRide
      checksum := calculateChecksum body rideRequestDataSize }
  body := rc4Encrypt key body
  length_eq := by
    rw [length_rc4Encrypt, size]
    rfl
  fits := (by decide : (UInt32.ofNat rideRequestDataSize).toNat ≤ 1024)

end RideHailing.Session

namespace RideHailing.Server.Connection

open RideHailing.Common
open RideHailing.Session

/-- The buffers after a complete packet was received into them. -/
def receive (connection : Connection) (packet : Packet) : Connection :=
  { connection with
    header := connection.header.write packet.header.encode
    body := connection.body.write packet.body }

variable (connection : Connection) (packet : Packet)

@[simp]
theorem receive_header :
    ProtocolHeader.decode (connection.receive packet).header.bytes = packet.header := by
  rw [receive, Bytes.Region.bytes_write_of_length_eq _ packet.header.length_encode]
  exact ProtocolHeader.decode_encode packet.header

/-- The announced bytes of the buffer are those of the packet. -/
@[simp]
theorem receive_body_take :
    (connection.receive packet).body.bytes.take packet.header.length.toNat = packet.body := by
  rw [← packet.length_eq]
  exact Bytes.Region.take_bytes_write _ (packet.length_eq ▸ packet.fits)

@[simp]
theorem receive_sessionKey : (connection.receive packet).sessionKey = connection.sessionKey :=
  rfl

/-- The buffers after `rc4_crypt` on the received body. -/
def decrypt (start : Rc4State) : Connection :=
  { connection.receive packet with
    body := (connection.receive packet).body.write (rc4Encrypt start packet.body) }

@[simp]
theorem decrypt_header (start : Rc4State) :
    ProtocolHeader.decode (connection.decrypt packet start).header.bytes = packet.header :=
  connection.receive_header packet

/-- The announced bytes of the decrypted buffer. -/
theorem decrypt_body_take (start : Rc4State) :
    (connection.decrypt packet start).body.bytes.take packet.header.length.toNat =
      rc4Encrypt start packet.body := by
  have size : (rc4Encrypt start packet.body).length = packet.header.length.toNat := by
    rw [length_rc4Encrypt, packet.length_eq]
  rw [← size]
  exact Bytes.Region.take_bytes_write _ (size ▸ packet.fits)

/-- The checksum test of the code is that of the decrypted packet alone. -/
theorem calculateChecksum_decrypt (start : Rc4State) :
    calculateChecksum (connection.decrypt packet start).body.bytes packet.header.length.toNat =
      calculateChecksum (rc4Encrypt start packet.body) packet.header.length.toNat := by
  apply calculateChecksum_congr
  rw [decrypt_body_take, List.take_of_length_le]
  rw [length_rc4Encrypt, packet.length_eq]

theorem rc4Crypt_receive {start : Rc4State} (writable : connection.body.writable = true)
    (scheduled : keySchedule connection.sessionKey = some start) :
    rc4Crypt (connection.receive packet).body packet.header.length.toNat connection.sessionKey =
      some (connection.decrypt packet start).body := by
  have received : (connection.receive packet).body.writable = true := writable
  rw [rc4Crypt_eq_some scheduled received, receive_body_take]
  rfl

@[simp]
theorem receive_isKeyEstablished :
    (connection.receive packet).isKeyEstablished = connection.isKeyEstablished :=
  rfl

end RideHailing.Server.Connection

namespace RideHailing.Session

open RideHailing.Bytes
open RideHailing.Common
open RideHailing.Server

universe u

variable {γ : Type u}

/-! ## Serving packets -/

/-- Serve packets until one of them ends the connection. -/
def serve (env : Env γ) :
    List Packet → Connection → World γ → Control γ
  | [], connection, world => .again connection world
  | packet :: packets, connection, world =>
      match handlePacket env (connection.receive packet) world with
      | .again next later => serve env packets next later
      | .exit result => .exit result

theorem serve_append (env : Env γ) (first second : List Packet)
    (connection : Connection) (world : World γ) :
    serve env (first ++ second) connection world =
      match serve env first connection world with
      | .again next later => serve env second next later
      | .exit result => .exit result := by
  induction first generalizing connection world with
  | nil => rfl
  | cons packet first ih =>
      rw [List.cons_append, serve, serve]
      cases handlePacket env (connection.receive packet) world with
      | again next later => exact ih next later
      | exit result => rfl

/-- Once the connection has ended, the rest of the stream is not looked at. -/
theorem serve_append_exit {env : Env γ} {first : List Packet} {connection : Connection}
    {world : World γ} {result : Exit γ} (ended : serve env first connection world = .exit result)
    (second : List Packet) : serve env (first ++ second) connection world = .exit result := by
  rw [serve_append, ended]

theorem serve_append_again {env : Env γ} {first : List Packet} {connection next : Connection}
    {world later : World γ} (served : serve env first connection world = .again next later)
    (second : List Packet) :
    serve env (first ++ second) connection world = serve env second next later := by
  rw [serve_append, served]

/-! ## From the stream to packets -/

variable (env : Env γ) {socket : ReadEnd}

/-- A round without a packet: nothing arrives, the header announces more than the
buffer holds, or the body stays incomplete. -/
def RoundEnds (socket : ReadEnd) (connection : Connection) : Prop :=
  (recvN socket ProtocolHeader.size).ret ≤ 0 ∨
    1024 < (ProtocolHeader.decode (connection.header.write
      (recvN socket ProtocolHeader.size).data).bytes).length.toNat ∨
    receiveBody (ProtocolHeader.decode (connection.header.write
      (recvN socket ProtocolHeader.size).data).bytes).length.toNat
        (recvN socket ProtocolHeader.size).rest connection.body = none

/-- A round with a packet: what the body buffer and the socket are after it. -/
structure RoundReceives (socket : ReadEnd) (connection : Connection) (body : Region 1024)
    (rest : ReadEnd) : Prop where
  arrived : 0 < (recvN socket ProtocolHeader.size).ret
  fits : (ProtocolHeader.decode (connection.header.write
    (recvN socket ProtocolHeader.size).data).bytes).length.toNat ≤ 1024
  received : receiveBody (ProtocolHeader.decode (connection.header.write
    (recvN socket ProtocolHeader.size).data).bytes).length.toNat
      (recvN socket ProtocolHeader.size).rest connection.body = some (body, rest)

theorem round_cases (socket : ReadEnd) (connection : Connection) :
    RoundEnds socket connection ∨ ∃ body rest, RoundReceives socket connection body rest := by
  by_cases ended : (recvN socket ProtocolHeader.size).ret ≤ 0
  · exact Or.inl (Or.inl ended)
  · by_cases beyond : 1024 < (ProtocolHeader.decode (connection.header.write
        (recvN socket ProtocolHeader.size).data).bytes).length.toNat
    · exact Or.inl (Or.inr (Or.inl beyond))
    · cases received : receiveBody (ProtocolHeader.decode (connection.header.write
          (recvN socket ProtocolHeader.size).data).bytes).length.toNat
            (recvN socket ProtocolHeader.size).rest connection.body with
      | none => exact Or.inl (Or.inr (Or.inr received))
      | some packet =>
          exact Or.inr ⟨packet.1, packet.2, Int.not_le.mp ended, Nat.le_of_not_lt beyond, received⟩

theorem RoundReceives.shorter {connection : Connection} {body : Region 1024} {rest : ReadEnd}
    (round : RoundReceives socket connection body rest) :
    rest.bytes.length < socket.bytes.length :=
  Nat.lt_of_le_of_lt (receiveBody_shrinks round.received) (recvN_rest_lt round.arrived)

/-- A round without a packet ends the connection. -/
theorem receiveLoop_of_ends {connection : Connection} (ends : RoundEnds socket connection)
    (world : World γ) : receiveLoop env socket connection world = .returned world := by
  rw [receiveLoop]
  by_cases ended : (recvN socket ProtocolHeader.size).ret ≤ 0
  · exact if_pos ended
  · rw [if_neg ended]
    simp only
    split
    next => rfl
    next fits =>
      split
      next => rfl
      next body rest found =>
        rcases ends with none_ | beyond | missing
        · exact absurd none_ ended
        · exact absurd beyond fits
        · rw [missing] at found
          cases found

/-- A round with a packet handles it in the two buffers. -/
theorem receiveLoop_of_receives {connection : Connection} {body : Region 1024} {rest : ReadEnd}
    (round : RoundReceives socket connection body rest) (world : World γ) :
    receiveLoop env socket connection world =
      match handlePacket env
        { connection with
          header := connection.header.write (recvN socket ProtocolHeader.size).data
          body } world with
      | .again next later => receiveLoop env rest next later
      | .exit result => result := by
  rw [receiveLoop, if_neg (Int.not_le.mpr round.arrived)]
  simp only [if_neg (Nat.not_lt.mpr round.fits)]
  split
  next fault =>
    rw [round.received] at fault
    cases fault
  next found_body found_rest found =>
    rw [round.received] at found
    cases found
    rfl

/-- The end of the stream between two packets ends the connection. -/
theorem receiveLoop_end (reliable : socket.Reliable) (ended : socket.bytes = [])
    (connection : Connection) (world : World γ) :
    receiveLoop env socket connection world = .returned world := by
  obtain ⟨ret, _⟩ := recvN_reliable reliable ProtocolHeader.size
  apply receiveLoop_of_ends
  rw [RoundEnds, ret, ended]
  exact Or.inl (Int.le_refl 0)

theorem receiveBody_complete (reliable : socket.Reliable) {body rest : List UInt8}
    (bytes : socket.bytes = body ++ rest) (before : Region 1024) :
    ∃ remaining, receiveBody body.length socket before = some (before.write body, remaining) ∧
      remaining.bytes = rest ∧ remaining.Reliable := by
  obtain ⟨ret, data, remaining, still⟩ := recvN_reliable reliable body.length
  rw [bytes, List.take_left] at ret data
  rw [bytes, List.drop_left] at remaining
  rw [receiveBody]
  by_cases empty : 0 < body.length
  · rw [if_pos empty, if_neg (not_not_intro ret), data]
    exact ⟨_, rfl, remaining, still⟩
  · have isNil : body = [] := List.eq_nil_of_length_eq_zero (Nat.eq_zero_of_not_pos empty)
    subst isNil
    exact ⟨socket, by rw [if_neg empty, Region.write_nil], bytes, reliable⟩

/-- A complete header is received, however the stream is divided. -/
theorem header_arrives (reliable : socket.Reliable) {header : ProtocolHeader} {rest : List UInt8}
    (bytes : socket.bytes = header.encode ++ rest) (connection : Connection) :
    0 < (recvN socket ProtocolHeader.size).ret ∧
      (recvN socket ProtocolHeader.size).data = header.encode ∧
      ProtocolHeader.decode (connection.header.write
        (recvN socket ProtocolHeader.size).data).bytes = header ∧
      (recvN socket ProtocolHeader.size).rest.bytes = rest ∧
      (recvN socket ProtocolHeader.size).rest.Reliable := by
  obtain ⟨ret, data, remaining, still⟩ := recvN_reliable reliable ProtocolHeader.size
  rw [bytes, List.take_left' header.length_encode] at ret data
  rw [bytes, List.drop_left' header.length_encode] at remaining
  refine ⟨?_, data, ?_, remaining, still⟩
  · rw [ret, header.length_encode]
    decide
  · rw [data, Region.bytes_write_of_length_eq _ header.length_encode, ProtocolHeader.decode_encode]

/-- A complete packet is received into the two buffers. -/
theorem round_of_packet (reliable : socket.Reliable) {packet : Packet} {rest : List UInt8}
    (bytes : socket.bytes = packet.wire ++ rest) (connection : Connection) :
    ∃ remaining, RoundReceives socket connection (connection.body.write packet.body) remaining ∧
      remaining.bytes = rest ∧ remaining.Reliable := by
  rw [Packet.wire, List.append_assoc] at bytes
  obtain ⟨positive, _, merged, afterHeader, still⟩ := header_arrives reliable bytes connection
  obtain ⟨remaining, received, restBytes, restReliable⟩ :=
    receiveBody_complete still afterHeader connection.body
  rw [packet.length_eq] at received
  refine ⟨remaining, ⟨positive, ?_, ?_⟩, restBytes, restReliable⟩
  · rw [merged]
    exact packet.fits
  · rw [merged]
    exact received

/-- The loop receives one complete packet, however the stream is divided, and
continues with the rest. -/
theorem receiveLoop_packet (reliable : socket.Reliable) {packet : Packet} {rest : List UInt8}
    (bytes : socket.bytes = packet.wire ++ rest) (connection : Connection)
    (world : World γ) :
    ∃ remaining, remaining.bytes = rest ∧ remaining.Reliable ∧
      receiveLoop env socket connection world =
        match handlePacket env (connection.receive packet) world with
        | .again next later => receiveLoop env remaining next later
        | .exit result => result := by
  obtain ⟨remaining, round, restBytes, restReliable⟩ :=
    round_of_packet reliable bytes connection
  rw [Packet.wire, List.append_assoc] at bytes
  obtain ⟨_, data, _⟩ := header_arrives reliable bytes connection
  refine ⟨remaining, restBytes, restReliable, ?_⟩
  rw [receiveLoop_of_receives env round world, data]
  rfl

/-- A stream that starts with complete packets is served packet by packet. -/
theorem receiveLoop_wires (reliable : socket.Reliable) {packets : List Packet}
    {tail : List UInt8} (bytes : socket.bytes = wires packets ++ tail)
    (connection : Connection) (world : World γ) :
    ∃ remaining, remaining.bytes = tail ∧ remaining.Reliable ∧
      receiveLoop env socket connection world =
        match serve env packets connection world with
        | .again next later => receiveLoop env remaining next later
        | .exit result => result := by
  induction packets generalizing socket connection world with
  | nil => exact ⟨socket, bytes, reliable, rfl⟩
  | cons packet packets ih =>
      have split : socket.bytes = packet.wire ++ (wires packets ++ tail) := by
        rw [bytes, wires, List.flatMap_cons, List.append_assoc]
        rfl
      obtain ⟨rest, restBytes, restReliable, first⟩ :=
        receiveLoop_packet env reliable split connection world
      rw [first, serve]
      cases handlePacket env (connection.receive packet) world with
      | again next later => exact ih restReliable restBytes next later
      | exit result =>
          obtain ⟨remaining, tailBytes, tailReliable, _⟩ :=
            ih restReliable restBytes connection world
          exact ⟨remaining, tailBytes, tailReliable, rfl⟩

/-- What remains of a served sequence when the stream ends after it. -/
def Control.finish : Control γ → Exit γ
  | .again _ world => .returned world
  | .exit result => result

@[simp]
theorem Control.finish_exit (result : Exit γ) : Control.finish (.exit result) = result :=
  rfl

/-- `handle_client` on a stream of complete packets. -/
theorem handleClient_wires (reliable : socket.Reliable) {packets : List Packet}
    (bytes : socket.bytes = wires packets) (header : Vector UInt8 ProtocolHeader.size)
    (body : Vector UInt8 1024) (world : World γ) :
    handleClient env header body socket world =
      Control.finish (serve env packets (Connection.opened header body) world) := by
  have whole : socket.bytes = wires packets ++ [] := by
    rw [bytes, List.append_nil]
  obtain ⟨remaining, ended, still, loop⟩ :=
    receiveLoop_wires env reliable whole (Connection.opened header body) world
  rw [handleClient, loop]
  cases serve env packets (Connection.opened header body) world with
  | again next later => exact receiveLoop_end env still ended next later
  | exit result => rfl

/-! ## What one packet can cause -/

/-- The checksum test of `handle_client` on a body decrypted from a scheduled
key. -/
def ChecksumAgrees (start : Rc4State) (packet : Packet) : Prop :=
  calculateChecksum (rc4Encrypt start packet.body) packet.header.length.toNat =
    packet.header.checksum

instance (start : Rc4State) (packet : Packet) : Decidable (ChecksumAgrees start packet) :=
  inferInstanceAs (Decidable (_ = _))

theorem checksumAgrees_sealRequest (key : Rc4State) {body : List UInt8}
    (size : body.length = rideRequestDataSize) :
    ChecksumAgrees key (sealRequest key body size) := by
  rw [ChecksumAgrees, sealRequest, rc4Encrypt_rc4Encrypt]
  rfl

/-- The decrypted buffer starts with the client's plaintext. -/
theorem requestClientId_sealRequest (connection : Connection) (key : Rc4State)
    (request : RideRequestData) :
    requestClientId (connection.decrypt (sealRequest key request.encode request.length_encode)
      key).body.bytes = Arithmetic.wrap32 request.clientId.toNat := by
  have plain := connection.decrypt_body_take
    (sealRequest key request.encode request.length_encode) key
  have opened : rc4Encrypt key (sealRequest key request.encode request.length_encode).body =
      request.encode := rc4Encrypt_rc4Encrypt key request.encode
  rw [opened] at plain
  have size : (sealRequest key request.encode request.length_encode).header.length.toNat = 24 :=
    rfl
  have agree : (connection.decrypt (sealRequest key request.encode request.length_encode)
      key).body.bytes.take 24 = request.encode.take 24 := by
    rw [← size, plain]
    exact (List.take_of_length_le (Nat.le_of_eq request.length_encode)).symm
  have same := field_congr agree (show 0 + 4 ≤ 24 by decide)
  rw [requestClientId, clientIdField, same, ← clientIdField, request.clientIdField_encode]

/-- The world after a ride request passed the checksum test. -/
def accept (start : Rc4State) (packet : Packet) (world : World γ) : World γ :=
  world.record (.requestAccepted (rc4Encrypt start packet.body))

section Branches

variable {connection : Connection} {packet : Packet} {key : Rc4State} (world : World γ)

theorem handlePacket_handshake (isHandshake : packet.header.type = msgTypeHandshake) :
    handlePacket env (connection.receive packet) world =
      answerHandshake env (connection.receive packet) world := by
  rw [handlePacket, Connection.receive_header]
  exact if_pos isHandshake

/-- A ride request is no handshake. -/
theorem handlePacket_request (isRequest : packet.header.type = msgTypeRideReq) :
    handlePacket env (connection.receive packet) world =
      handleRequest env (connection.receive packet) world := by
  have notHandshake : packet.header.type ≠ msgTypeHandshake := by
    rw [isRequest]
    decide
  rw [handlePacket, Connection.receive_header]
  exact (if_neg notHandshake).trans (if_pos isRequest)

theorem handlePacket_unkeyed (isRequest : packet.header.type = msgTypeRideReq)
    (unkeyed : connection.isKeyEstablished = false) :
    handlePacket env (connection.receive packet) world = .exit (.returned world) := by
  rw [handlePacket_request env world isRequest, handleRequest,
    Connection.receive_isKeyEstablished]
  exact if_pos unkeyed

theorem handlePacket_unscheduled (isRequest : packet.header.type = msgTypeRideReq)
    (keyed : connection.isKeyEstablished = true)
    (fails : keySchedule connection.sessionKey = none) :
    handlePacket env (connection.receive packet) world = .exit (.killed world) := by
  rw [handlePacket_request env world isRequest, handleRequest,
    Connection.receive_isKeyEstablished, Connection.receive_sessionKey, rc4Crypt, fails, keyed]
  rfl

/-- A ride request whose body could be decrypted. -/
theorem handlePacket_decrypted (writable : connection.body.writable = true)
    (isRequest : packet.header.type = msgTypeRideReq)
    (keyed : connection.isKeyEstablished = true)
    (scheduled : keySchedule connection.sessionKey = some key) :
    handlePacket env (connection.receive packet) world =
      if ChecksumAgrees key packet then
        if packet.header.opcode = opReqRide then
          .exit (processRideRequestWrapper env (connection.decrypt packet key).body
            connection.sessionKey (accept key packet world))
        else joinOrContinue (connection.decrypt packet key) (accept key packet world)
      else .exit (.returned world) := by
  have notUnkeyed : ¬ connection.isKeyEstablished = false := by
    rw [keyed]
    exact Bool.noConfusion
  rw [handlePacket_request env world isRequest, handleRequest, Connection.receive_header,
    Connection.receive_isKeyEstablished, Connection.receive_sessionKey, if_neg notUnkeyed,
    connection.rc4Crypt_receive packet writable scheduled]
  simp only [Connection.calculateChecksum_decrypt, Connection.decrypt_body_take]
  by_cases agrees : calculateChecksum (rc4Encrypt key packet.body)
      packet.header.length.toNat = packet.header.checksum
  · have passed : ChecksumAgrees key packet := agrees
    rw [if_pos passed, if_neg (not_not_intro agrees)]
    rfl
  · have failed : ¬ ChecksumAgrees key packet := agrees
    rw [if_neg failed, if_pos agrees]

theorem handlePacket_other (notHandshake : packet.header.type ≠ msgTypeHandshake)
    (notRequest : packet.header.type ≠ msgTypeRideReq) :
    handlePacket env (connection.receive packet) world =
      joinOrContinue (connection.receive packet) world := by
  rw [handlePacket, Connection.receive_header]
  exact (if_neg notHandshake).trans (if_neg notRequest)

end Branches

/-- Every path of the loop body, with the tests that lead to it. -/
inductive PacketStep (env : Env γ) (connection : Connection) (packet : Packet)
    (world : World γ) : Control γ → Prop
  | handshake (isHandshake : packet.header.type = msgTypeHandshake) :
      PacketStep env connection packet world
        (answerHandshake env (connection.receive packet) world)
  | unkeyed (isRequest : packet.header.type = msgTypeRideReq)
      (unkeyed : connection.isKeyEstablished = false) :
      PacketStep env connection packet world (.exit (.returned world))
  | unscheduled (isRequest : packet.header.type = msgTypeRideReq)
      (keyed : connection.isKeyEstablished = true)
      (fails : keySchedule connection.sessionKey = none) :
      PacketStep env connection packet world (.exit (.killed world))
  | mismatch (start : Rc4State) (isRequest : packet.header.type = msgTypeRideReq)
      (keyed : connection.isKeyEstablished = true)
      (scheduled : keySchedule connection.sessionKey = some start)
      (wrong : ¬ ChecksumAgrees start packet) :
      PacketStep env connection packet world (.exit (.returned world))
  | ride (start : Rc4State) (isRequest : packet.header.type = msgTypeRideReq)
      (keyed : connection.isKeyEstablished = true)
      (scheduled : keySchedule connection.sessionKey = some start)
      (agrees : ChecksumAgrees start packet) (isRide : packet.header.opcode = opReqRide) :
      PacketStep env connection packet world
        (.exit (processRideRequestWrapper env (connection.decrypt packet start).body
          connection.sessionKey (accept start packet world)))
  | fallThrough (start : Rc4State) (isRequest : packet.header.type = msgTypeRideReq)
      (keyed : connection.isKeyEstablished = true)
      (scheduled : keySchedule connection.sessionKey = some start)
      (agrees : ChecksumAgrees start packet) (notRide : packet.header.opcode ≠ opReqRide) :
      PacketStep env connection packet world
        (joinOrContinue (connection.decrypt packet start) (accept start packet world))
  | other (notHandshake : packet.header.type ≠ msgTypeHandshake)
      (notRequest : packet.header.type ≠ msgTypeRideReq) :
      PacketStep env connection packet world (joinOrContinue (connection.receive packet) world)

theorem handlePacket_step {connection : Connection}
    (writable : connection.body.writable = true) (packet : Packet) (world : World γ) :
    PacketStep env connection packet world
      (handlePacket env (connection.receive packet) world) := by
  by_cases isHandshake : packet.header.type = msgTypeHandshake
  · rw [handlePacket_handshake env world isHandshake]
    exact .handshake isHandshake
  · by_cases isRequest : packet.header.type = msgTypeRideReq
    · cases keyed : connection.isKeyEstablished with
      | false =>
          rw [handlePacket_unkeyed env world isRequest keyed]
          exact .unkeyed isRequest keyed
      | true =>
          cases scheduled : keySchedule connection.sessionKey with
          | none =>
              rw [handlePacket_unscheduled env world isRequest keyed scheduled]
              exact .unscheduled isRequest keyed scheduled
          | some key =>
              rw [handlePacket_decrypted env world writable isRequest keyed scheduled]
              by_cases agrees : ChecksumAgrees key packet
              · rw [if_pos agrees]
                by_cases isRide : packet.header.opcode = opReqRide
                · rw [if_pos isRide]
                  exact .ride key isRequest keyed scheduled agrees isRide
                · rw [if_neg isRide]
                  exact .fallThrough key isRequest keyed scheduled agrees isRide
              · rw [if_neg agrees]
                exact .mismatch key isRequest keyed scheduled agrees
    · rw [handlePacket_other env world isHandshake isRequest]
      exact .other isHandshake isRequest

/-- What is left of the cases when the connection has a key and the packet agrees
with it. -/
inductive AgreeingStep (env : Env γ) (connection : Connection) (key : Rc4State)
    (packet : Packet) (world : World γ) : Control γ → Prop
  | handshake (isHandshake : packet.header.type = msgTypeHandshake) :
      AgreeingStep env connection key packet world
        (answerHandshake env (connection.receive packet) world)
  | ride (isRequest : packet.header.type = msgTypeRideReq)
      (isRide : packet.header.opcode = opReqRide) :
      AgreeingStep env connection key packet world
        (.exit (processRideRequestWrapper env (connection.decrypt packet key).body
          connection.sessionKey (accept key packet world)))
  | fallThrough (isRequest : packet.header.type = msgTypeRideReq)
      (notRide : packet.header.opcode ≠ opReqRide) :
      AgreeingStep env connection key packet world
        (joinOrContinue (connection.decrypt packet key) (accept key packet world))
  | other (notHandshake : packet.header.type ≠ msgTypeHandshake)
      (notRequest : packet.header.type ≠ msgTypeRideReq) :
      AgreeingStep env connection key packet world
        (joinOrContinue (connection.receive packet) world)

theorem handlePacket_agreeing {connection : Connection} {key : Rc4State} {packet : Packet}
    (writable : connection.body.writable = true)
    (keyed : connection.isKeyEstablished = true)
    (scheduled : keySchedule connection.sessionKey = some key)
    (agrees : ChecksumAgrees key packet) (world : World γ) :
    AgreeingStep env connection key packet world
      (handlePacket env (connection.receive packet) world) := by
  have step := handlePacket_step env writable packet world
  generalize handlePacket env (connection.receive packet) world = control at step ⊢
  cases step with
  | handshake isHandshake => exact .handshake isHandshake
  | unkeyed _ unkeyed =>
      rw [keyed] at unkeyed
      cases unkeyed
  | unscheduled _ _ fails =>
      rw [scheduled] at fails
      cases fails
  | mismatch other _ _ known wrong =>
      rw [scheduled] at known
      cases known
      exact absurd agrees wrong
  | ride other isRequest _ known _ isRide =>
      rw [scheduled] at known
      cases known
      exact .ride isRequest isRide
  | fallThrough other isRequest _ known _ notRide =>
      rw [scheduled] at known
      cases known
      exact .fallThrough isRequest notRide
  | other notHandshake notRequest => exact .other notHandshake notRequest

end RideHailing.Session
