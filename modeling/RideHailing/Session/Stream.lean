import RideHailing.Session.Gate

/-!
# Arbitrary streams

Whatever a socket answers, each round of the receive loop either ends the
connection or handles a packet: the header is the nine bytes that the buffer
holds after the read, and the body is complete.  A connection is therefore
always the service of some sequence of packets, although these need not be the
packets that the peer sent.
-/

namespace RideHailing.Session

open RideHailing.Bytes
open RideHailing.Common
open RideHailing.Server

universe u

variable {γ : Type u} {env : Env γ}

/-! ## One round -/

/-- A body that was received has the announced size and was taken from the
stream. -/
theorem receiveBody_eq_some {length : Nat} {socket rest : ReadEnd} {before body : Region 1024}
    (received : receiveBody length socket before = some (body, rest)) :
    ∃ data, data.length = length ∧ body = before.write data ∧
      data ++ rest.bytes = socket.bytes := by
  rw [receiveBody] at received
  split at received
  next positive =>
    split at received
    next => cases received
    next complete =>
      cases received
      exact ⟨_, length_recvN_data (not_not.mp complete), rfl, recvN_bytes socket length⟩
  next zero =>
    cases received
    exact ⟨[], (Nat.eq_zero_of_not_pos zero).symm, (before.write_nil).symm, rfl⟩

/-- The packet that the two buffers hold after a read. -/
theorem exists_packet (connection : Connection) (headerBytes body : List UInt8)
    (size : body.length =
      (ProtocolHeader.decode (connection.header.write headerBytes).bytes).length.toNat)
    (fits : body.length ≤ 1024) :
    ∃ packet, connection.receive packet =
      { connection with
        header := connection.header.write headerBytes, body := connection.body.write body } := by
  have whole := (connection.header.write headerBytes).length_eq
  refine ⟨⟨ProtocolHeader.decode (connection.header.write headerBytes).bytes, body, size,
    size ▸ fits⟩, ?_⟩
  rw [Connection.receive, ProtocolHeader.encode_decode whole, Region.write_bytes_write]

/-- A round of the receive loop that leaves the packet in the two buffers. -/
structure Arrives (socket : ReadEnd) (connection : Connection) (packet : Packet)
    (rest : ReadEnd) : Prop where
  round : ∃ body, RoundReceives socket connection body rest ∧
    connection.receive packet =
      { connection with
        header := connection.header.write (recvN socket ProtocolHeader.size).data
        body }

namespace Arrives

variable {socket rest : ReadEnd} {connection : Connection} {packet : Packet}

theorem shorter (arrives : Arrives socket connection packet rest) :
    rest.bytes.length < socket.bytes.length := by
  obtain ⟨body, round, _⟩ := arrives.round
  exact round.shorter

/-- The bytes of the round are those of the packet, unless the stream ends inside
its header. -/
theorem bytes (arrives : Arrives socket connection packet rest) :
    socket.bytes = packet.wire ++ rest.bytes ∨
      socket.bytes.length < ProtocolHeader.size ∧ rest.bytes = [] := by
  obtain ⟨body, round, buffers⟩ := arrives.round
  have taken := recvN_bytes socket ProtocolHeader.size
  obtain ⟨data, size, written, remaining⟩ := receiveBody_eq_some round.received
  rcases recvN_short round.arrived with whole | ⟨cut, ended⟩
  · have header : packet.header.encode = (recvN socket ProtocolHeader.size).data := by
      have same := congrArg (fun later => later.header.bytes) buffers
      simp only [Connection.receive] at same
      rwa [Region.bytes_write_of_length_eq _ packet.header.length_encode,
        Region.bytes_write_of_length_eq _ whole] at same
    rw [Region.bytes_write_of_length_eq _ whole, ← header, ProtocolHeader.decode_encode] at size
    have content : packet.body = data := by
      have same := congrArg (fun later => later.body.bytes.take data.length) buffers
      simp only [Connection.receive, written] at same
      rwa [Region.take_bytes_write _ (size ▸ packet.fits), size, ← packet.length_eq,
        Region.take_bytes_write _ (packet.length_eq ▸ packet.fits)] at same
    left
    rw [Packet.wire, header, content, List.append_assoc, remaining, taken]
  · rw [ended, ReadEnd.bytes_nil] at remaining taken
    rw [List.append_nil] at taken
    rw [← taken]
    exact Or.inr ⟨cut, (List.append_eq_nil_iff.mp remaining).2⟩

end Arrives

theorem exists_arrives {socket rest : ReadEnd} {connection : Connection} {body : Region 1024}
    (round : RoundReceives socket connection body rest) :
    ∃ packet, Arrives socket connection packet rest := by
  obtain ⟨data, size, body_eq, _⟩ := receiveBody_eq_some round.received
  obtain ⟨packet, buffers⟩ := exists_packet connection _ data size (size ▸ round.fits)
  rw [← body_eq] at buffers
  exact ⟨packet, body, round, buffers⟩

/-- A complete packet at the front of a reliable stream arrives in one round. -/
theorem arrives_of_bytes {socket : ReadEnd} (reliable : socket.Reliable) {packet : Packet}
    {tail : List UInt8} (bytes : socket.bytes = packet.wire ++ tail) (connection : Connection) :
    ∃ rest, Arrives socket connection packet rest ∧ rest.bytes = tail ∧ rest.Reliable := by
  obtain ⟨rest, round, restBytes, restReliable⟩ := round_of_packet reliable bytes connection
  rw [Packet.wire, List.append_assoc] at bytes
  obtain ⟨_, data, _⟩ := header_arrives reliable bytes connection
  refine ⟨rest, ⟨_, round, ?_⟩, restBytes, restReliable⟩
  rw [data]
  rfl

/-- One round of the receive loop. -/
theorem receiveLoop_round (env : Env γ) (socket : ReadEnd) (connection : Connection)
    (world : World γ) :
    receiveLoop env socket connection world = .returned world ∨
      ∃ packet rest, Arrives socket connection packet rest ∧
        receiveLoop env socket connection world =
          match handlePacket env (connection.receive packet) world with
          | .again next later => receiveLoop env rest next later
          | .exit result => result := by
  rcases round_cases socket connection with ends | ⟨body, rest, round⟩
  · exact Or.inl (receiveLoop_of_ends env ends world)
  · obtain ⟨packet, arrives⟩ := exists_arrives round
    refine Or.inr ⟨packet, rest, arrives, ?_⟩
    obtain ⟨_, other, buffers⟩ := arrives.round
    rw [buffers]
    exact receiveLoop_of_receives env other world

/-! ## Whole connections -/

/-- A connection serves a sequence of packets, whatever its socket does. -/
theorem receiveLoop_serve (env : Env γ) (socket : ReadEnd) (connection : Connection)
    (world : World γ) :
    ∃ packets, receiveLoop env socket connection world =
      Control.finish (serve env packets connection world) := by
  induction left : socket.bytes.length using Nat.strong_induction_on
    generalizing socket connection world with
  | _ left ih =>
      rcases receiveLoop_round env socket connection world with
        ended | ⟨packet, rest, arrives, round⟩
      · exact ⟨[], ended⟩
      · rw [round]
        cases outcome : handlePacket env (connection.receive packet) world with
        | again next later =>
            obtain ⟨packets, served⟩ := ih _ (left ▸ arrives.shorter) rest next later rfl
            refine ⟨packet :: packets, ?_⟩
            rw [serve, outcome]
            exact served
        | exit result =>
            refine ⟨[packet], ?_⟩
            rw [serve, outcome]
            rfl

/-! ## What has been sent stays sent -/

theorem prefix_send (world : World γ) (data : List UInt8) :
    world.sent <+: (world.send data).sent :=
  List.prefix_append _ _

theorem prefix_sendResponsePacket {n : Nat} (respMsg : Region n) (len : Nat) (opcode : UInt16)
    (sessionKey : Option CString) (world : World γ) :
    world.sent <+: (exitWorld (sendResponsePacket respMsg len opcode sessionKey world)).sent := by
  unfold sendResponsePacket
  simp only
  split
  · exact (prefix_send world _).trans (prefix_send _ _)
  · exact List.prefix_rfl

theorem serveRequest_sent {env : Env γ} {clientId : Int} {world served : World γ} {text : CString}
    (service : serveRequest env clientId world = some (text, served)) :
    served.sent = world.sent := by
  rw [serveRequest] at service
  obtain ⟨outcome, _, made⟩ := Option.map_eq_some_iff.mp service
  cases made
  rfl

theorem limitRequest_sent (env : Env γ) (clientId : Int) (world : World γ) :
    (limitRequest env clientId world).2.sent = world.sent :=
  rfl

theorem prefix_replyBlocked (sessionKey : CString) (world : World γ) :
    world.sent <+: (exitWorld (replyBlocked sessionKey world)).sent :=
  prefix_sendResponsePacket blockedMessage 15 opResponse (some sessionKey) world

theorem prefix_replyText (sessionKey text : CString) (world : World γ) :
    world.sent <+: (exitWorld (replyText sessionKey text world)).sent :=
  prefix_sendResponsePacket _ _ opResponse (some sessionKey) world

theorem prefix_processRideRequestWrapper (env : Env γ) (body : Region 1024) (sessionKey : CString)
    (world : World γ) :
    world.sent <+: (exitWorld (processRideRequestWrapper env body sessionKey world)).sent := by
  have limited := limitRequest_sent env (requestClientId body.bytes) world
  rcases processRideRequestWrapper_cases env body sessionKey world rfl rfl with
    ⟨_, result⟩ | ⟨_, _, result⟩ | ⟨_, text, served, service, result⟩
  · have reply := prefix_replyBlocked sessionKey
      (limitRequest env (requestClientId body.bytes) world).2
    rwa [limited, ← result] at reply
  · have same : (exitWorld (processRideRequestWrapper env body sessionKey world)).sent =
        world.sent := by
      rw [result, exitWorld, limited]
    exact ⟨[], by rw [List.append_nil, same]⟩
  · have reply := prefix_replyText sessionKey text served
    have same : served.sent = world.sent := (serveRequest_sent service).trans limited
    rwa [same, ← result] at reply

theorem prefix_joinOrContinue (connection : Connection) (world : World γ) :
    world.sent <+: (controlWorld (joinOrContinue connection world)).sent := by
  unfold joinOrContinue processDriverJoinPacket
  split
  · simp only
    split
    · exact List.prefix_rfl
    · exact prefix_send _ _
  · exact List.prefix_rfl

theorem prefix_handleRequest (env : Env γ) (connection : Connection) (world : World γ) :
    world.sent <+: (controlWorld (handleRequest env connection world)).sent := by
  unfold handleRequest
  simp only
  split
  · exact List.prefix_rfl
  · split
    · exact List.prefix_rfl
    · split
      · exact List.prefix_rfl
      · generalize accepted_eq : world.record _ = accepted
        have same : world.sent <+: accepted.sent := by rw [← accepted_eq, World.record_sent]
        split
        · simp only [controlWorld]
          exact same.trans (prefix_processRideRequestWrapper env _ _ accepted)
        · exact same.trans (prefix_joinOrContinue _ accepted)

theorem prefix_handlePacket (env : Env γ) (connection : Connection) (world : World γ) :
    world.sent <+: (controlWorld (handlePacket env connection world)).sent := by
  unfold handlePacket
  simp only
  split
  · exact (prefix_send _ _).trans (prefix_send _ _)
  · split
    · exact prefix_handleRequest env connection world
    · exact prefix_joinOrContinue connection world

theorem prefix_serve (env : Env γ) (packets : List Packet) (connection : Connection)
    (world : World γ) :
    world.sent <+: (controlWorld (serve env packets connection world)).sent := by
  induction packets generalizing connection world with
  | nil => exact List.prefix_rfl
  | cons packet packets ih =>
      have first := prefix_handlePacket env (connection.receive packet) world
      rw [serve]
      cases outcome : handlePacket env (connection.receive packet) world with
      | again next later =>
          rw [outcome] at first
          exact first.trans (ih next later)
      | exit result =>
          rw [outcome] at first
          exact first

/-- Whatever the socket does, nothing that was sent is taken back. -/
theorem prefix_receiveLoop (env : Env γ) (socket : ReadEnd) (connection : Connection)
    (world : World γ) :
    world.sent <+: (exitWorld (receiveLoop env socket connection world)).sent := by
  obtain ⟨packets, served⟩ := receiveLoop_serve env socket connection world
  have extended := prefix_serve env packets connection world
  rw [served]
  cases outcome : serve env packets connection world with
  | again next later =>
      rw [outcome] at extended
      exact extended
  | exit result =>
      rw [outcome] at extended
      exact extended

end RideHailing.Session
