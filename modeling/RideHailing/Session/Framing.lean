import RideHailing.Session.Truncation

/-!
# The division of the stream into calls

The sender hands every packet to `send_n` in two calls, the network passes on
what the writes took, and the receiver's reads return it in pieces of any size.
`loggedLoop` is the loop of `handle_client` that also lists what it hands to its
body; the list depends on the packets alone.
-/

namespace RideHailing.Session

open RideHailing.Bytes
open RideHailing.Common
open RideHailing.Server

universe u

variable {γ : Type u} {connection : Connection} {world : World γ} {socket : ReadEnd}
  {packet : Packet} {packets : List Packet} {tail : List UInt8}

/-! ## The sender -/

/-- The two calls of `send_n` for each packet: the bytes that reach the stream
and the socket afterwards. -/
def sendPackets (socket : WriteEnd) : List Packet → List UInt8 × WriteEnd
  | [] => ([], socket)
  | packet :: packets =>
      let header := sendN socket packet.header.encode
      let body := sendN header.rest packet.body
      let later := sendPackets body.rest packets
      (header.transmitted ++ body.transmitted ++ later.1, later.2)

theorem sendPackets_reliable {sender : WriteEnd} (reliable : sender.Reliable)
    (packets : List Packet) : (sendPackets sender packets).1 = wires packets := by
  induction packets generalizing sender with
  | nil => rfl
  | cons packet packets ih =>
      obtain ⟨_, header, middle⟩ := sendN_reliable reliable packet.header.encode
      obtain ⟨_, body, after⟩ := sendN_reliable middle packet.body
      rw [sendPackets]
      simp only [header, body, ih after]
      rfl

/-! ## The receiver -/

/-- A packet as the loop body sees it: the header and the announced bytes of the
body buffer. -/
def Packet.content (packet : Packet) : ProtocolHeader × List UInt8 :=
  (packet.header, packet.body)

/-- The loop of `handle_client` with the headers and bodies that it handles, in
order. -/
def loggedLoop (env : Env γ) (socket : ReadEnd) (connection : Connection) (world : World γ) :
    List (ProtocolHeader × List UInt8) × Exit γ :=
  if (recvN socket ProtocolHeader.size).ret ≤ 0 then ([], .returned world)
  else
    let merged := connection.header.write (recvN socket ProtocolHeader.size).data
    let header := ProtocolHeader.decode merged.bytes
    if 1024 < header.length.toNat then ([], .returned world)
    else
      match _received : receiveBody header.length.toNat (recvN socket ProtocolHeader.size).rest
          connection.body with
      | none => ([], .returned world)
      | some (body, rest) =>
          let handled := (header, body.bytes.take header.length.toNat)
          match handlePacket env { connection with header := merged, body } world with
          | .again next later =>
              let remaining := loggedLoop env rest next later
              (handled :: remaining.1, remaining.2)
          | .exit result => ([handled], result)
termination_by socket.bytes.length
decreasing_by
  exact Nat.lt_of_le_of_lt (receiveBody_shrinks _received) (recvN_rest_lt (Int.not_le.mp ‹_›))

/-- A round with a packet lists it. -/
theorem loggedLoop_of_receives (env : Env γ) {body : Region 1024} {rest : ReadEnd}
    (round : RoundReceives socket connection body rest) (world : World γ) :
    loggedLoop env socket connection world =
      let merged := connection.header.write (recvN socket ProtocolHeader.size).data
      let header := ProtocolHeader.decode merged.bytes
      let handled := (header, body.bytes.take header.length.toNat)
      match handlePacket env { connection with header := merged, body } world with
      | .again next later =>
          (handled :: (loggedLoop env rest next later).1, (loggedLoop env rest next later).2)
      | .exit result => ([handled], result) := by
  rw [loggedLoop, if_neg (Int.not_le.mpr round.arrived)]
  simp only [if_neg (Nat.not_lt.mpr round.fits)]
  split
  next fault =>
    rw [round.received] at fault
    cases fault
  next found_body found_rest found =>
    rw [round.received] at found
    cases found
    rfl

/-- A round without a packet lists nothing. -/
theorem loggedLoop_of_ends (env : Env γ) (ends : RoundEnds socket connection) (world : World γ) :
    loggedLoop env socket connection world = ([], .returned world) := by
  rw [loggedLoop]
  by_cases arrived : (recvN socket ProtocolHeader.size).ret ≤ 0
  · exact if_pos arrived
  · rw [if_neg arrived]
    simp only
    split
    next => rfl
    next fits =>
      split
      next => rfl
      next body rest found =>
        rcases ends with ended | beyond | missing
        · exact absurd ended arrived
        · exact absurd beyond fits
        · rw [missing] at found
          cases found

/-- Listing what is handled changes nothing else. -/
theorem loggedLoop_result (env : Env γ) (socket : ReadEnd) (connection : Connection)
    (world : World γ) :
    (loggedLoop env socket connection world).2 = receiveLoop env socket connection world := by
  induction left : socket.bytes.length using Nat.strong_induction_on
    generalizing socket connection world with
  | _ count ih =>
      rcases round_cases socket connection with ends | ⟨body, rest, round⟩
      · rw [loggedLoop_of_ends env ends, receiveLoop_of_ends env ends]
      · rw [loggedLoop_of_receives env round, receiveLoop_of_receives env round]
        simp only
        cases handlePacket env { connection with
            header := connection.header.write (recvN socket ProtocolHeader.size).data
            body } world with
        | again next later => exact ih _ (left ▸ round.shorter) _ _ _ rfl
        | exit result => rfl

/-- A complete packet is listed with its own header and body. -/
theorem loggedLoop_packet (env : Env γ) (reliable : socket.Reliable)
    (bytes : socket.bytes = packet.wire ++ tail) (connection : Connection) (world : World γ) :
    ∃ remaining, remaining.bytes = tail ∧ remaining.Reliable ∧
      loggedLoop env socket connection world =
        match handlePacket env (connection.receive packet) world with
        | .again next later =>
            (packet.content :: (loggedLoop env remaining next later).1,
              (loggedLoop env remaining next later).2)
        | .exit result => ([packet.content], result) := by
  obtain ⟨remaining, round, restBytes, restReliable⟩ := round_of_packet reliable bytes connection
  rw [Packet.wire, List.append_assoc] at bytes
  obtain ⟨_, data, merged, _⟩ := header_arrives reliable bytes connection
  have body : (connection.body.write packet.body).bytes.take packet.header.length.toNat =
      packet.body := connection.receive_body_take packet
  refine ⟨remaining, restBytes, restReliable, ?_⟩
  rw [loggedLoop_of_receives env round]
  simp only [merged, body]
  rw [data]
  rfl

/-- Packets after which the loop continues are listed one after the other. -/
theorem loggedLoop_served (env : Env γ) {next : Connection} {later : World γ}
    (reliable : socket.Reliable) (bytes : socket.bytes = wires packets ++ tail)
    (served : serve env packets connection world = .again next later) :
    ∃ remaining, remaining.bytes = tail ∧ remaining.Reliable ∧
      (loggedLoop env socket connection world).1 =
        packets.map Packet.content ++ (loggedLoop env remaining next later).1 := by
  induction packets generalizing socket connection world with
  | nil =>
      cases served
      exact ⟨socket, bytes, reliable, rfl⟩
  | cons packet packets ih =>
      have split : socket.bytes = packet.wire ++ (wires packets ++ tail) := by
        rw [bytes, wires, List.flatMap_cons, List.append_assoc]
        rfl
      obtain ⟨rest, restBytes, restReliable, first⟩ :=
        loggedLoop_packet env reliable split connection world
      rw [serve] at served
      cases outcome : handlePacket env (connection.receive packet) world with
      | again middle between =>
          rw [outcome] at served first
          obtain ⟨remaining, tailBytes, tailReliable, logged⟩ :=
            ih restReliable restBytes served
          refine ⟨remaining, tailBytes, tailReliable, ?_⟩
          simp only [first, logged, List.map_cons, List.cons_append]
      | exit result =>
          rw [outcome] at served
          cases served

/-! ## The end of the stream -/

/-- What follows the packets: the end of the stream, or a header that announces
more than the body buffer holds, with anything behind it. -/
inductive StreamEnd : List UInt8 → Prop
  | eof : StreamEnd []
  | refused (header : ProtocolHeader) (rest : List UInt8) (beyond : 1024 < header.length.toNat) :
      StreamEnd (header.encode ++ rest)

theorem loggedLoop_end (env : Env γ) (reliable : socket.Reliable) (ends : StreamEnd tail)
    (bytes : socket.bytes = tail) (connection : Connection) (world : World γ) :
    loggedLoop env socket connection world = ([], .returned world) := by
  cases ends with
  | eof =>
      obtain ⟨ret, _⟩ := recvN_reliable reliable ProtocolHeader.size
      apply loggedLoop_of_ends
      rw [RoundEnds, ret, bytes]
      exact Or.inl (Int.le_refl 0)
  | refused header rest beyond =>
      obtain ⟨_, _, announced, _⟩ := header_arrives reliable bytes connection
      apply loggedLoop_of_ends
      rw [RoundEnds, announced]
      exact Or.inr (Or.inl beyond)

/-- Whatever the writes of the sender took and whatever pieces the reads of the
receiver return, `handle_client` ends, and what it handles are the packets in
order: all of them when none of them ends the connection, and then the shared
state is as it was, also when a header that announces too much follows; otherwise
those up to the first one that ends the connection. -/
theorem handleClient_framing (env : Env γ) (header : Vector UInt8 ProtocolHeader.size)
    (body : Vector UInt8 1024) (world : World γ) (packets : List Packet) {sender : WriteEnd}
    (transmits : sender.Reliable) (reliable : socket.Reliable) (ends : StreamEnd tail)
    (bytes : socket.bytes = (sendPackets sender packets).1 ++ tail) :
    (loggedLoop env socket (Connection.opened header body) world).2 =
        handleClient env header body socket world ∧
      ((∃ connection current,
          serve env packets (Connection.opened header body) world = .again connection current ∧
          (loggedLoop env socket (Connection.opened header body) world).1 =
            packets.map Packet.content ∧
          handleClient env header body socket world = .returned current ∧
          current.shared = world.shared) ∨
        ∃ before packet after connection current result,
          packets = before ++ packet :: after ∧
          serve env before (Connection.opened header body) world = .again connection current ∧
          handlePacket env (connection.receive packet) current = .exit result ∧
          (loggedLoop env socket (Connection.opened header body) world).1 =
            (before ++ [packet]).map Packet.content ∧
          handleClient env header body socket world = result) := by
  rw [sendPackets_reliable transmits] at bytes
  have results := loggedLoop_result env socket (Connection.opened header body) world
  refine ⟨results, ?_⟩
  rw [handleClient]
  cases served : serve env packets (Connection.opened header body) world with
  | again connection current =>
      obtain ⟨remaining, tailBytes, tailReliable, logged⟩ :=
        loggedLoop_served env reliable bytes served
      obtain ⟨last, lastBytes, lastReliable, loop⟩ :=
        receiveLoop_wires env reliable bytes (Connection.opened header body) world
      rw [loggedLoop_end env tailReliable ends tailBytes, List.append_nil] at logged
      rw [served] at loop
      have stopped := loggedLoop_end env lastReliable ends lastBytes connection current
      refine Or.inl ⟨connection, current, rfl, logged, ?_,
        (reached_of_served rfl rfl served).shared⟩
      rw [loop]
      exact (loggedLoop_result env last connection current).symm.trans (congrArg Prod.snd stopped)
  | exit result =>
      obtain ⟨before, packet, after, connection, current, split, again, exits⟩ := serve_exit served
      have divided : socket.bytes = wires before ++ (packet.wire ++ (wires after ++ tail)) := by
        rw [bytes, split]
        simp [wires]
      obtain ⟨remaining, restBytes, restReliable, logged⟩ :=
        loggedLoop_served env reliable divided again
      obtain ⟨_, _, _, last⟩ := loggedLoop_packet env restReliable restBytes connection current
      obtain ⟨_, _, _, loop⟩ :=
        receiveLoop_wires env reliable bytes (Connection.opened header body) world
      rw [exits] at last
      rw [served] at loop
      refine Or.inr
        ⟨before, packet, after, connection, current, result, split, again, exits, ?_, loop⟩
      rw [logged, last, List.map_append]
      rfl

/-- A packet with a body that no branch of `handle_client` knows. -/
def notePacket : Packet where
  header := { length := 3, type := 9, opcode := 0, checksum := 0 }
  body := [1, 2, 3]
  length_eq := rfl
  fits := by decide

/-- A header that announces 2000 bytes. -/
def refusedHeader : ProtocolHeader where
  length := 2000
  type := 9
  opcode := 0
  checksum := 0

/-- The loop goes on after packets of an unknown type. -/
theorem serve_unknownTypes (env : Env γ) (connection : Connection) (world : World γ)
    (unknown : ∀ packet ∈ packets,
      packet.header.type = 9 ∧ packet.header.opcode ≠ opDriverJoin) :
    ∃ next, serve env packets connection world = .again next world := by
  induction packets generalizing connection with
  | nil => exact ⟨connection, rfl⟩
  | cons packet packets ih =>
      obtain ⟨type, opcode⟩ := unknown packet List.mem_cons_self
      have notHandshake : packet.header.type ≠ msgTypeHandshake := by
        rw [type]
        decide
      have notRequest : packet.header.type ≠ msgTypeRideReq := by
        rw [type]
        decide
      have notJoin : (ProtocolHeader.decode
          (connection.receive packet).header.bytes).opcode ≠ opDriverJoin := by
        rw [Connection.receive_header]
        exact opcode
      rw [serve, handlePacket_other _ _ notHandshake notRequest, joinOrContinue_of_ne notJoin]
      exact ih _ fun later member => unknown later (List.mem_cons_of_mem packet member)

/-- Three packets and the header of a fourth, in pieces that end inside a header and
inside a body, and that reach from a body into the next header. -/
def pieces : ReadEnd :=
  [.interrupted, .chunk 3 [0, 0, 0, 9, 0], .chunk 0 [0, 0, 1], .interrupted,
    .chunk 2 [3, 0, 0, 0, 0, 9, 3, 0, 0], .chunk 0 [3, 0, 0, 0, 9, 0, 0, 0, 0, 1, 2],
    .chunk 3 [208, 7, 0, 0, 9], .interrupted, .chunk 0 [0, 0, 0, 5]]

theorem handleClient_framing_pieces :
    (loggedLoop stillEnv pieces zeroConnection (World.opened SharedState.zeroed)).1 =
        [notePacket, unknownPacket, notePacket].map Packet.content ∧
      ∃ current, handleClient stillEnv (Vector.replicate _ 0) (Vector.replicate _ 0) pieces
          (World.opened SharedState.zeroed) = .returned current ∧
        current.shared = SharedState.zeroed := by
  have transmits : WriteEnd.Reliable [.interrupted, .accepted 3, .accepted 7] := by
    simp [WriteEnd.Reliable]
  have reliable : pieces.Reliable := by
    simp [ReadEnd.Reliable, pieces]
  have bytes : pieces.bytes =
      (sendPackets [.interrupted, .accepted 3, .accepted 7]
        [notePacket, unknownPacket, notePacket]).1 ++ (refusedHeader.encode ++ [5]) := by
    rw [sendPackets_reliable transmits]
    decide
  obtain ⟨_, outcome⟩ := handleClient_framing stillEnv (Vector.replicate _ 0)
    (Vector.replicate _ 0) (World.opened SharedState.zeroed)
    [notePacket, unknownPacket, notePacket] transmits reliable
    (.refused refusedHeader [5] (by decide)) bytes
  have unknown : ∀ packet ∈ [notePacket, unknownPacket, notePacket],
      packet.header.type = 9 ∧ packet.header.opcode ≠ opDriverJoin := by
    decide
  rcases outcome with ⟨_, current, _, logged, returned, same⟩ |
    ⟨before, packet, after, _, _, _, split, again, exits, _⟩
  · exact ⟨logged, current, returned, same⟩
  · obtain ⟨_, served⟩ := serve_unknownTypes stillEnv zeroConnection
      (World.opened SharedState.zeroed) unknown
    rw [zeroConnection, split, serve_append_again again, serve, exits] at served
    cases served

end RideHailing.Session
