import RideHailing.Session.Interleaving

/-!
# Where the rides come from

In the interleaved pool every critical section belongs to the connection that its
worker accepted last.  A ride request is entered at most once for a connection,
after a limiter check that let it through, and only for the client that an
authenticated packet of that connection names.
-/

namespace RideHailing.Session

open RideHailing.Bytes
open RideHailing.Common
open RideHailing.Fleet
open RideHailing.Server
open RideHailing.Transition

universe u

variable {γ : Type u} {env : Env γ} {visit : Visit γ} {socket rest : ReadEnd}
  {connection : Connection} {own : Local γ} {packet : Packet} {phase : Phase γ}

/-! ## One packet -/

/-- The phase after a packet, with what is known when it is no longer the loop. -/
inductive PacketPhase (env : Env γ) (rest : ReadEnd) (connection : Connection)
    (packet : Packet) (own : Local γ) : Phase γ → Prop
  | continued (next : Connection) (later : Local γ)
      (again : ∀ shared, handlePacket env (connection.receive packet) (own.world shared) =
        .again next (later.world shared)) :
      PacketPhase env rest connection packet own (.receiving rest next later)
  | rejected (later : Local γ) : PacketPhase env rest connection packet own (.closing later)
  | unscheduled (keyed : connection.isKeyEstablished = true)
      (fails : keySchedule connection.sessionKey = none) :
      PacketPhase env rest connection packet own (.killed own)
  | requested (key : Rc4State) (later : Local γ) (isRequest : packet.header.type = msgTypeRideReq)
      (isRide : packet.header.opcode = opReqRide) (keyed : connection.isKeyEstablished = true)
      (scheduled : keySchedule connection.sessionKey = some key)
      (agrees : ChecksumAgrees key packet) :
      PacketPhase env rest connection packet own
        (.limiting (requestClientId (connection.decrypt packet key).body.bytes)
          connection.sessionKey later)
  | joined (driverId : UInt32) (later : Local γ) :
      PacketPhase env rest connection packet own (.joining driverId later)

theorem joinPhase_cases (connection : Connection) (own : Local γ) (rest : ReadEnd) :
    joinPhase rest connection own = .joining (driverIdField connection.body.bytes) own ∨
      joinPhase rest connection own = .receiving rest connection own ∧
        ∀ shared, joinOrContinue connection (own.world shared) =
          .again connection (own.world shared) := by
  rw [joinPhase]
  by_cases isJoin : (ProtocolHeader.decode connection.header.bytes).opcode = opDriverJoin
  · exact Or.inl (if_pos isJoin)
  · exact Or.inr ⟨if_neg isJoin, fun shared => joinOrContinue_of_ne isJoin⟩

/-- A packet whose handling ends with the join test. -/
theorem packetPhase_join (next : Connection) (later : Local γ)
    (same : packetPhase env rest (connection.receive packet) own = joinPhase rest next later)
    (handled : ∀ shared, handlePacket env (connection.receive packet) (own.world shared) =
      joinOrContinue next (later.world shared)) :
    PacketPhase env rest connection packet own
      (packetPhase env rest (connection.receive packet) own) := by
  rw [same]
  rcases joinPhase_cases next later rest with joins | ⟨continues, again⟩
  · rw [joins]
    exact .joined _ later
  · rw [continues]
    exact .continued next later fun shared => (handled shared).trans (again shared)

theorem packetPhase_request (isRequest : packet.header.type = msgTypeRideReq) :
    packetPhase env rest (connection.receive packet) own =
      requestPhase rest (connection.receive packet) own := by
  have notHandshake : packet.header.type ≠ msgTypeHandshake := isRequest ▸ requestType_ne
  rw [packetPhase, Connection.receive_header]
  exact (if_neg notHandshake).trans (if_pos isRequest)

theorem requestPhase_unkeyed (unkeyed : connection.isKeyEstablished = false) :
    requestPhase rest (connection.receive packet) own = .closing own := by
  rw [requestPhase, Connection.receive_isKeyEstablished]
  exact if_pos unkeyed

theorem requestPhase_unscheduled (keyed : connection.isKeyEstablished = true)
    (fails : keySchedule connection.sessionKey = none) :
    requestPhase rest (connection.receive packet) own = .killed own := by
  rw [requestPhase, Connection.receive_isKeyEstablished, Connection.receive_sessionKey, rc4Crypt,
    fails, keyed]
  rfl

/-- A ride request whose body could be decrypted. -/
theorem requestPhase_decrypted (rest : ReadEnd) (packet : Packet) (own : Local γ)
    {key : Rc4State} (writable : connection.body.writable = true)
    (keyed : connection.isKeyEstablished = true)
    (scheduled : keySchedule connection.sessionKey = some key) :
    requestPhase rest (connection.receive packet) own =
      if ChecksumAgrees key packet then
        if packet.header.opcode = opReqRide then
          .limiting (requestClientId (connection.decrypt packet key).body.bytes)
            connection.sessionKey (own.record (.requestAccepted (rc4Encrypt key packet.body)))
        else
          joinPhase rest (connection.decrypt packet key)
            (own.record (.requestAccepted (rc4Encrypt key packet.body)))
      else .closing own := by
  have notUnkeyed : ¬ connection.isKeyEstablished = false := by
    rw [keyed]
    exact Bool.noConfusion
  rw [requestPhase, Connection.receive_header, Connection.receive_isKeyEstablished,
    Connection.receive_sessionKey, if_neg notUnkeyed,
    connection.rc4Crypt_receive packet writable scheduled]
  simp only [Connection.calculateChecksum_decrypt, Connection.decrypt_body_take]
  by_cases agrees : calculateChecksum (rc4Encrypt key packet.body)
      packet.header.length.toNat = packet.header.checksum
  · have passed : ChecksumAgrees key packet := agrees
    rw [if_pos passed, if_neg (not_not_intro agrees)]
    rfl
  · have failed : ¬ ChecksumAgrees key packet := agrees
    rw [if_neg failed, if_pos agrees]

theorem packetPhase_step (env : Env γ) (writable : connection.body.writable = true)
    (rest : ReadEnd) (packet : Packet) (own : Local γ) :
    PacketPhase env rest connection packet own
      (packetPhase env rest (connection.receive packet) own) := by
  by_cases isHandshake : packet.header.type = msgTypeHandshake
  · have answered : packetPhase env rest (connection.receive packet) own =
        handshakePhase env rest (connection.receive packet) own := by
      rw [packetPhase, Connection.receive_header]
      exact if_pos isHandshake
    rw [answered]
    refine .continued _ _ fun shared => ?_
    rw [handlePacket_handshake env _ isHandshake]
    rfl
  · by_cases isRequest : packet.header.type = msgTypeRideReq
    · have phase_eq : packetPhase env rest (connection.receive packet) own = _ :=
        packetPhase_request isRequest
      cases keyed : connection.isKeyEstablished with
      | false =>
          rw [phase_eq, requestPhase_unkeyed keyed]
          exact .rejected own
      | true =>
          cases scheduled : keySchedule connection.sessionKey with
          | none =>
              rw [phase_eq, requestPhase_unscheduled keyed scheduled]
              exact .unscheduled keyed scheduled
          | some key =>
              have decrypted := requestPhase_decrypted rest packet own writable keyed scheduled
              have handled := fun shared => handlePacket_decrypted env (own.world shared) writable
                isRequest keyed scheduled
              by_cases agrees : ChecksumAgrees key packet
              · rw [if_pos agrees] at decrypted
                by_cases isRide : packet.header.opcode = opReqRide
                · rw [phase_eq, decrypted, if_pos isRide]
                  exact .requested key _ isRequest isRide keyed scheduled agrees
                · rw [if_neg isRide] at decrypted
                  refine packetPhase_join _ _ (phase_eq.trans decrypted) fun shared => ?_
                  rw [handled shared, if_pos agrees, if_neg isRide]
                  rfl
              · rw [phase_eq, decrypted, if_neg agrees]
                exact .rejected own
    · refine packetPhase_join (connection.receive packet) own ?_ ?_
      · rw [packetPhase, Connection.receive_header]
        exact (if_neg isHandshake).trans (if_neg isRequest)
      · intro shared
        exact handlePacket_other env _ isHandshake isRequest

/-! ## What a worker has received -/

/-- The phases that a worker reaches on its connection before it needs the shared
memory. -/
inductive Received (env : Env γ) (visit : Visit γ) : Phase γ → Prop
  | start : Received env visit visit.phase
  | round (socket : ReadEnd) (connection : Connection) (own : Local γ)
      (before : Received env visit (.receiving socket connection own)) :
      Received env visit (receivePhase env socket connection own)

theorem Arrives.receivePhase_eq (arrives : Arrives socket connection packet rest) (env : Env γ)
    (own : Local γ) :
    receivePhase env socket connection own =
      packetPhase env rest (connection.receive packet) own := by
  obtain ⟨body, round, buffers⟩ := arrives.round
  rw [receivePhase_of_receives round, buffers]

/-- The packets that the connection has handled, one after the other, each as a
round of the receive loop left it in the two buffers. -/
inductive Hears (env : Env γ) (visit : Visit γ) :
    ReadEnd → Connection → Local γ → List Packet → Prop
  | opened : Hears env visit visit.socket (Connection.opened visit.header visit.body)
      visit.start []
  | packet (socket rest : ReadEnd) (connection next : Connection) (own later : Local γ)
      (past : List Packet) (packet : Packet)
      (before : Hears env visit socket connection own past)
      (arrives : Arrives socket connection packet rest)
      (again : ∀ shared, handlePacket env (connection.receive packet) (own.world shared) =
        .again next (later.world shared)) :
      Hears env visit rest next later (past ++ [packet])

namespace Hears

variable {past : List Packet}

theorem served (hears : Hears env visit socket connection own past) (shared : SharedState) :
    serve env past (Connection.opened visit.header visit.body) (visit.opened shared) =
      .again connection (own.world shared) := by
  induction hears with
  | opened => rfl
  | packet socket rest connection next own later past packet before arrives again ih =>
      exact serve_snoc_again ih (again shared)

theorem reached (hears : Hears env visit socket connection own past) (shared : SharedState) :
    Reached env (Connection.opened visit.header visit.body) (visit.opened shared) past connection
      (own.world shared) :=
  reached_of_served rfl rfl (hears.served shared)

/-- As long as something is left of the stream, its bytes so far are those of the
packets. -/
theorem bytes (hears : Hears env visit socket connection own past) (left : socket.bytes ≠ []) :
    visit.socket.bytes = wires past ++ socket.bytes := by
  induction hears with
  | opened => rfl
  | packet socket rest connection next own later past packet before arrives again ih =>
      rcases arrives.bytes with whole | ⟨_, ended⟩
      · have stream := ih fun empty => by
          rw [whole] at empty
          exact left (List.append_eq_nil_iff.mp empty).2
        rw [stream, whole, wires, wires, List.flatMap_append, List.flatMap_singleton,
          List.append_assoc]
      · exact absurd ended left

end Hears

/-- The connection carries a ride request of the client: the packet that arrived
in some round names it and is authenticated under the key of the latest
handshake before it.  The bytes received until then are those of the packets,
and the request follows whole, unless the stream ends inside its header. -/
inductive Requested (env : Env γ) (visit : Visit γ) (clientId : Int) (sessionKey : CString) : Prop
  | intro (socket rest : ReadEnd) (connection : Connection) (own : Local γ)
      (past : List Packet) (packet : Packet) (key : Rc4State)
      (hears : Hears env visit socket connection own past)
      (arrives : Arrives socket connection packet rest)
      (stream : visit.socket.bytes = wires past ++ socket.bytes)
      (whole : socket.bytes = packet.wire ++ rest.bytes ∨
        socket.bytes.length < ProtocolHeader.size)
      (session : connection.sessionKey = sessionKey)
      (latest : ∀ shared, LatestKey env (Connection.opened visit.header visit.body)
        (visit.opened shared) past sessionKey)
      (authenticated : Authenticated connection packet key clientId)

theorem Requested.scheduled {clientId : Int} {sessionKey : CString}
    (requested : Requested env visit clientId sessionKey) :
    ∃ key, keySchedule sessionKey = some key := by
  obtain ⟨_, _, _, _, _, _, key, _, _, _, _, rfl, _, authenticated⟩ := requested
  exact ⟨key, authenticated.scheduled⟩

/-- A request that arrives at a connection with a key. -/
theorem Hears.requested {past : List Packet} {clientId : Int} {key : Rc4State}
    (hears : Hears env visit socket connection own past)
    (arrives : Arrives socket connection packet rest)
    (authenticated : Authenticated connection packet key clientId) :
    Requested env visit clientId connection.sessionKey := by
  have left : socket.bytes ≠ [] := by
    intro empty
    have shorter := arrives.shorter
    rw [empty] at shorter
    exact absurd shorter (Nat.not_lt_zero _)
  exact .intro socket rest connection own past packet key hears arrives (hears.bytes left)
    (arrives.bytes.imp id And.left) rfl
    (fun shared => (hears.reached shared).keyed authenticated.keyed) authenticated

/-- What is known of a phase before the shared memory is needed. -/
inductive Knows (env : Env γ) (visit : Visit γ) : Phase γ → Prop
  | receiving (socket : ReadEnd) (connection : Connection) (own : Local γ) (past : List Packet)
      (hears : Hears env visit socket connection own past) :
      Knows env visit (.receiving socket connection own)
  | closing (own : Local γ) : Knows env visit (.closing own)
  | joining (driverId : UInt32) (own : Local γ) : Knows env visit (.joining driverId own)
  | limiting (clientId : Int) (sessionKey : CString) (later : Local γ)
      (requested : Requested env visit clientId sessionKey) :
      Knows env visit (.limiting clientId sessionKey later)

/-- A phase before the shared memory is never that of a dead worker. -/
theorem Received.knows (received : Received env visit phase) : Knows env visit phase := by
  induction received with
  | start => exact .receiving _ _ _ [] .opened
  | round socket connection own before ih =>
      cases ih with
      | receiving _ _ _ past hears =>
          rcases round_cases socket connection with ends | ⟨body, rest, round⟩
          · rw [receivePhase_of_ends ends]
            exact .closing own
          · obtain ⟨packet, arrives⟩ := exists_arrives round
            have reached := hears.reached SharedState.zeroed
            have step := packetPhase_step env reached.writable rest packet own
            rw [arrives.receivePhase_eq]
            generalize packetPhase env rest (connection.receive packet) own = phase at step
            cases step with
            | continued next later again =>
                exact .receiving _ _ _ _
                  (.packet socket rest connection next own later past packet hears arrives again)
            | rejected later => exact .closing later
            | unscheduled keyed fails =>
                obtain ⟨key, scheduled⟩ := (reached.keyed keyed).scheduled
                rw [fails] at scheduled
                cases scheduled
            | requested key later isRequest isRide keyed scheduled agrees =>
                exact .limiting _ _ later
                  (hears.requested arrives ⟨isRequest, isRide, keyed, scheduled, agrees, rfl⟩)
            | joined driverId later => exact .joining driverId later

theorem Received.requested {clientId : Int} {sessionKey : CString}
    (received : Received env visit (.limiting clientId sessionKey own)) :
    Requested env visit clientId sessionKey := by
  cases received.knows with
  | limiting _ _ _ requested => exact requested

end RideHailing.Session
