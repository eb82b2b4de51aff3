import RideHailing.Client.Stream
import RideHailing.Session.Reply

/-!
# Streams that end inside a packet

`recv_n` returns a short positive count at the end of the stream.  The body is
received under the test `!= length`, the header under the test `<= 0`: nine
bytes of which only the first ones are new then pass for a header.  Every cut
position is followed here through the receive loop, after an arbitrary history
of packets, and through the client.
-/

namespace RideHailing.Session

open RideHailing.Bytes
open RideHailing.Client
open RideHailing.Common
open RideHailing.Fleet
open RideHailing.Server
open RideHailing.Transition

universe u

variable {γ : Type u} {env : Env γ} {start connection next : Connection}
  {world current later : World γ} {past : List Packet} {packet : Packet} {tail : List UInt8}

/-- The stream ends strictly inside a packet: inside its header, or inside the
body that the header announces.  A header that announces more than the buffer
holds is the last one to be read, whatever follows it. -/
inductive CutPacket : List UInt8 → Prop
  | header {tail : List UInt8} (some : tail ≠ []) (short : tail.length < ProtocolHeader.size) :
      CutPacket tail
  | body (header : ProtocolHeader) (part : List UInt8) (short : part.length < header.length.toNat) :
      CutPacket (header.encode ++ part)
  | refused (header : ProtocolHeader) (rest : List UInt8) (beyond : 1024 < header.length.toNat) :
      CutPacket (header.encode ++ rest)

/-- What the header buffer holds after the first bytes of a header were read
into it. -/
def overlaid (buffer : Region ProtocolHeader.size) (tail : List UInt8) : ProtocolHeader :=
  .decode (buffer.write tail).bytes

/-- A header without a body on which the loop body acts. -/
def ActedOn (established : Bool) (header : ProtocolHeader) : Prop :=
  header.length = 0 ∧
    (header.type = msgTypeHandshake ∨
      header.type = msgTypeRideReq ∧ established = true ∧ header.checksum = 0xFFFF ∧
        (header.opcode = opReqRide ∨ header.opcode = opDriverJoin) ∨
      header.type ≠ msgTypeHandshake ∧ header.type ≠ msgTypeRideReq ∧
        header.opcode = opDriverJoin)

instance (established : Bool) (header : ProtocolHeader) : Decidable (ActedOn established header) :=
  inferInstanceAs (Decidable (_ ∧ _))

/-- Nothing has changed in the shared state and nothing was sent. -/
def Unnoticed (before after : World γ) : Prop :=
  after.shared = before.shared ∧ after.sent = before.sent

theorem Unnoticed.refl (world : World γ) : Unnoticed world world :=
  ⟨rfl, rfl⟩

/-! ## The receive loop at a cut -/

/-- A header that announces no body, as a packet. -/
def emptyPacket (header : ProtocolHeader) (empty : header.length.toNat = 0) : Packet where
  header := header
  body := []
  length_eq := empty.symm
  fits := by
    rw [empty]
    exact Nat.zero_le 1024

/-- A body that the stream does not complete is not received. -/
theorem receiveBody_short {socket : ReadEnd} (reliable : socket.Reliable) {length : Nat}
    (short : socket.bytes.length < length) (before : Region 1024) :
    receiveBody length socket before = none := by
  obtain ⟨ret, _⟩ := recvN_reliable reliable length
  rw [List.take_of_length_le (Nat.le_of_lt short)] at ret
  have differs : (recvN socket length).ret ≠ length := by
    rw [ret]
    omega
  rw [receiveBody, if_pos (Nat.zero_lt_of_lt short), if_pos differs]

/-- A cut inside the header: unless the overlaid header announces no body, the
connection ends. -/
theorem receiveLoop_cutHeader (env : Env γ) {socket : ReadEnd} (reliable : socket.Reliable)
    (bytes : socket.bytes = tail) (some : tail ≠ []) (short : tail.length < ProtocolHeader.size)
    (connection : Connection) (world : World γ) :
    ((overlaid connection.header tail).length.toNat ≠ 0 →
      receiveLoop env socket connection world = .returned world) ∧
    ∀ empty, receiveLoop env socket connection world = Control.finish (handlePacket env
      (connection.receive (emptyPacket (overlaid connection.header tail) empty)) world) := by
  obtain ⟨ret, data, ended, still⟩ := recvN_reliable reliable ProtocolHeader.size
  rw [bytes, List.take_of_length_le (Nat.le_of_lt short)] at ret data
  rw [bytes, List.drop_of_length_le (Nat.le_of_lt short)] at ended
  have arrived : 0 < (recvN socket ProtocolHeader.size).ret := by
    have positive := List.length_pos_of_ne_nil some
    rw [ret]
    omega
  constructor
  · intro announced
    apply receiveLoop_of_ends
    refine Or.inr (Or.inr (receiveBody_short still ?_ connection.body))
    rw [ended, data]
    exact Nat.pos_of_ne_zero announced
  · intro empty
    have received : receiveBody (overlaid connection.header tail).length.toNat
        (recvN socket ProtocolHeader.size).rest connection.body =
          .some (connection.body, (recvN socket ProtocolHeader.size).rest) := by
      rw [receiveBody, empty]
      exact if_neg (Nat.lt_irrefl 0)
    have fits : (overlaid connection.header tail).length.toNat ≤ 1024 := by
      rw [empty]
      exact Nat.zero_le 1024
    rw [overlaid, ← data] at received fits
    rw [receiveLoop_of_receives env ⟨arrived, fits, received⟩ world, data]
    have header : (emptyPacket (overlaid connection.header tail) empty).header.encode =
        (connection.header.write tail).bytes :=
      ProtocolHeader.encode_decode (connection.header.write tail).length_eq
    have body : connection.body.write
        (emptyPacket (overlaid connection.header tail) empty).body = connection.body :=
      connection.body.write_nil
    rw [Connection.receive, header, Region.write_bytes_write, body]
    cases handlePacket env { connection with header := connection.header.write tail } world with
    | again next later => exact receiveLoop_end env still ended next later
    | exit result => rfl

/-- A cut inside the body: the connection ends. -/
theorem receiveLoop_cutBody {socket : ReadEnd} (reliable : socket.Reliable)
    {header : ProtocolHeader} {part : List UInt8} (bytes : socket.bytes = header.encode ++ part)
    (short : part.length < header.length.toNat) (connection : Connection) (world : World γ) :
    receiveLoop env socket connection world = .returned world := by
  obtain ⟨_, _, announced, rest, still⟩ := header_arrives reliable bytes connection
  apply receiveLoop_of_ends
  refine Or.inr (Or.inr (receiveBody_short still ?_ connection.body))
  rw [rest, announced]
  exact short

/-- A header that announces too much ends the connection. -/
theorem receiveLoop_refused {socket : ReadEnd} (reliable : socket.Reliable)
    {header : ProtocolHeader} {rest : List UInt8} (bytes : socket.bytes = header.encode ++ rest)
    (beyond : 1024 < header.length.toNat) (connection : Connection) (world : World γ) :
    receiveLoop env socket connection world = .returned world := by
  obtain ⟨_, _, announced, _⟩ := header_arrives reliable bytes connection
  apply receiveLoop_of_ends
  rw [RoundEnds, announced]
  exact Or.inr (Or.inl beyond)

/-! ## A header without a body -/

theorem exitWorld_finish (control : Control γ) :
    exitWorld (Control.finish control) = controlWorld control := by
  cases control with
  | again connection world => rfl
  | exit result => rfl

/-- Whatever was sent gives the packet away. -/
theorem not_unnoticed_of_sent {before after : World γ} {header : ProtocolHeader}
    {rest : List UInt8} (sent : after.sent = before.sent ++ (header.encode ++ rest)) :
    ¬ Unnoticed before after := by
  rintro ⟨_, silent⟩
  have nothing := congrArg List.length (List.append_right_eq_self.mp (sent.symm.trans silent))
  rw [List.length_append, header.length_encode, List.length_nil] at nothing
  exact absurd (Nat.eq_zero_of_add_eq_zero_right nothing) (by decide)

theorem answerHandshake_noticed (reliable : current.writes.Reliable) (env : Env γ)
    (connection : Connection) :
    ¬ Unnoticed current (controlWorld (answerHandshake env connection current)) := by
  have before : (World.record { current with outside := (env.generatePrivateKey current.outside).2 }
      (.handshake (handshakeKey env connection current))).writes.Reliable := reliable
  exact not_unnoticed_of_sent (World.send_send before handshakeResponseHeader.encode
    (encodeHandshakeData (calculatePublicKey (env.generatePrivateKey current.outside).1))).1

/-- The last test of the loop body shows in the outcome exactly when it finds
a join. -/
theorem joinOrContinue_unnoticed_iff (reachable : Reachable secureServer current.shared)
    (reliable : current.writes.Reliable) (connection : Connection) :
    Unnoticed current (controlWorld (joinOrContinue connection current)) ↔
      (ProtocolHeader.decode connection.header.bytes).opcode ≠ opDriverJoin := by
  constructor
  · intro unnoticed isJoin
    rw [joinOrContinue_of_eq isJoin] at unnoticed
    obtain ⟨next, join⟩ := processDriverJoin_total (driverIdField connection.body.bytes)
      (reachable_wellFormed reachable).nonneg
    have before : (World.record { current with shared := next }
        (.driverJoin (driverIdField connection.body.bytes))).writes.Reliable := reliable
    have sent : ((World.record { current with shared := next }
        (.driverJoin (driverIdField connection.body.bytes))).send driverJoinResponse.encode).sent =
          current.sent ++ (driverJoinResponse.encode ++ []) := by
      rw [World.send_sent before, World.record_sent, List.append_nil]
    rw [processDriverJoinPacket, join] at unnoticed
    exact not_unnoticed_of_sent sent unnoticed
  · intro notJoin
    rw [joinOrContinue_of_ne notJoin]
    exact Unnoticed.refl current

theorem checksumAgrees_emptyPacket (key : Rc4State) {header : ProtocolHeader}
    (empty : header.length.toNat = 0) :
    ChecksumAgrees key (emptyPacket header empty) ↔ header.checksum = 0xFFFF := by
  have zero : (emptyPacket header empty).header.length.toNat = 0 := empty
  rw [ChecksumAgrees, zero, calculateChecksum_zero]
  exact eq_comm

theorem actedOn_request {established : Bool} {header : ProtocolHeader}
    (noBody : header.length = 0) (isRequest : header.type = msgTypeRideReq) :
    ActedOn established header ↔ established = true ∧ header.checksum = 0xFFFF ∧
      (header.opcode = opReqRide ∨ header.opcode = opDriverJoin) := by
  simp [ActedOn, noBody, isRequest, requestType_ne]

theorem actedOn_other {established : Bool} {header : ProtocolHeader}
    (noBody : header.length = 0) (notHandshake : header.type ≠ msgTypeHandshake)
    (notRequest : header.type ≠ msgTypeRideReq) :
    ActedOn established header ↔ header.opcode = opDriverJoin := by
  simp [ActedOn, noBody, notHandshake, notRequest]

/-- A packet without a body shows in the outcome exactly when it is acted on. -/
theorem emptyPacket_unnoticed_iff (reached : Reached env start world past connection current)
    (reachable : Reachable secureServer world.shared) (reliable : current.writes.Reliable)
    {header : ProtocolHeader} (empty : header.length.toNat = 0) :
    Unnoticed current (controlWorld
        (handlePacket env (connection.receive (emptyPacket header empty)) current)) ↔
      ¬ ActedOn connection.isKeyEstablished header := by
  have state : Reachable secureServer current.shared := by
    rw [reached.shared]
    exact reachable
  have noBody : header.length = 0 := UInt32.toNat_inj.mp empty
  have acceptState : ∀ key, Reachable secureServer
      (accept key (emptyPacket header empty) current).shared := fun _ => state
  have acceptWrites : ∀ key, (accept key (emptyPacket header empty) current).writes.Reliable :=
    fun _ => reliable
  have step := handlePacket_step env reached.writable (emptyPacket header empty) current
  generalize handlePacket env (connection.receive (emptyPacket header empty)) current = control
    at step
  cases step with
  | handshake isHandshake =>
      have acted : ActedOn connection.isKeyEstablished header := ⟨noBody, Or.inl isHandshake⟩
      exact iff_of_false (answerHandshake_noticed reliable env _) (not_not_intro acted)
  | unkeyed isRequest unkeyed =>
      refine iff_of_true (Unnoticed.refl current) ?_
      rw [actedOn_request noBody isRequest, unkeyed]
      exact fun acted => Bool.noConfusion acted.1
  | unscheduled isRequest keyed fails =>
      obtain ⟨key, scheduled⟩ := (reached.keyed keyed).scheduled
      rw [fails] at scheduled
      cases scheduled
  | mismatch key isRequest keyed scheduled wrong =>
      refine iff_of_true (Unnoticed.refl current) ?_
      rw [actedOn_request noBody isRequest]
      exact fun acted => wrong ((checksumAgrees_emptyPacket key empty).mpr acted.2.1)
  | ride key isRequest keyed scheduled agrees isRide =>
      have checksum := (checksumAgrees_emptyPacket key empty).mp agrees
      have acts := processRideRequestWrapper_acts
        (acceptState key) (acceptWrites key) scheduled env
        (connection.decrypt (emptyPacket header empty) key).body
      have acted := (actedOn_request noBody isRequest).mpr ⟨keyed, checksum, Or.inl isRide⟩
      exact iff_of_false acts (not_not_intro acted)
  | fallThrough key isRequest keyed scheduled agrees notRide =>
      have checksum := (checksumAgrees_emptyPacket key empty).mp agrees
      have joins := joinOrContinue_unnoticed_iff (acceptState key) (acceptWrites key)
        (connection.decrypt (emptyPacket header empty) key)
      have notRequest : header.opcode ≠ opReqRide := notRide
      rw [Connection.decrypt_header] at joins
      rw [actedOn_request noBody isRequest, iff_true_intro keyed, iff_true_intro checksum,
        iff_false_intro notRequest, true_and, true_and, false_or]
      exact joins
  | other notHandshake notRequest =>
      rw [actedOn_other noBody notHandshake notRequest]
      have joins := joinOrContinue_unnoticed_iff state reliable
        (connection.receive (emptyPacket header empty))
      rwa [Connection.receive_header] at joins

/-! ## The server on a cut stream -/

/-- No packet after which the loop continues breaks the socket. -/
theorem reliable_of_again (writable : connection.body.writable = true)
    (reliable : current.writes.Reliable)
    (continues : handlePacket env (connection.receive packet) current = .again next later) :
    later.writes.Reliable := by
  have step := handlePacket_step env writable packet current
  rw [continues] at step
  generalize control_eq : Control.again next later = control at step
  cases step with
  | handshake isHandshake =>
      rw [answerHandshake] at control_eq
      cases control_eq
      exact World.send_reliable (World.send_reliable reliable _) _
  | unkeyed isRequest unkeyed => cases control_eq
  | unscheduled isRequest keyed fails => cases control_eq
  | mismatch key isRequest keyed scheduled wrong => cases control_eq
  | ride key isRequest keyed scheduled agrees isRide => cases control_eq
  | fallThrough key isRequest keyed scheduled agrees notRide =>
      obtain ⟨_, rfl⟩ := joinOrContinue_again control_eq.symm
      exact reliable
  | other notHandshake notRequest =>
      obtain ⟨_, rfl⟩ := joinOrContinue_again control_eq.symm
      exact reliable

theorem reliable_of_served (fresh : start.isKeyEstablished = false)
    (writable : start.body.writable = true) (reliable : world.writes.Reliable)
    (served : serve env past start world = .again connection current) :
    current.writes.Reliable := by
  induction past using List.reverseRecOn generalizing connection current with
  | nil =>
      cases served
      exact reliable
  | append_singleton past packet ih =>
      cases before : serve env past start world with
      | exit result =>
          rw [serve_append_exit before] at served
          cases served
      | again middle earlier =>
          rw [serve_append_again before, serve] at served
          cases outcome : handlePacket env (middle.receive packet) earlier with
          | exit result =>
              rw [outcome] at served
              cases served
          | again last final =>
              rw [outcome] at served
              cases served
              exact reliable_of_again (reached_of_served fresh writable before).writable
                (ih before) outcome

/-- After the complete packets, the cut packet shows in the outcome exactly when
the cut falls inside the header and the overlaid header is acted on. -/
theorem receiveLoop_unnoticed_iff (reached : Reached env start world past connection current)
    (reachable : Reachable secureServer world.shared) (writes : current.writes.Reliable)
    (cut : CutPacket tail) {socket : ReadEnd} (reliable : socket.Reliable)
    (bytes : socket.bytes = tail) :
    Unnoticed current (exitWorld (receiveLoop env socket connection current)) ↔
      (tail.length < ProtocolHeader.size →
        ¬ ActedOn connection.isKeyEstablished (overlaid connection.header tail)) := by
  have long : ∀ (header : ProtocolHeader) (rest : List UInt8),
      ¬ (header.encode ++ rest).length < ProtocolHeader.size := by
    intro header rest
    rw [List.length_append, header.length_encode]
    exact Nat.not_lt.mpr (Nat.le_add_right _ _)
  cases cut with
  | header some short =>
      obtain ⟨announced, whole⟩ :=
        receiveLoop_cutHeader env reliable bytes some short connection current
      rw [imp_iff_right short]
      by_cases empty : (overlaid connection.header tail).length.toNat = 0
      · rw [whole empty, exitWorld_finish]
        exact emptyPacket_unnoticed_iff reached reachable writes empty
      · rw [announced empty]
        refine iff_of_true (Unnoticed.refl current) fun acted => empty ?_
        rw [acted.1]
        rfl
  | body header part short =>
      rw [receiveLoop_cutBody reliable bytes short]
      exact iff_of_true (Unnoticed.refl current) fun inside => absurd inside (long header part)
  | refused header rest beyond =>
      rw [receiveLoop_refused reliable bytes beyond]
      exact iff_of_true (Unnoticed.refl current) fun inside => absurd inside (long header rest)

/-- `handle_client` on complete packets and a cut one: compared with the service
of the complete packets alone. -/
theorem handleClient_unnoticed_iff (env : Env γ) (header : Vector UInt8 ProtocolHeader.size)
    (body : Vector UInt8 1024) {packets : List Packet}
    (reachable : Reachable secureServer world.shared) (writes : world.writes.Reliable)
    (cut : CutPacket tail) {socket : ReadEnd} (reliable : socket.Reliable)
    (bytes : socket.bytes = wires packets ++ tail) :
    Unnoticed (controlWorld (serve env packets (Connection.opened header body) world))
        (exitWorld (handleClient env header body socket world)) ↔
      ∀ connection current,
        serve env packets (Connection.opened header body) world = .again connection current →
          tail.length < ProtocolHeader.size →
            ¬ ActedOn connection.isKeyEstablished (overlaid connection.header tail) := by
  obtain ⟨remaining, tailBytes, tailReliable, loop⟩ :=
    receiveLoop_wires env reliable bytes (Connection.opened header body) world
  rw [handleClient, loop]
  cases served : serve env packets (Connection.opened header body) world with
  | again connection current =>
      have local_ := receiveLoop_unnoticed_iff (reached_of_served rfl rfl served) reachable
        (reliable_of_served rfl rfl writes served) cut tailReliable tailBytes
      rw [controlWorld, local_]
      constructor
      · rintro ignored _ _ ⟨⟩
        exact ignored
      · intro ignored
        exact ignored connection current rfl
  | exit result =>
      apply iff_of_true (Unnoticed.refl _)
      intro connection current again
      cases again

/-! ## Both sides -/

/-- A packet that the end of the stream cuts off.  The server ignores it exactly
when the cut is not inside a header that, completed by what the header buffer
held, is acted on; the client's handshake fails on it exactly when it is not an
acknowledgement cut inside its body; and the client's request fails exactly when
the bytes it reads do not pass for an exchange. -/
theorem cutPacket_ignored_iff (cut : CutPacket tail) :
    (∀ (env : Env γ) (header : Vector UInt8 ProtocolHeader.size) (body : Vector UInt8 1024)
        (socket : ReadEnd) (world : World γ) (packets : List Packet),
      socket.Reliable → socket.bytes = wires packets ++ tail →
      Reachable secureServer world.shared → world.writes.Reliable →
      (Unnoticed (controlWorld (serve env packets (Connection.opened header body) world))
          (exitWorld (handleClient env header body socket world)) ↔
        ∀ connection current,
          serve env packets (Connection.opened header body) world = .again connection current →
            tail.length < ProtocolHeader.size →
              ¬ ActedOn connection.isKeyEstablished (overlaid connection.header tail))) ∧
    (∀ (myPriv : Int) (respHeader : Region ProtocolHeader.size)
        (respBody : Region handshakeDataSize) (channel : Channel),
      channel.Reliable → channel.reads.bytes = tail →
      ((performDhHandshake myPriv respHeader respBody channel).1 = none ↔ ¬ AckArrives tail)) ∧
    ∀ (myPriv : Int) (reqBody : Region rideRequestDataSize) (buffers : Buffers)
        (channel : Channel) (packets : List Packet),
      reqBody.writable = true → channel.Reliable → packets.length ≤ 1 →
      channel.reads.bytes = wires packets ++ tail →
      ∃ outcome, performRideRequestWith myPriv reqBody buffers channel = some outcome ∧
        (outcome.ret = -1 ↔ ¬ PassesForExchange myPriv buffers (wires packets ++ tail)) := by
  refine ⟨?_, ?_, ?_⟩
  · intro env header body socket world packets reliable bytes reachable writes
    exact handleClient_unnoticed_iff env header body reachable writes cut reliable bytes
  · rintro myPriv respHeader respBody channel reliable rfl
    obtain ⟨after, handshake, _⟩ := performDhHandshake_eq reliable myPriv respHeader respBody
    rw [handshake]
    simp
  · intro myPriv reqBody buffers channel packets writable reliable _ bytes
    rw [← bytes]
    exact performRideRequestWith_fails_iff reliable myPriv writable buffers

/-- The first six bytes of a header. -/
def sixBytes : List UInt8 := [0, 0, 0, 0, 9, 2]

theorem sixBytes_cut : CutPacket sixBytes :=
  .header (by decide) (by decide)

/-- A complete packet without a body, of a type and an opcode that the server
does not act on. -/
def unknownPacket : Packet :=
  emptyPacket { length := 0, type := 9, opcode := 3, checksum := 0 } rfl

/-- The two buffers of `handle_client` when they hold zeros. -/
def zeroConnection : Connection :=
  Connection.opened (Vector.replicate _ 0) (Vector.replicate _ 0)

theorem serve_unknownPacket :
    serve stillEnv [unknownPacket] zeroConnection (World.opened SharedState.zeroed) =
      .again (zeroConnection.receive unknownPacket) (World.opened SharedState.zeroed) := by
  have notHandshake : unknownPacket.header.type ≠ msgTypeHandshake := by decide
  have notRequest : unknownPacket.header.type ≠ msgTypeRideReq := by decide
  have notJoin : (ProtocolHeader.decode
      (zeroConnection.receive unknownPacket).header.bytes).opcode ≠ opDriverJoin := by
    rw [Connection.receive_header]
    decide
  rw [serve, handlePacket_other _ _ notHandshake notRequest, joinOrContinue_of_ne notJoin]
  rfl

/-- On the six bytes the opcode of the packet before becomes that of a join. -/
theorem overlaid_unknownPacket :
    overlaid (zeroConnection.receive unknownPacket).header sixBytes =
      { length := 0, type := 9, opcode := opDriverJoin, checksum := 0 } := by
  decide

/-- A client whose server sends the six bytes and closes. -/
def sixByteChannel : Channel where
  reads := .ofBytes sixBytes
  writes := []
  sent := []

/-- The buffers of a client when they hold zeros. -/
def zeroBuffers : Buffers where
  handshakeHeader := Vector.replicate _ 0
  handshakeBody := Vector.replicate _ 0
  responseHeader := Vector.replicate _ 0
  message := Vector.replicate _ 0

theorem cutPacket_ignored_iff_sixBytes :
    (Unnoticed (controlWorld (serve stillEnv [] zeroConnection (World.opened SharedState.zeroed)))
        (exitWorld (handleClient stillEnv (Vector.replicate _ 0) (Vector.replicate _ 0)
          (.ofBytes sixBytes) (World.opened SharedState.zeroed))) ↔
      ∀ connection current,
        serve stillEnv [] zeroConnection (World.opened SharedState.zeroed) =
            .again connection current →
          sixBytes.length < ProtocolHeader.size →
            ¬ ActedOn connection.isKeyEstablished (overlaid connection.header sixBytes)) ∧
    ((performDhHandshake 1 (.ofVector zeroBuffers.handshakeHeader)
        (.ofVector zeroBuffers.handshakeBody) sixByteChannel).1 = none ↔ ¬ AckArrives sixBytes) ∧
    ∃ outcome, performRideRequestWith 1 (requestRegion (rideRequestData 7)) zeroBuffers
        sixByteChannel = some outcome ∧
      (outcome.ret = -1 ↔ ¬ PassesForExchange 1 zeroBuffers (wires [] ++ sixBytes)) := by
  obtain ⟨server, handshake, request⟩ := cutPacket_ignored_iff (γ := Unit) sixBytes_cut
  have reliable : sixByteChannel.Reliable :=
    ⟨ReadEnd.reliable_ofBytes sixBytes, WriteEnd.reliable_nil⟩
  have bytes : sixByteChannel.reads.bytes = sixBytes := ReadEnd.bytes_ofBytes sixBytes
  refine ⟨?_, ?_, ?_⟩
  · exact server stillEnv _ _ _ _ [] (ReadEnd.reliable_ofBytes _) (ReadEnd.bytes_ofBytes _)
      zeroed_reachable WriteEnd.reliable_nil
  · exact handshake 1 _ _ sixByteChannel reliable bytes
  · exact request 1 _ zeroBuffers sixByteChannel [] rfl reliable (Nat.zero_le 1) bytes

/-- Behind a packet that the server does not act on, six bytes of a header make
it register a driver. -/
theorem cutPacket_driverJoin :
    CutPacket sixBytes ∧
      ¬ Unnoticed
        (controlWorld (serve stillEnv [unknownPacket] zeroConnection
          (World.opened SharedState.zeroed)))
        (exitWorld (handleClient stillEnv (Vector.replicate _ 0) (Vector.replicate _ 0)
          (.ofBytes (wires [unknownPacket] ++ sixBytes)) (World.opened SharedState.zeroed))) := by
  refine ⟨sixBytes_cut, fun unnoticed => ?_⟩
  have ignored := (handleClient_unnoticed_iff stillEnv (Vector.replicate _ 0)
    (Vector.replicate _ 0) zeroed_reachable WriteEnd.reliable_nil sixBytes_cut
    (ReadEnd.reliable_ofBytes _) (ReadEnd.bytes_ofBytes _)).mp unnoticed _ _ serve_unknownPacket
    (by decide)
  rw [overlaid_unknownPacket] at ignored
  exact ignored (by decide)

end RideHailing.Session
