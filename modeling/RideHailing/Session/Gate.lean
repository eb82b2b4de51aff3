import RideHailing.Session.Effect

/-!
# The gate of the connection handler

The invariant of `handle_client` between two packets: nothing has happened to
the shared state yet, and the current key, if there is one, was derived by the
latest handshake of the connection.  From it follows what a connection can do
at all, and which packets it takes to make it do so.
-/

namespace RideHailing.Session

open RideHailing.Bytes
open RideHailing.Common
open RideHailing.Server

universe u

variable {γ : Type u} {env : Env γ} {start connection next : Connection}
  {world current later : World γ} {past packets : List Packet} {packet : Packet}

/-- The key that a handshake packet derives, from the buffer it was received
into and the private key drawn for it. -/
def handshakeKey (env : Env γ) (connection : Connection) (world : World γ) : CString :=
  deriveSessionKey (calculateSharedSecret (publicKeyField connection.body.bytes)
    (env.generatePrivateKey world.outside).1) 64

/-- The key was derived by the latest handshake among the packets. -/
def LatestKey (env : Env γ) (start : Connection) (world : World γ) (packets : List Packet)
    (key : CString) : Prop :=
  ∃ before handshake after connection current, packets = before ++ handshake :: after ∧
    handshake.header.type = msgTypeHandshake ∧
    (∀ packet ∈ after, packet.header.type ≠ msgTypeHandshake) ∧
    serve env before start world = .again connection current ∧
    key = handshakeKey env (connection.receive handshake) current

/-- The state of `handle_client` between two packets. -/
structure Reached (env : Env γ) (start : Connection) (world : World γ) (past : List Packet)
    (connection : Connection) (current : World γ) : Prop where
  served : serve env past start world = .again connection current
  writable : connection.body.writable = true
  shared : current.shared = world.shared
  quiet : stateOperations current = stateOperations world
  unkeyed : connection.isKeyEstablished = false →
    ∀ packet ∈ past, packet.header.type ≠ msgTypeHandshake
  keyed : connection.isKeyEstablished = true →
    LatestKey env start world past connection.sessionKey

/-! ## One packet -/

theorem answerHandshake_again
    (continues : answerHandshake env connection current = .again next later) :
    next = { connection with
        sessionKey := handshakeKey env connection current, isKeyEstablished := true } ∧
      later.shared = current.shared ∧ stateOperations later = stateOperations current := by
  rw [answerHandshake] at continues
  cases continues
  exact ⟨rfl, rfl, stateOperations_record_of_silent rfl⟩

theorem joinOrContinue_again (continues : joinOrContinue connection current = .again next later) :
    next = connection ∧ later = current := by
  rw [joinOrContinue] at continues
  split at continues
  · cases continues
  · cases continues
    exact ⟨rfl, rfl⟩

theorem joinOrContinue_exit {result : Exit γ}
    (ends : joinOrContinue connection current = .exit result) :
    (ProtocolHeader.decode connection.header.bytes).opcode = opDriverJoin ∧
      result = processDriverJoinPacket connection.body current := by
  rw [joinOrContinue] at ends
  split at ends
  next isJoin =>
    cases ends
    exact ⟨isJoin, rfl⟩
  next => cases ends

theorem accept_shared (key : Rc4State) (packet : Packet) (world : World γ) :
    (accept key packet world).shared = world.shared :=
  rfl

theorem stateOperations_accept (key : Rc4State) (packet : Packet) (world : World γ) :
    stateOperations (accept key packet world) = stateOperations world :=
  stateOperations_record_of_silent rfl

theorem LatestKey.snoc {key : CString} (latest : LatestKey env start world past key)
    (notHandshake : packet.header.type ≠ msgTypeHandshake) :
    LatestKey env start world (past ++ [packet]) key := by
  obtain ⟨before, handshake, after, connection, current, rfl, isHandshake, none, served, derived⟩ :=
    latest
  refine ⟨before, handshake, after ++ [packet], connection, current, ?_, isHandshake, ?_, served,
    derived⟩
  · rw [List.append_assoc, List.cons_append]
  · intro other member
    rcases List.mem_append.mp member with earlier | last
    · exact none other earlier
    · rw [List.mem_singleton.mp last]
      exact notHandshake

/-- A key that a handshake left can be scheduled. -/
theorem LatestKey.scheduled {sessionKey : CString}
    (latest : LatestKey env start world past sessionKey) :
    ∃ key, keySchedule sessionKey = some key := by
  obtain ⟨_, _, _, _, _, _, _, _, _, rfl⟩ := latest
  exact keySchedule_deriveSessionKey _

theorem serve_snoc_again (served : serve env past start world = .again connection current)
    (continues : handlePacket env (connection.receive packet) current = .again next later) :
    serve env (past ++ [packet]) start world = .again next later := by
  rw [serve_append_again served, serve, continues]
  rfl

/-- A packet that is no handshake and lets the loop continue keeps the key. -/
theorem Reached.keep (reached : Reached env start world past connection current)
    (continues : handlePacket env (connection.receive packet) current = .again next later)
    (notHandshake : packet.header.type ≠ msgTypeHandshake)
    (writable : next.body.writable = true) (sessionKey : next.sessionKey = connection.sessionKey)
    (established : next.isKeyEstablished = connection.isKeyEstablished)
    (shared : later.shared = current.shared)
    (quiet : stateOperations later = stateOperations current) :
    Reached env start world (past ++ [packet]) next later := by
  constructor
  · exact serve_snoc_again reached.served continues
  · exact writable
  · exact shared.trans reached.shared
  · exact quiet.trans reached.quiet
  · intro unkeyed other member
    rcases List.mem_append.mp member with earlier | last
    · exact reached.unkeyed (established ▸ unkeyed) other earlier
    · rw [List.mem_singleton.mp last]
      exact notHandshake
  · intro keyed
    rw [sessionKey]
    exact (reached.keyed (established ▸ keyed)).snoc notHandshake

/-- A handshake installs its key. -/
theorem Reached.rekey (reached : Reached env start world past connection current)
    (isHandshake : packet.header.type = msgTypeHandshake)
    (continues : handlePacket env (connection.receive packet) current = .again next later)
    (answered : answerHandshake env (connection.receive packet) current = .again next later) :
    Reached env start world (past ++ [packet]) next later := by
  obtain ⟨rfl, shared, quiet⟩ := answerHandshake_again answered
  constructor
  · exact serve_snoc_again reached.served continues
  · exact reached.writable
  · exact shared.trans reached.shared
  · exact quiet.trans reached.quiet
  · intro unkeyed
    cases unkeyed
  · intro _
    exact ⟨past, packet, [], connection, current, rfl, isHandshake, nofun, reached.served, rfl⟩

theorem requestType_ne : msgTypeRideReq ≠ msgTypeHandshake := by
  decide

/-- The invariant survives every packet after which the loop continues. -/
theorem Reached.snoc (reached : Reached env start world past connection current)
    (continues : handlePacket env (connection.receive packet) current = .again next later) :
    Reached env start world (past ++ [packet]) next later := by
  have step := handlePacket_step env reached.writable packet current
  rw [continues] at step
  generalize control_eq : Control.again next later = control at step
  cases step with
  | handshake isHandshake => exact reached.rekey isHandshake continues control_eq.symm
  | unkeyed isRequest unkeyed => cases control_eq
  | unscheduled isRequest keyed fails => cases control_eq
  | mismatch key isRequest keyed scheduled wrong => cases control_eq
  | ride key isRequest keyed scheduled agrees isRide => cases control_eq
  | fallThrough key isRequest keyed scheduled agrees notRide =>
      obtain ⟨rfl, rfl⟩ := joinOrContinue_again control_eq.symm
      have notHandshake : packet.header.type ≠ msgTypeHandshake := isRequest ▸ requestType_ne
      exact reached.keep continues notHandshake reached.writable rfl rfl rfl
        (stateOperations_accept key packet current)
  | other notHandshake notRequest =>
      obtain ⟨rfl, rfl⟩ := joinOrContinue_again control_eq.symm
      exact reached.keep continues notHandshake reached.writable rfl rfl rfl rfl

/-! ## Whole connections -/

/-- Every state between two packets satisfies the invariant. -/
theorem reached_of_served (fresh : start.isKeyEstablished = false)
    (writable : start.body.writable = true)
    (served : serve env past start world = .again connection current) :
    Reached env start world past connection current := by
  induction past using List.reverseRecOn generalizing connection current with
  | nil =>
      cases served
      constructor
      · rfl
      · exact writable
      · rfl
      · rfl
      · exact fun _ => nofun
      · intro keyed
        rw [fresh] at keyed
        cases keyed
  | append_singleton past packet ih =>
      rw [serve_append] at served
      cases before : serve env past start world with
      | exit result =>
          rw [before] at served
          cases served
      | again middle earlier =>
          rw [before] at served
          simp only [serve] at served
          cases outcome : handlePacket env (middle.receive packet) earlier with
          | exit result =>
              rw [outcome] at served
              cases served
          | again last final =>
              rw [outcome] at served
              cases served
              exact (ih before).snoc outcome

/-- A sequence that ends the connection ends it at one of its packets. -/
theorem serve_exit {result : Exit γ} (ended : serve env packets start world = .exit result) :
    ∃ before packet after connection current, packets = before ++ packet :: after ∧
      serve env before start world = .again connection current ∧
      handlePacket env (connection.receive packet) current = .exit result := by
  induction packets generalizing start world with
  | nil => cases ended
  | cons packet packets ih =>
      rw [serve] at ended
      cases outcome : handlePacket env (start.receive packet) world with
      | again next later =>
          rw [outcome] at ended
          obtain ⟨before, last, after, connection, current, rfl, served, final⟩ := ih ended
          refine ⟨packet :: before, last, after, connection, current, rfl, ?_, final⟩
          rw [serve, outcome]
          exact served
      | exit other =>
          rw [outcome] at ended
          cases ended
          exact ⟨[], packet, packets, start, world, rfl, rfl, outcome⟩

/-! ## The end of a connection -/

/-- The packet is a ride request for the client, whose body decrypts, under the
current key, to the checksum of its header. -/
structure Authenticated (connection : Connection) (packet : Packet) (key : Rc4State)
    (clientId : Int) : Prop where
  isRequest : packet.header.type = msgTypeRideReq
  isRide : packet.header.opcode = opReqRide
  keyed : connection.isKeyEstablished = true
  scheduled : keySchedule connection.sessionKey = some key
  agrees : ChecksumAgrees key packet
  names : requestClientId (connection.decrypt packet key).body.bytes = clientId

theorem HasEffect.of_quiet {before middle after : World γ} {operations : List Operation}
    (shared : middle.shared = before.shared)
    (quiet : stateOperations middle = stateOperations before)
    (effect : HasEffect middle after operations) : HasEffect before after operations := by
  obtain ⟨recorded, effect⟩ := effect
  rw [shared] at effect
  rw [quiet] at recorded
  exact ⟨recorded, effect⟩

/-- The join at the end of a connection is no ride request. -/
theorem joinOrContinue_effect {result : Exit γ}
    (ends : joinOrContinue connection current = .exit result) :
    ∃ operations, HasEffect current (exitWorld result) operations ∧
      ∀ operation ∈ operations, requestOf operation = none := by
  obtain ⟨_, rfl⟩ := joinOrContinue_exit ends
  rcases processDriverJoinPacket_effect connection.body current with nothing | joined
  · exact ⟨[], nothing, nofun⟩
  · exact ⟨_, joined, by simp [requestOf]⟩

/-- The packet that ends a connection has at most one effect, and it has the
effect of a client's ride request only if it is authenticated and names the
client. -/
theorem handlePacket_effect (writable : connection.body.writable = true) {result : Exit γ}
    (ends : handlePacket env (connection.receive packet) current = .exit result) :
    ∃ operations, HasEffect current (exitWorld result) operations ∧
      ∀ operation ∈ operations, ∀ clientId, requestOf operation = some clientId →
        ∃ key, Authenticated connection packet key clientId := by
  have step := handlePacket_step env writable packet current
  rw [ends] at step
  generalize control_eq : Control.exit result = control at step
  cases step with
  | handshake isHandshake =>
      rw [answerHandshake] at control_eq
      cases control_eq
  | unkeyed isRequest unkeyed =>
      cases control_eq
      exact ⟨[], HasEffect.refl current, nofun⟩
  | unscheduled isRequest keyed fails =>
      cases control_eq
      exact ⟨[], HasEffect.refl current, nofun⟩
  | mismatch key isRequest keyed scheduled wrong =>
      cases control_eq
      exact ⟨[], HasEffect.refl current, nofun⟩
  | ride key isRequest keyed scheduled agrees isRide =>
      rw [Control.exit.inj control_eq]
      obtain ⟨rest, effect, _⟩ := processRideRequestWrapper_effect env
        (connection.decrypt packet key).body connection.sessionKey (accept key packet current)
      refine ⟨_, effect.of_quiet (accept_shared key packet current)
        (stateOperations_accept key packet current), fun operation member clientId asks => ?_⟩
      have names := Option.some.inj ((effect.requester operation member).symm.trans asks)
      exact ⟨key, isRequest, isRide, keyed, scheduled, agrees, names⟩
  | fallThrough key isRequest keyed scheduled agrees notRide =>
      obtain ⟨operations, effect, noRequest⟩ := joinOrContinue_effect control_eq.symm
      exact ⟨operations, effect.of_quiet (accept_shared key packet current)
        (stateOperations_accept key packet current),
        fun operation member _ asks => nomatch (noRequest operation member).symm.trans asks⟩
  | other notHandshake notRequest =>
      obtain ⟨operations, effect, noRequest⟩ := joinOrContinue_effect control_eq.symm
      exact ⟨operations, effect,
        fun operation member _ asks => nomatch (noRequest operation member).symm.trans asks⟩

/-- A ride request without a key, or whose checksum does not agree under the
current key, ends the connection and changes nothing at all. -/
theorem handlePacket_rejected (writable : connection.body.writable = true)
    (isRequest : packet.header.type = msgTypeRideReq)
    (rejected : connection.isKeyEstablished = false ∨
      ∃ key, keySchedule connection.sessionKey = some key ∧ ¬ ChecksumAgrees key packet) :
    handlePacket env (connection.receive packet) current = .exit (.returned current) := by
  have step := handlePacket_step env writable packet current
  generalize handlePacket env (connection.receive packet) current = control at step
  cases step with
  | handshake isHandshake => exact absurd (isRequest.symm.trans isHandshake) requestType_ne
  | unkeyed isRequest unkeyed => rfl
  | unscheduled isRequest keyed fails =>
      rcases rejected with unkeyed | ⟨key, scheduled, _⟩
      · rw [keyed] at unkeyed
        cases unkeyed
      · rw [fails] at scheduled
        cases scheduled
  | mismatch key isRequest keyed scheduled wrong => rfl
  | ride key isRequest keyed scheduled agrees isRide =>
      rcases rejected with unkeyed | ⟨other, known, wrong⟩
      · rw [keyed] at unkeyed
        cases unkeyed
      · rw [scheduled] at known
        cases known
        exact absurd agrees wrong
  | fallThrough key isRequest keyed scheduled agrees notRide =>
      rcases rejected with unkeyed | ⟨other, known, wrong⟩
      · rw [keyed] at unkeyed
        cases unkeyed
      · rw [scheduled] at known
        cases known
        exact absurd agrees wrong
  | other notHandshake notRequest => exact absurd isRequest notRequest

/-- Without a handshake there is no key. -/
theorem Reached.unkeyed_of_none (reached : Reached env start world past connection current)
    (none : ∀ packet ∈ past, packet.header.type ≠ msgTypeHandshake) :
    connection.isKeyEstablished = false := by
  cases keyed : connection.isKeyEstablished with
  | false => rfl
  | true =>
      obtain ⟨before, handshake, after, _, _, rfl, isHandshake, _⟩ := reached.keyed keyed
      exact absurd isHandshake (none handshake (by simp))

/-- The connection ends, with this result, at a ride request of the client that
is authenticated under the key of the latest handshake before it. -/
inductive RequestEnds (env : Env γ) (start : Connection) (world : World γ)
    (packets : List Packet) (clientId : Int) (result : Exit γ) : Prop
  | intro (before : List Packet) (request : Packet) (after : List Packet)
      (connection : Connection) (current : World γ) (key : Rc4State)
      (split : packets = before ++ request :: after)
      (served : serve env before start world = .again connection current)
      (ends : handlePacket env (connection.receive request) current = .exit result)
      (latest : LatestKey env start world before connection.sessionKey)
      (authenticated : Authenticated connection request key clientId)

/-- Packet-level form of the gate. -/
theorem serve_effect (fresh : start.isKeyEstablished = false)
    (writable : start.body.writable = true) :
    ∃ operations,
      HasEffect world (exitWorld (Control.finish (serve env packets start world))) operations ∧
      ∀ operation ∈ operations, ∀ clientId, requestOf operation = some clientId →
        RequestEnds env start world packets clientId
          (Control.finish (serve env packets start world)) := by
  cases outcome : serve env packets start world with
  | again connection current =>
      have reached := reached_of_served fresh writable outcome
      exact ⟨[], (HasEffect.refl current).of_quiet reached.shared reached.quiet, nofun⟩
  | exit result =>
      obtain ⟨before, packet, after, connection, current, rfl, served, ends⟩ := serve_exit outcome
      have reached := reached_of_served fresh writable served
      obtain ⟨operations, effect, gated⟩ := handlePacket_effect reached.writable ends
      refine ⟨operations, effect.of_quiet reached.shared reached.quiet, ?_⟩
      intro operation member clientId asks
      obtain ⟨key, authenticated⟩ := gated operation member clientId asks
      exact .intro before packet after connection current key rfl served ends
        (reached.keyed authenticated.keyed) authenticated

/-- On every stream of complete packets `handle_client` performs at most one
state-changing operation; a ride request among them is that of the packet at
which the connection ends, authenticated under the key of the latest handshake
before it; and a ride request that comes before any handshake or fails its
checksum leaves everything as it was and ends the connection. -/
theorem handleClient_gate (env : Env γ) {socket : ReadEnd} (reliable : socket.Reliable)
    {packets : List Packet} (bytes : socket.bytes = wires packets)
    (header : Vector UInt8 ProtocolHeader.size) (body : Vector UInt8 1024) (world : World γ) :
    (∃ operations,
      HasEffect world (exitWorld (handleClient env header body socket world)) operations ∧
      ∀ operation ∈ operations, ∀ clientId, requestOf operation = some clientId →
        RequestEnds env (Connection.opened header body) world packets clientId
          (handleClient env header body socket world)) ∧
    ∀ before request after connection current, packets = before ++ request :: after →
      serve env before (Connection.opened header body) world = .again connection current →
      request.header.type = msgTypeRideReq →
      ((∀ packet ∈ before, packet.header.type ≠ msgTypeHandshake) ∨
        ∃ scheduled, keySchedule connection.sessionKey = some scheduled ∧
          ¬ ChecksumAgrees scheduled request) →
      handleClient env header body socket world = .returned current ∧
        current.shared = world.shared ∧ stateOperations current = stateOperations world := by
  rw [handleClient_wires env reliable bytes]
  constructor
  · exact serve_effect rfl rfl
  · rintro before request after connection current rfl served isRequest rejected
    have reached := reached_of_served rfl rfl served
    have ends : handlePacket env (connection.receive request) current =
        .exit (.returned current) := by
      apply handlePacket_rejected reached.writable isRequest
      rcases rejected with none | wrong
      · exact Or.inl (reached.unkeyed_of_none none)
      · exact Or.inr wrong
    refine ⟨?_, reached.shared, reached.quiet⟩
    rw [serve_append_again served, serve, ends]
    rfl

/-- A ride request as the only packet of a connection. -/
def bareRequest : Packet where
  header := { length := 0, type := msgTypeRideReq, opcode := opReqRide, checksum := 0xFFFF }
  body := []
  length_eq := noBody_length
  fits := noBody_fits

/-- A handshake with the public key 1. -/
def greeting : Packet where
  header :=
    { length := UInt32.ofNat handshakeDataSize
      type := msgTypeHandshake
      opcode := opHandshake
      checksum := 0 }
  body := encodeHandshakeData 1
  length_eq := length_encodeHandshakeData 1
  fits := handshakeData_fits

/-- The connection after it. -/
def greeted : Connection :=
  { (Connection.opened (Vector.replicate _ 0) (Vector.replicate _ 0)).receive greeting with
    sessionKey := handshakeKey stillEnv
      ((Connection.opened (Vector.replicate _ 0) (Vector.replicate _ 0)).receive greeting)
      (World.opened SharedState.zeroed)
    isKeyEstablished := true }

/-- A sealed request of client 7 under the key of that handshake. -/
def greetedRequest (key : Rc4State) : Packet :=
  sealRequest key (RideRequestData.encode ⟨7, 0, 0, 0⟩) (RideRequestData.length_encode _)

theorem greeting_served :
    ∃ current, serve stillEnv [greeting]
        (Connection.opened (Vector.replicate _ 0) (Vector.replicate _ 0))
        (World.opened SharedState.zeroed) = .again greeted current ∧
      stateOperations current = [] := by
  rw [serve, handlePacket_handshake stillEnv _ rfl]
  exact ⟨_, rfl, rfl⟩

theorem greetedRequest_ends {key : Rc4State} {current : World Unit}
    (scheduled : keySchedule greeted.sessionKey = some key)
    (quiet : stateOperations current = []) :
    ∃ result blocked rest,
      handlePacket stillEnv (greeted.receive (greetedRequest key)) current = .exit result ∧
      stateOperations (exitWorld result) = .rateLimitCheck 7 blocked :: rest := by
  have writable : greeted.body.writable = true := rfl
  have keyed : greeted.isKeyEstablished = true := rfl
  have agrees : ChecksumAgrees key (greetedRequest key) :=
    checksumAgrees_sealRequest key (RideRequestData.length_encode _)
  have step := handlePacket_agreeing stillEnv writable keyed scheduled agrees current
  have names : requestClientId (greeted.decrypt (greetedRequest key) key).body.bytes = 7 :=
    (requestClientId_sealRequest greeted key ⟨7, 0, 0, 0⟩).trans
      (Arithmetic.wrap32_eq_self (by decide) (by decide))
  generalize handlePacket stillEnv (greeted.receive (greetedRequest key)) current = control
    at step
  cases step with
  | handshake isHandshake => exact absurd isHandshake requestType_ne
  | ride isRequest isRide =>
      obtain ⟨rest, ⟨recorded, _⟩, _⟩ := processRideRequestWrapper_effect stillEnv
        (greeted.decrypt (greetedRequest key) key).body greeted.sessionKey
        (accept key (greetedRequest key) current)
      rw [stateOperations_accept, quiet, names, List.nil_append] at recorded
      exact ⟨_, _, rest, rfl, recorded⟩
  | fallThrough isRequest notRide => exact absurd rfl notRide
  | other notHandshake notRequest => exact absurd rfl notRequest

/-- A handshake with a sealed request, and the request alone. -/
theorem handleClient_gate_greetedRequest :
    ∃ key, keySchedule greeted.sessionKey = some key ∧
      RequestEnds stillEnv (Connection.opened (Vector.replicate _ 0) (Vector.replicate _ 0))
        (World.opened SharedState.zeroed) [greeting, greetedRequest key] 7
        (handleClient stillEnv (Vector.replicate _ 0) (Vector.replicate _ 0)
          (ReadEnd.ofBytes (wires [greeting, greetedRequest key]))
          (World.opened SharedState.zeroed)) ∧
      handleClient stillEnv (Vector.replicate _ 0) (Vector.replicate _ 0)
        (ReadEnd.ofBytes (wires [bareRequest])) (World.opened SharedState.zeroed) =
          .returned (World.opened SharedState.zeroed) := by
  obtain ⟨key, scheduled⟩ : ∃ key, keySchedule greeted.sessionKey = some key :=
    keySchedule_deriveSessionKey _
  have gate := handleClient_gate stillEnv
    (ReadEnd.reliable_ofBytes (wires [greeting, greetedRequest key]))
    (ReadEnd.bytes_ofBytes (wires [greeting, greetedRequest key])) (Vector.replicate _ 0)
    (Vector.replicate _ 0) (World.opened SharedState.zeroed)
  have bare := handleClient_gate stillEnv (ReadEnd.reliable_ofBytes (wires [bareRequest]))
    (ReadEnd.bytes_ofBytes (wires [bareRequest])) (Vector.replicate _ 0)
    (Vector.replicate _ 0) (World.opened SharedState.zeroed)
  obtain ⟨current, served, quiet⟩ := greeting_served
  obtain ⟨result, blocked, rest, ends, recorded⟩ := greetedRequest_ends scheduled quiet
  have handled := handleClient_wires stillEnv
    (ReadEnd.reliable_ofBytes (wires [greeting, greetedRequest key]))
    (ReadEnd.bytes_ofBytes (wires [greeting, greetedRequest key])) (Vector.replicate _ 0)
    (Vector.replicate _ 0) (World.opened SharedState.zeroed)
  have whole : serve stillEnv [greeting, greetedRequest key]
      (Connection.opened (Vector.replicate _ 0) (Vector.replicate _ 0))
      (World.opened SharedState.zeroed) = .exit result := by
    have last : serve stillEnv [greetedRequest key] greeted current = .exit result := by
      rw [serve, ends]
    exact (serve_append_again served [greetedRequest key]).trans last
  rw [whole, Control.finish] at handled
  obtain ⟨operations, ⟨record, _⟩, asked⟩ := gate.1
  rw [handled, recorded] at record
  have member : Operation.rateLimitCheck 7 blocked ∈ operations := by
    rw [← record.trans (List.nil_append _)]
    exact List.mem_cons_self
  have noHandshake : ∀ packet ∈ ([] : List Packet), packet.header.type ≠ msgTypeHandshake :=
    fun _ nothing => absurd nothing List.not_mem_nil
  exact ⟨key, scheduled, asked _ member _ rfl,
    (bare.2 [] bareRequest [] _ _ rfl rfl rfl (Or.inl noHandshake)).1⟩

end RideHailing.Session
