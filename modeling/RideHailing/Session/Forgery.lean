import RideHailing.Client.Malicious
import RideHailing.Session.Transparency

/-!
# The forged request

`perform_malicious_request` sends one packet and then waits for an answer.  The
secure server does nothing for it, whatever the attacker's stack holds; the
insecure server takes the bytes of the cipher for a request and serves whomever
they name.
-/

namespace RideHailing.Session

open RideHailing.Bytes
open RideHailing.Client
open RideHailing.Common
open RideHailing.Fleet
open RideHailing.Server
open RideHailing.Transition

universe u

variable {γ : Type u} {env : Env γ} {shared : SharedState}

/-- The run of the malicious client, with everything it starts from. -/
structure Attack where
  padding : UInt8
  filler : UInt32
  clientId : Int
  respHeader : Vector UInt8 ProtocolHeader.size
  msgBuffer : Region 1024
  channel : Channel

namespace Attack

variable {attack : Attack} {visit : Visit γ} {result : Exit γ} {key : Rc4State}

/-- The run of `perform_malicious_request`. -/
def client (attack : Attack) : Option (Int × Region 1024 × Channel) :=
  performMaliciousRequest attack.padding attack.filler attack.clientId
    (.ofVector attack.respHeader) attack.msgBuffer attack.channel

/-- The body before encryption. -/
def body (attack : Attack) : List UInt8 :=
  (maliciousData attack.filler attack.clientId).encode

/-- What a server receives. -/
def packet (attack : Attack) (key : Rc4State) : Packet where
  header := maliciousHeader attack.padding attack.body
  body := rc4Encrypt key attack.body
  length_eq := by
    rw [length_rc4Encrypt, body, RideRequestData.length_encode]
    rfl
  fits := rideRequestData_fits

/-- Before it reads, the attacker has sent the packet, and it sends nothing else. -/
theorem sends (reliable : attack.channel.Reliable) (fresh : attack.channel.sent = [])
    (scheduled : keySchedule wrongSecretKey = some key) :
    ∃ after, attack.client =
        some (readReply (.ofVector attack.respHeader) attack.msgBuffer after) ∧
      after.sent = (attack.packet key).wire ∧ after.reads = attack.channel.reads ∧
      after.Reliable := by
  obtain ⟨after, client, sent, reads, still⟩ := performMaliciousRequest_reliable
    reliable scheduled attack.padding attack.filler attack.clientId
    (.ofVector attack.respHeader) attack.msgBuffer
  rw [fresh, List.nil_append] at sent
  exact ⟨after, client, sent, reads, still⟩

/-- Attacker and server on one connection without losses, which the server closes
when its call has ended; `result` is how it ends. -/
structure Lossless (attack : Attack) (visit : Visit γ) (result : Exit γ) : Prop where
  channel : attack.channel.Reliable
  fresh : attack.channel.sent = []
  socket : visit.socket.Reliable
  writes : visit.writes.Reliable
  toServer : ∀ outcome, attack.client = some outcome → visit.socket.bytes = outcome.2.2.sent
  toClient : attack.channel.reads.bytes = (exitWorld result).sent

/-- The attacker reads its answer, and the server receives the packet. -/
theorem Lossless.meets (lossless : attack.Lossless visit result)
    (scheduled : keySchedule wrongSecretKey = some key) :
    ∃ after, attack.client =
        some (readReply (.ofVector attack.respHeader) attack.msgBuffer after) ∧
      after.Reliable ∧ after.reads.bytes = (exitWorld result).sent ∧
      visit.socket.bytes = wires [attack.packet key] := by
  obtain ⟨after, client, sent, reads, reliable⟩ :=
    attack.sends lossless.channel lossless.fresh scheduled
  have bytes := lossless.toServer _ client
  rw [readReply_sent, sent] at bytes
  refine ⟨after, client, reliable, ?_, ?_⟩
  · rw [reads, lossless.toClient]
  · rw [bytes, wires, List.flatMap_singleton]

end Attack

variable {attack : Attack} {visit : Visit γ} {key : Rc4State}

/-! ## A concrete attack -/

/-- The attack under the identifier 7, in front of the bytes that it will receive. -/
def firstAttack (padding : UInt8) (answer : List UInt8) : Attack where
  padding := padding
  filler := 0
  clientId := 7
  respHeader := Vector.replicate _ 0
  msgBuffer := Region.zero 1024
  channel := { reads := .ofBytes answer, writes := [], sent := [] }

/-- The connection that brings it to a server. -/
def attackVisit (padding : UInt8) (key : Rc4State) : Visit Unit where
  header := Vector.replicate _ 0
  body := Vector.replicate _ 0
  socket := .ofBytes (wires [(firstAttack padding []).packet key])
  writes := []
  outside := ()

theorem attackVisit_reliable (padding : UInt8) (key : Rc4State) :
    (attackVisit padding key).socket.Reliable :=
  ReadEnd.reliable_ofBytes (wires [(firstAttack padding []).packet key])

theorem attackVisit_bytes (padding : UInt8) (key : Rc4State) :
    (attackVisit padding key).socket.bytes = ((firstAttack padding []).packet key).wire :=
  (ReadEnd.bytes_ofBytes (wires [(firstAttack padding []).packet key])).trans
    (List.flatMap_singleton _ _)

theorem firstAttack_lossless (padding : UInt8) (scheduled : keySchedule wrongSecretKey = some key)
    (result : Exit Unit) :
    (firstAttack padding (exitWorld result).sent).Lossless (attackVisit padding key) result where
  channel := ⟨ReadEnd.reliable_ofBytes _, WriteEnd.reliable_nil⟩
  fresh := rfl
  socket := attackVisit_reliable padding key
  writes := WriteEnd.reliable_nil
  toServer outcome client := by
    have channel : (firstAttack padding (exitWorld result).sent).channel.Reliable :=
      ⟨ReadEnd.reliable_ofBytes _, WriteEnd.reliable_nil⟩
    obtain ⟨after, reads, sent, _⟩ := Attack.sends channel rfl scheduled
    cases Option.some.inj (client.symm.trans reads)
    rw [attackVisit_bytes, readReply_sent, sent]
    rfl
  toClient := ReadEnd.bytes_ofBytes _

/-! ## The secure server -/

/-- Where the forged packet leaves a worker of the secure server, by the byte in the
place of the type: before `close`, or back in front of `recv_n` with all bytes
that come after the packet still to read. -/
inductive Dismisses (visit : Visit γ) (tail : List UInt8) : UInt8 → Phase γ → Prop
  | request : Dismisses visit tail msgTypeRideReq (.closing visit.start)
  | handshake (rest : ReadEnd) (connection : Connection) (own : Local γ) (publicKey : Int)
      (ahead : rest.bytes = tail) (reliable : rest.Reliable)
      (acknowledged : own.sent =
        handshakeResponseHeader.encode ++ encodeHandshakeData publicKey)
      (quiet : own.operations.filter touchesState = []) :
      Dismisses visit tail msgTypeHandshake (.receiving rest connection own)
  | other (padding : UInt8) (notHandshake : padding ≠ msgTypeHandshake)
      (notRequest : padding ≠ msgTypeRideReq) (rest : ReadEnd) (connection : Connection)
      (ahead : rest.bytes = tail) (reliable : rest.Reliable)
      (unkeyed : connection.isKeyEstablished = false) :
      Dismisses visit tail padding (.receiving rest connection visit.start)

theorem dismisses_packetPhase (env : Env γ) (writes : visit.writes.Reliable) {rest : ReadEnd}
    {tail : List UInt8} (ahead : rest.bytes = tail) (reliable : rest.Reliable) :
    Dismisses visit tail attack.padding (packetPhase env rest
      ((Connection.opened visit.header visit.body).receive (attack.packet key)) visit.start) := by
  have header := Connection.receive_header (Connection.opened visit.header visit.body)
    (attack.packet key)
  have type : (attack.packet key).header.type = attack.padding := rfl
  have opcode : (attack.packet key).header.opcode ≠ opDriverJoin := by
    exact (by decide : opReqRide ≠ opDriverJoin)
  rw [packetPhase, header]
  simp only [type]
  by_cases isHandshake : attack.padding = msgTypeHandshake
  · rw [if_pos isHandshake, isHandshake]
    have open_ : (visit.start.record (.handshake (handshakeKey env
        ((Connection.opened visit.header visit.body).receive (attack.packet key))
          (visit.opened SharedState.zeroed)))).writes.Reliable := writes
    exact .handshake rest _ _ _ ahead reliable (Local.send_send open_ _ _).1 rfl
  · rw [if_neg isHandshake]
    by_cases isRequest : attack.padding = msgTypeRideReq
    · rw [if_pos isRequest, isRequest]
      exact .request
    · rw [if_neg isRequest, joinPhase, header, if_neg opcode]
      exact .other _ isHandshake isRequest rest _ ahead reliable rfl

/-- When nothing follows the packet the call returns without any effect. -/
theorem Dismisses.ends {tail : List UInt8} {padding : UInt8} {phase : Phase γ}
    (dismisses : Dismisses visit tail padding phase) (nothing : tail = []) (env : Env γ)
    (shared : SharedState) :
    ∃ after, phase.alone env shared = some (.returned after) ∧ after.shared = shared ∧
      stateOperations after = [] := by
  cases dismisses with
  | request => exact ⟨_, rfl, rfl, rfl⟩
  | handshake rest connection own publicKey ahead reliable acknowledged quiet =>
      have ended := receiveLoop_end env reliable (ahead.trans nothing) connection (own.world shared)
      exact ⟨_, congrArg some ended, rfl, quiet⟩
  | other _ _ _ rest connection ahead reliable unkeyed =>
      have ended := receiveLoop_end env reliable (ahead.trans nothing) connection
        (visit.start.world shared)
      exact ⟨_, congrArg some ended, rfl, rfl⟩

/-- The attacker sends one packet and then reads.  Whatever other workers do, and
whatever comes after the packet, a worker of the secure server enters no critical
section for it: it closes the connection, or is back in front of `recv_n`, after
an acknowledgement to the type of a handshake and without a word to any other.
The attacker fails where the server has closed, and takes an acknowledgement for
an answer. -/
theorem forgery_refused (env : Env γ) (attack : Attack) (reliable : attack.channel.Reliable)
    (fresh : attack.channel.sent = []) :
    ∃ key reading outcome, keySchedule wrongSecretKey = some key ∧
      attack.client = some outcome ∧
      outcome = readReply (.ofVector attack.respHeader) attack.msgBuffer reading ∧
      reading.sent = (attack.packet key).wire ∧ reading.reads = attack.channel.reads ∧
      outcome.2.2.sent = reading.sent ∧
      (reading.reads.bytes = [] → outcome.1 = -1) ∧
      (∀ publicKey later, reading.reads.bytes =
        handshakeResponseHeader.encode ++ (encodeHandshakeData publicKey ++ later) →
          outcome.1 = 0) ∧
      ∀ (visit : Visit γ) tail, visit.socket.Reliable → visit.writes.Reliable →
        visit.socket.bytes = (attack.packet key).wire ++ tail →
        ∃ phase, Dismisses visit tail attack.padding phase ∧
          (∀ shared action next after, WorkerStep env shared visit.phase action next after →
            action = .proceeded ∧ next = shared ∧ after = phase) ∧
          (tail = [] → ∀ shared, ∃ after, visit.handle env shared = .returned after ∧
            after.shared = shared ∧ stateOperations after = []) := by
  obtain ⟨key, scheduled⟩ := wrongSecretKey_scheduled
  obtain ⟨reading, client, sent, reads, still⟩ := attack.sends reliable fresh scheduled
  refine ⟨key, reading, _, scheduled, client, rfl, sent, reads, readReply_sent _ _ _, ?_, ?_, ?_⟩
  · intro closed
    exact readReply_end still closed (.ofVector attack.respHeader) attack.msgBuffer
  · intro publicKey later acknowledged
    have eight : (encodeHandshakeData publicKey).length = 8 := length_encodeHandshakeData publicKey
    have size : handshakeResponseHeader.length.toNat = (encodeHandshakeData publicKey).length := by
      rw [eight]
      rfl
    obtain ⟨final, read⟩ := readReply_reliable still size (eight ▸ by decide)
      (eight ▸ by decide) acknowledged (.ofVector attack.respHeader) attack.msgBuffer
    rw [read]
  · intro visit tail socket writes bytes
    obtain ⟨rest, arrives, ahead, reliableRest⟩ :=
      arrives_of_bytes socket bytes (Connection.opened visit.header visit.body)
    have received := arrives.receivePhase_eq env visit.start
    have dismisses : Dismisses visit tail attack.padding (packetPhase env rest
        ((Connection.opened visit.header visit.body).receive (attack.packet key)) visit.start) :=
      dismisses_packetPhase env writes ahead reliableRest
    rw [← received] at dismisses
    refine ⟨_, dismisses, ?_, ?_⟩
    · intro shared action next after step
      rw [Visit.phase] at step
      cases step with
      | receive socket connection own => exact ⟨rfl, rfl, rfl⟩
    · intro nothing shared
      obtain ⟨after, ended, kept, quiet⟩ := dismisses.ends nothing env shared
      rw [alone_receivePhase] at ended
      exact ⟨after, Option.some.inj ended, kept, quiet⟩

/-- With the type of a ride request the attack fails at a closed connection; with
another type the worker has sent nothing and reads on. -/
theorem forgery_refused_firstAttack :
    (∃ outcome, (firstAttack msgTypeRideReq []).client = some outcome ∧ outcome.1 = -1) ∧
      ∃ key phase, Dismisses (attackVisit 9 key) [] 9 phase ∧
        ∀ shared action next after,
          WorkerStep stillEnv shared (attackVisit 9 key).phase action next after →
            action = .proceeded ∧ next = shared ∧ after = phase := by
  have reliable : ∀ padding, (firstAttack padding []).channel.Reliable := fun _ =>
    ⟨ReadEnd.reliable_ofBytes [], WriteEnd.reliable_nil⟩
  constructor
  · obtain ⟨_, reading, outcome, _, client, _, _, reads, _, fails, _⟩ :=
      forgery_refused stillEnv (firstAttack msgTypeRideReq []) (reliable _) rfl
    exact ⟨outcome, client, fails (congrArg ReadEnd.bytes reads)⟩
  · obtain ⟨key, _, _, _, _, _, _, _, _, _, _, waits⟩ :=
      forgery_refused stillEnv (firstAttack 9 []) (reliable 9) rfl
    have bytes : (attackVisit 9 key).socket.bytes = ((firstAttack 9 []).packet key).wire ++ [] := by
      rw [List.append_nil, attackVisit_bytes]
    obtain ⟨phase, dismisses, steps, _⟩ := waits (attackVisit 9 key) []
      (attackVisit_reliable 9 key) WriteEnd.reliable_nil bytes
    exact ⟨key, phase, dismisses, steps⟩

/-! ## The insecure server -/

/-- The identifier that the insecure server reads from the cipher. -/
theorem clientIn_packet (attack : Attack) (key : Rc4State) (body : Vector UInt8 1024) :
    (attack.packet key).clientIn body = requestClientId (rc4Encrypt key attack.body) := by
  have size : (rc4Encrypt key attack.body).length = 24 := by
    rw [length_rc4Encrypt, Attack.body, RideRequestData.length_encode]
  have fits : (rc4Encrypt key attack.body).length ≤ 1024 := by
    rw [size]
    norm_num
  have agree := Region.take_bytes_write_of_le (Region.ofVector body) fits (Nat.le_refl _)
  have same := field_congr agree (show 0 + 4 ≤ (rc4Encrypt key attack.body).length by omega)
  rw [Packet.clientIn, requestClientId, requestClientId, clientIdField, clientIdField, ← same]
  rfl

/-- Against the insecure server the attack is a ride request under whatever
identifier the cipher begins with: a ride is dispatched as for any client, and
the attacker reads the answer of the service. -/
theorem forgery_served {padding : UInt8}
    (lossless : attack.Lossless visit (visit.handleInsecure env padding shared))
    (reachable : Reachable insecureServer shared)
    (sendable : ∀ state found, Sendable (env.response state found)) :
    ∃ key outcome after next found, keySchedule wrongSecretKey = some key ∧
      attack.client = some outcome ∧
      visit.handleInsecure env padding shared = .returned after ∧
      rideCriticalSection (requestClientId (rc4Encrypt key attack.body))
        (targetDraws env visit.start) shared = some (next, found) ∧
      after.shared = next ∧ outcome.1 = 0 ∧ outcome.2.1.cString = env.response next found := by
  obtain ⟨key, scheduled⟩ := wrongSecretKey_scheduled
  obtain ⟨reading, client, reliable, reads, bytes⟩ := lossless.meets scheduled
  have first : visit.socket.bytes = (attack.packet key).wire ++ [] := by
    rw [bytes, wires, List.flatMap_singleton, List.append_nil]
  have named := clientIn_packet attack key visit.body
  generalize clientEq : requestClientId (rc4Encrypt key attack.body) = clientId at named
  obtain ⟨⟨next, found⟩, section_⟩ := rideCriticalSection_total clientId
    (targetDraws env visit.start) (insecure_wellFormed reachable).fits
  have service := serveRequest_of_section section_
  rw [Visit.start_world, ← named] at service
  have handled := handleInsecure_ride lossless.socket first rfl padding service
  have text := sendable next found
  have sent : (replyPlain padding (env.response next found) ((dispatchedLocal env
      ((attack.packet key).clientIn visit.body) found.isSome visit.start).world next)).sent = _ :=
    replyPlain_sent padding text lossless.writes
  rw [handled] at reads
  have arrives : reading.reads.bytes =
      (insecureResponseHeader padding (env.response next found)
        (env.response next found).length opResponse).encode ++
        (env.response next found ++ []) := by
    rw [reads, List.append_nil]
    exact sent
  have size : (insecureResponseHeader padding (env.response next found)
      (env.response next found).length opResponse).length.toNat =
        (env.response next found).length :=
    UInt32.toNat_ofNat_of_lt' (Nat.lt_of_le_of_lt text.fits (by decide))
  have short : (env.response next found).length < 1024 :=
    Nat.lt_of_le_of_lt text.fits (by decide)
  obtain ⟨final, read⟩ := readReply_reliable reliable size text.nonempty short arrives
    (.ofVector attack.respHeader) attack.msgBuffer
  have shown := attack.msgBuffer.cString_write_terminated short text.noTerminator
  rw [read] at client
  rw [← clientEq] at section_
  exact ⟨key, _, _, next, found, scheduled, client, handled, section_, rfl, rfl, shown⟩

/-- The cipher gets the only driver of a server. -/
theorem forgery_served_firstAttack :
    ∃ (key : Rc4State) (outcome : Int × Region 1024 × Channel) (after : World Unit),
      (firstAttack msgTypeRideReq (exitWorld ((attackVisit msgTypeRideReq key).handleInsecure
        stillEnv 0 loneDriver)).sent).client = some outcome ∧ outcome.1 = 0 ∧
      (attackVisit msgTypeRideReq key).handleInsecure stillEnv 0 loneDriver = .returned after ∧
      after.shared.totalSuccessRequests = 1 := by
  have starts : insecureServer.initial SharedState.zeroed :=
    ⟨0, .missing, Int.le_refl 0, nofun, rfl⟩
  have joined : insecureServer.step SharedState.zeroed (.driverJoin 7) loneDriver :=
    ⟨trivial, (rfl : processDriverJoin 7 SharedState.zeroed = some loneDriver)⟩
  obtain ⟨known, scheduled⟩ := wrongSecretKey_scheduled
  have lossless := firstAttack_lossless msgTypeRideReq scheduled
    ((attackVisit msgTypeRideReq known).handleInsecure stillEnv 0 loneDriver)
  obtain ⟨_, outcome, after, _, _, _, client, handled, section_, kept, answered, _⟩ :=
    forgery_served lossless ((Run.start starts).snoc joined).reachable
      (sendable_rideResponse plain_stillEnv)
  refine ⟨known, outcome, after, client, answered, handled, ?_⟩
  rw [loneDriver_dispatch] at section_
  cases section_
  rw [kept]
  rfl

end RideHailing.Session
