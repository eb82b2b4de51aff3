import RideHailing.Client.Core
import RideHailing.Fleet.System
import RideHailing.Session.Gate

/-!
# Header fields and the sealed body

The checksum of a request covers its body only.  Here the type and the opcode
of a sealed request are changed in flight, and every pair of values is followed
through the loop body: the only changes that do harm are those that lead to the
join test, which then reads the driver's identifier from the sealed bytes.
-/

namespace RideHailing.Session

open RideHailing.Bytes
open RideHailing.Common
open RideHailing.Fleet
open RideHailing.Server
open RideHailing.Transition

universe u

variable {γ : Type u} {env : Env γ} {connection : Connection} {world : World γ}

/-- Another type and opcode on the same body and checksum. -/
def Packet.retag (packet : Packet) (type : UInt8) (opcode : UInt16) : Packet :=
  { packet with header := { packet.header with type, opcode } }

/-- The server either does with the tampered packet exactly what it does with
the sealed one, or performs no operation and leaves the shared state. -/
def HeaderBound (env : Env γ) (connection : Connection) (world : World γ)
    (sealed tampered : Packet) : Prop :=
  let outcome := handlePacket env (connection.receive tampered) world
  outcome = handlePacket env (connection.receive sealed) world ∨
    (controlWorld outcome).shared = world.shared ∧
      stateOperations (controlWorld outcome) = stateOperations world

/-- A packet that lets the loop continue performs no operation. -/
theorem headerBound_of_again {sealed tampered : Packet} {next : Connection} {later : World γ}
    (continues : handlePacket env (connection.receive tampered) world = .again next later)
    (shared : later.shared = world.shared)
    (quiet : stateOperations later = stateOperations world) :
    HeaderBound env connection world sealed tampered := by
  right
  rw [continues]
  exact ⟨shared, quiet⟩

section Tampering

variable {key : Rc4State} {body : List UInt8} {size : body.length = rideRequestDataSize}
  {type : UInt8} {opcode : UInt16}

theorem checksumAgrees_retag :
    ChecksumAgrees key ((sealRequest key body size).retag type opcode) :=
  checksumAgrees_sealRequest key size

/-- As a handshake, or with an opcode other than a join, the packet does
nothing unless it is the sealed request itself. -/
theorem headerBound_of_noJoin (writable : connection.body.writable = true)
    (keyed : connection.isKeyEstablished = true)
    (scheduled : keySchedule connection.sessionKey = some key)
    (noJoin : type = msgTypeHandshake ∨ opcode ≠ opDriverJoin) :
    HeaderBound env connection world (sealRequest key body size)
      ((sealRequest key body size).retag type opcode) := by
  have agrees : ChecksumAgrees key ((sealRequest key body size).retag type opcode) :=
    checksumAgrees_retag
  have step := handlePacket_agreeing env writable keyed scheduled agrees world
  generalize outcome : handlePacket env
    (connection.receive ((sealRequest key body size).retag type opcode)) world = control at step
  cases step with
  | handshake isHandshake =>
      rw [answerHandshake] at outcome
      exact headerBound_of_again outcome rfl (stateOperations_record_of_silent rfl)
  | ride isRequest isRide =>
      have type_eq : type = msgTypeRideReq := isRequest
      have opcode_eq : opcode = opReqRide := isRide
      subst type_eq opcode_eq
      exact Or.inl rfl
  | fallThrough isRequest notRide =>
      have type_eq : type = msgTypeRideReq := isRequest
      rcases noJoin with isHandshake | notJoin
      · exact absurd (type_eq.symm.trans isHandshake) requestType_ne
      · rw [joinOrContinue_of_ne (by rw [Connection.decrypt_header]; exact notJoin)] at outcome
        exact headerBound_of_again outcome rfl (stateOperations_accept _ _ world)
  | other notHandshake notRequest =>
      rcases noJoin with isHandshake | notJoin
      · exact absurd isHandshake notHandshake
      · rw [joinOrContinue_of_ne (by rw [Connection.receive_header]; exact notJoin)] at outcome
        exact headerBound_of_again outcome rfl rfl

variable (env size)

/-- The sealed request enters the limiter. -/
theorem sealRequest_record (world : World γ) (writable : connection.body.writable = true)
    (keyed : connection.isKeyEstablished = true)
    (scheduled : keySchedule connection.sessionKey = some key) :
    ∃ clientId blocked rest, stateOperations (controlWorld
      (handlePacket env (connection.receive (sealRequest key body size)) world)) =
        stateOperations world ++ .rateLimitCheck clientId blocked :: rest := by
  have step := handlePacket_agreeing env writable keyed scheduled
    (checksumAgrees_sealRequest key size) world
  generalize handlePacket env (connection.receive (sealRequest key body size)) world = control
    at step
  cases step with
  | handshake isHandshake => exact absurd isHandshake requestType_ne
  | ride isRequest isRide =>
      obtain ⟨rest, ⟨recorded, _⟩, _⟩ := processRideRequestWrapper_effect env
        (connection.decrypt (sealRequest key body size) key).body connection.sessionKey
        (accept key (sealRequest key body size) world)
      rw [stateOperations_accept] at recorded
      exact ⟨_, _, rest, recorded⟩
  | fallThrough isRequest notRide => exact absurd rfl notRide
  | other notHandshake notRequest => exact absurd rfl notRequest

/-- With the opcode of a join and any type but a handshake, the sealed bytes
are taken for a driver. -/
theorem retag_record (nonneg : 0 ≤ world.shared.driverCount)
    (writable : connection.body.writable = true)
    (keyed : connection.isKeyEstablished = true)
    (scheduled : keySchedule connection.sessionKey = some key)
    (notHandshake : type ≠ msgTypeHandshake) :
    ∃ driverId, stateOperations (controlWorld (handlePacket env
      (connection.receive ((sealRequest key body size).retag type opDriverJoin)) world)) =
        stateOperations world ++ [.driverJoin driverId] := by
  have agrees : ChecksumAgrees key ((sealRequest key body size).retag type opDriverJoin) :=
    checksumAgrees_retag
  have step := handlePacket_agreeing env writable keyed scheduled agrees world
  generalize handlePacket env
    (connection.receive ((sealRequest key body size).retag type opDriverJoin)) world = control
    at step
  cases step with
  | handshake isHandshake => exact absurd isHandshake notHandshake
  | ride isRequest isRide =>
      have different : opDriverJoin ≠ opReqRide := by decide
      exact absurd isRide different
  | fallThrough isRequest notRide =>
      rw [joinOrContinue_of_eq (by rw [Connection.decrypt_header]; rfl)]
      have accepted : 0 ≤ (accept key ((sealRequest key body size).retag type opDriverJoin)
        world).shared.driverCount := nonneg
      have recorded := processDriverJoinPacket_record
        (connection.decrypt ((sealRequest key body size).retag type opDriverJoin) key).body
        accepted
      rw [stateOperations_accept] at recorded
      exact ⟨_, recorded⟩
  | other notHandshake notRequest =>
      rw [joinOrContinue_of_eq (by rw [Connection.receive_header]; rfl)]
      exact ⟨_, processDriverJoinPacket_record _ nonneg⟩

/-- A join is neither the sealed request nor nothing. -/
theorem not_headerBound_of_join (nonneg : 0 ≤ world.shared.driverCount)
    (writable : connection.body.writable = true)
    (keyed : connection.isKeyEstablished = true)
    (scheduled : keySchedule connection.sessionKey = some key)
    (notHandshake : type ≠ msgTypeHandshake) :
    ¬ HeaderBound env connection world (sealRequest key body size)
      ((sealRequest key body size).retag type opDriverJoin) := by
  obtain ⟨driverId, joined⟩ := retag_record env size nonneg writable keyed scheduled
    notHandshake
  obtain ⟨clientId, blocked, rest, limited⟩ := sealRequest_record env size world writable keyed
    scheduled
  rintro (same | ⟨_, quiet⟩)
  · rw [same, limited] at joined
    cases List.append_cancel_left joined
  · rw [joined] at quiet
    exact absurd (List.append_right_eq_self.mp quiet) (List.cons_ne_nil _ _)

/-- For every session with a key, every reachable shared state and every sealed
request: a change of type and opcode in flight is harmless exactly when the
result is a handshake or no join. -/
theorem headerBound_iff (reachable : Reachable secureServer world.shared)
    (writable : connection.body.writable = true)
    (keyed : connection.isKeyEstablished = true)
    (scheduled : keySchedule connection.sessionKey = some key)
    (type : UInt8) (opcode : UInt16) :
    HeaderBound env connection world (sealRequest key body size)
        ((sealRequest key body size).retag type opcode) ↔
      type = msgTypeHandshake ∨ opcode ≠ opDriverJoin := by
  constructor
  · intro bound
    by_contra harmful
    obtain ⟨notHandshake, isJoin⟩ := not_or.mp harmful
    obtain rfl := not_not.mp isJoin
    exact not_headerBound_of_join env size (reachable_wellFormed reachable).nonneg writable keyed
      scheduled notHandshake bound
  · exact headerBound_of_noJoin writable keyed scheduled

end Tampering

/-- The connection after a handshake in which both private keys were 1. -/
def keyedConnection : Connection :=
  { Connection.opened (Vector.replicate _ 0) (Vector.replicate _ 0) with
    sessionKey := deriveSessionKey dhGenerator 64, isKeyEstablished := true }

/-- Client 7's request, turned into a keep-alive of an unknown type. -/
theorem headerBound_iff_keyedConnection :
    ∃ key, keySchedule keyedConnection.sessionKey = some key ∧
      HeaderBound stillEnv keyedConnection (World.opened SharedState.zeroed)
        (sealRequest key (Client.rideRequestData 7).encode
          (Client.rideRequestData 7).length_encode)
        ((sealRequest key (Client.rideRequestData 7).encode
          (Client.rideRequestData 7).length_encode).retag 9 0) := by
  obtain ⟨key, scheduled⟩ := keySchedule_deriveSessionKey dhGenerator
  have reachable : Reachable secureServer (World.opened SharedState.zeroed).shared :=
    zeroed_reachable
  have writable : keyedConnection.body.writable = true := rfl
  have keyed : keyedConnection.isKeyEstablished = true := rfl
  have harmless := headerBound_iff stillEnv (Client.rideRequestData 7).length_encode reachable
    writable keyed scheduled 9 0
  exact ⟨key, scheduled, harmless.mpr (Or.inr (by decide))⟩

/-- Client 7's request with nothing but its opcode changed into that of a join:
the server registers a driver from the sealed bytes. -/
theorem headerBound_driverJoin :
    ¬ ∀ (connection : Connection) (state : SharedState) (key : Rc4State)
      (request : RideRequestData) (type : UInt8) (opcode : UInt16),
      Reachable secureServer state → connection.body.writable = true →
      connection.isKeyEstablished = true → keySchedule connection.sessionKey = some key →
      HeaderBound stillEnv connection (World.opened state)
        (sealRequest key request.encode request.length_encode)
        ((sealRequest key request.encode request.length_encode).retag type opcode) := by
  intro bound
  obtain ⟨key, scheduled⟩ := keySchedule_deriveSessionKey dhGenerator
  have harmless := bound keyedConnection SharedState.zeroed key (Client.rideRequestData 7)
    msgTypeRideReq opDriverJoin zeroed_reachable rfl rfl scheduled
  have nonneg : 0 ≤ (World.opened SharedState.zeroed).shared.driverCount := Int.le_refl 0
  have keyed : keyedConnection.isKeyEstablished = true := rfl
  exact not_headerBound_of_join stillEnv _ nonneg rfl keyed scheduled requestType_ne harmless

end RideHailing.Session
