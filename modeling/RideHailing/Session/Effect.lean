import RideHailing.Session.Packets

/-!
# Effects on the shared state

The critical sections that a connection has entered can be read off its record.
`Effect` says which records are possible and what each does to the shared
state; the two handlers that `handle_client` ends with have exactly such an
effect, and everything else in the loop has none.
-/

namespace RideHailing.Session

open RideHailing.Bytes
open RideHailing.Common
open RideHailing.Server

universe u

variable {γ : Type u} {connection : Connection} {world : World γ}

/-- The worlds in which a call can end. -/
def exitWorld : Exit γ → World γ
  | .returned world => world
  | .killed world => world

/-- The world after one packet, whether or not the loop continues. -/
def controlWorld : Control γ → World γ
  | .again _ world => world
  | .exit result => exitWorld result

/-- The operation is a critical section. -/
def touchesState : Operation → Bool
  | .rateLimitCheck _ _ => true
  | .rideRequest _ => true
  | .driverJoin _ => true
  | .handshake _ => false
  | .requestAccepted _ => false

/-- The operation is a request that the limiter blocked. -/
def blocks : Operation → Bool
  | .rateLimitCheck _ blocked => blocked
  | .rideRequest _ => false
  | .driverJoin _ => false
  | .handshake _ => false
  | .requestAccepted _ => false

/-- The client whose ride request the operation belongs to. -/
def requestOf : Operation → Option Int
  | .rateLimitCheck clientId _ => some clientId
  | .rideRequest clientId => some clientId
  | .driverJoin _ => none
  | .handshake _ => none
  | .requestAccepted _ => none

/-- The critical sections of a record, in order. -/
def stateOperations (world : World γ) : List Operation :=
  world.operations.filter touchesState

/-- At most one state-changing operation, and what it does: a ride request that
the limiter blocks or lets through to the service, or a driver join. -/
inductive Effect (state : SharedState) : List Operation → SharedState → Prop
  | nothing : Effect state [] state
  | blocked (clientId now : Int) (next : SharedState)
      (check : checkAndUpdateRateLimit clientId now state = (true, next)) :
      Effect state [.rateLimitCheck clientId true] next
  | faulted (clientId now : Int) (next : SharedState)
      (check : checkAndUpdateRateLimit clientId now state = (false, next)) :
      Effect state [.rateLimitCheck clientId false] next
  | served (clientId now : Int) (limited next : SharedState) (draws : TargetDraws)
      (outcome : Option (Fin maxDrivers × ℚ))
      (check : checkAndUpdateRateLimit clientId now state = (false, limited))
      (section_ : rideCriticalSection clientId draws limited = some (next, outcome)) :
      Effect state [.rateLimitCheck clientId false, .rideRequest clientId] next
  | joined (driverId : UInt32) (next : SharedState)
      (join : processDriverJoin driverId state = some next) :
      Effect state [.driverJoin driverId] next

/-- A change of world has an effect when it extends the record accordingly. -/
def HasEffect (before after : World γ) (operations : List Operation) : Prop :=
  stateOperations after = stateOperations before ++ operations ∧
    Effect before.shared operations after.shared

theorem HasEffect.refl (world : World γ) : HasEffect world world [] :=
  ⟨(List.append_nil _).symm, .nothing⟩

/-- All operations of a ride request are those of one client. -/
theorem HasEffect.requester {before after : World γ} {clientId : Int} {blocked : Bool}
    {rest : List Operation}
    (effect : HasEffect before after (.rateLimitCheck clientId blocked :: rest)) :
    ∀ operation ∈ .rateLimitCheck clientId blocked :: rest,
      requestOf operation = some clientId := by
  obtain ⟨_, effect⟩ := effect
  cases effect <;> simp [requestOf]

theorem stateOperations_record_of_touches {world : World γ} {operation : Operation}
    (touches : touchesState operation = true) :
    stateOperations (world.record operation) = stateOperations world ++ [operation] := by
  rw [stateOperations, World.record_operations, List.filter_append,
    List.filter_cons_of_pos touches]
  rfl

theorem stateOperations_record_of_silent {world : World γ} {operation : Operation}
    (silent : touchesState operation = false) :
    stateOperations (world.record operation) = stateOperations world := by
  rw [stateOperations, World.record_operations, List.filter_append,
    List.filter_cons_of_neg (by rw [silent]; exact Bool.noConfusion), List.filter_nil,
    List.append_nil]
  rfl

/-! ## The handlers -/

/-- Sending a reply touches neither the shared state nor the record, whether or
not the worker survives it. -/
theorem sendResponsePacket_quiet {n : Nat} (respMsg : Region n) (len : Nat) (opcode : UInt16)
    (sessionKey : Option CString) (world : World γ) :
    (exitWorld (sendResponsePacket respMsg len opcode sessionKey world)).shared = world.shared ∧
      stateOperations (exitWorld (sendResponsePacket respMsg len opcode sessionKey world)) =
        stateOperations world := by
  unfold sendResponsePacket
  simp only
  split
  · exact ⟨rfl, rfl⟩
  · exact ⟨rfl, rfl⟩

theorem replyBlocked_quiet (sessionKey : CString) (world : World γ) :
    (exitWorld (replyBlocked sessionKey world)).shared = world.shared ∧
      stateOperations (exitWorld (replyBlocked sessionKey world)) = stateOperations world :=
  sendResponsePacket_quiet blockedMessage 15 opResponse (some sessionKey) world

theorem replyText_quiet (sessionKey text : CString) (world : World γ) :
    (exitWorld (replyText sessionKey text world)).shared = world.shared ∧
      stateOperations (exitWorld (replyText sessionKey text world)) = stateOperations world :=
  sendResponsePacket_quiet _ _ opResponse (some sessionKey) world

theorem limitRequest_verdict (env : Env γ) (clientId : Int) (world : World γ) :
    (limitRequest env clientId world).1 =
      (checkAndUpdateRateLimit clientId (env.time world.outside).1 world.shared).1 :=
  rfl

theorem limitRequest_shared (env : Env γ) (clientId : Int) (world : World γ) :
    (limitRequest env clientId world).2.shared =
      (checkAndUpdateRateLimit clientId (env.time world.outside).1 world.shared).2 :=
  rfl

theorem limitRequest_check (env : Env γ) (clientId : Int) (world : World γ) :
    ∃ now, checkAndUpdateRateLimit clientId now world.shared =
      ((limitRequest env clientId world).1, (limitRequest env clientId world).2.shared) :=
  ⟨(env.time world.outside).1, rfl⟩

theorem stateOperations_limitRequest (env : Env γ) (clientId : Int) (world : World γ) :
    stateOperations (limitRequest env clientId world).2 =
      stateOperations world ++
        [.rateLimitCheck clientId (limitRequest env clientId world).1] := by
  rw [limitRequest, stateOperations_record_of_touches rfl]
  rfl

/-- The service is one critical section, and its text describes the state that
the section left. -/
theorem serveRequest_section {env : Env γ} {clientId : Int} {world served : World γ}
    {text : CString} (service : serveRequest env clientId world = some (text, served)) :
    ∃ draws outcome,
      rideCriticalSection clientId draws world.shared = some (served.shared, outcome) ∧
      text = env.response served.shared outcome ∧
      stateOperations served = stateOperations world ++ [.rideRequest clientId] := by
  rw [serveRequest] at service
  obtain ⟨outcome, handled, made⟩ := Option.map_eq_some_iff.mp service
  obtain ⟨chosen, section_, rfl⟩ := Option.map_eq_some_iff.mp handled
  cases made
  exact ⟨_, chosen.2, section_, rfl, stateOperations_record_of_touches rfl⟩

/-- The three ways through `process_ride_request_wrapper`. -/
theorem processRideRequestWrapper_cases (env : Env γ) (body : Region 1024)
    (sessionKey : CString) (world : World γ) {clientId : Int}
    (request : requestClientId body.bytes = clientId) {limited : Bool × World γ}
    (limiter : limitRequest env clientId world = limited) :
    (limited.1 = true ∧
      processRideRequestWrapper env body sessionKey world = replyBlocked sessionKey limited.2) ∨
    (limited.1 = false ∧ serveRequest env clientId limited.2 = none ∧
      processRideRequestWrapper env body sessionKey world = .killed limited.2) ∨
    (limited.1 = false ∧ ∃ text served, serveRequest env clientId limited.2 = some (text, served) ∧
      processRideRequestWrapper env body sessionKey world = replyText sessionKey text served) := by
  subst request limiter
  cases verdict : (limitRequest env (requestClientId body.bytes) world).1 with
  | true => simp [processRideRequestWrapper, verdict]
  | false =>
      cases service : serveRequest env (requestClientId body.bytes)
          (limitRequest env (requestClientId body.bytes) world).2 with
      | none => simp [processRideRequestWrapper, verdict, service]
      | some result =>
          right
          right
          exact ⟨rfl, result.1, result.2, rfl, by
            simp only [processRideRequestWrapper, verdict, service, Bool.false_eq_true, if_false]⟩

/-- A ride request enters the limiter once, and the service at most once after
it. -/
theorem processRideRequestWrapper_effect (env : Env γ) (body : Region 1024)
    (sessionKey : CString) (world : World γ) :
    ∃ rest, HasEffect world (exitWorld (processRideRequestWrapper env body sessionKey world))
        (.rateLimitCheck (requestClientId body.bytes)
          (limitRequest env (requestClientId body.bytes) world).1 :: rest) ∧
      rest.countP blocks = 0 := by
  obtain ⟨now, check⟩ := limitRequest_check env (requestClientId body.bytes) world
  have recorded := stateOperations_limitRequest env (requestClientId body.bytes) world
  rcases processRideRequestWrapper_cases env body sessionKey world rfl rfl with
    ⟨verdict, result⟩ | ⟨verdict, service, result⟩ | ⟨verdict, text, served, service, result⟩
  · obtain ⟨sameShared, sameRecord⟩ := replyBlocked_quiet sessionKey
      (limitRequest env (requestClientId body.bytes) world).2
    rw [verdict] at check recorded ⊢
    refine ⟨[], ⟨?_, ?_⟩, rfl⟩
    · rw [result, sameRecord, recorded]
    · rw [result, sameShared]
      exact .blocked _ now _ check
  · rw [verdict] at check recorded ⊢
    rw [result]
    exact ⟨[], ⟨recorded, .faulted _ now _ check⟩, rfl⟩
  · obtain ⟨sameShared, sameRecord⟩ := replyText_quiet sessionKey text served
    obtain ⟨draws, outcome, section_, _, serviceRecord⟩ := serveRequest_section service
    rw [verdict] at check recorded ⊢
    refine ⟨[.rideRequest (requestClientId body.bytes)], ⟨?_, ?_⟩, rfl⟩
    · rw [result, sameRecord, serviceRecord, recorded, List.append_assoc]
      rfl
    · rw [result, sameShared]
      exact .served _ now _ _ draws outcome check section_

/-- A join enters one critical section, unless the table is corrupt. -/
theorem processDriverJoinPacket_effect (body : Region 1024) (world : World γ) :
    HasEffect world (exitWorld (processDriverJoinPacket body world)) [] ∨
      HasEffect world (exitWorld (processDriverJoinPacket body world))
        [.driverJoin (driverIdField body.bytes)] := by
  rw [processDriverJoinPacket]
  cases join : processDriverJoin (driverIdField body.bytes) world.shared with
  | none => exact Or.inl (HasEffect.refl world)
  | some shared =>
      right
      refine ⟨?_, .joined _ shared join⟩
      exact stateOperations_record_of_touches rfl

theorem joinOrContinue_of_ne
    (notJoin : (ProtocolHeader.decode connection.header.bytes).opcode ≠ opDriverJoin) :
    joinOrContinue connection world = .again connection world :=
  if_neg notJoin

theorem joinOrContinue_of_eq
    (isJoin : (ProtocolHeader.decode connection.header.bytes).opcode = opDriverJoin) :
    joinOrContinue connection world = .exit (processDriverJoinPacket connection.body world) :=
  if_pos isJoin

theorem processDriverJoinPacket_record (body : Region 1024) {world : World γ}
    (nonneg : 0 ≤ world.shared.driverCount) :
    stateOperations (exitWorld (processDriverJoinPacket body world)) =
      stateOperations world ++ [.driverJoin (driverIdField body.bytes)] := by
  obtain ⟨next, join⟩ := processDriverJoin_total (driverIdField body.bytes) nonneg
  rw [processDriverJoinPacket, join]
  exact stateOperations_record_of_touches rfl

end RideHailing.Session
