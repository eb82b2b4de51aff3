import RideHailing.Fleet.System
import RideHailing.Session.Stream

/-!
# The answers to a ride request

`send_response_packet` encrypts the message where it is.  The text of the
service is in a local array; the text for a blocked client is a literal, which
cannot be written.  The first kind of answer therefore always reaches the
socket and the second never does.
-/

namespace RideHailing.Session

open RideHailing.Arithmetic
open RideHailing.Bytes
open RideHailing.Common
open RideHailing.Fleet
open RideHailing.Server
open RideHailing.Transition

universe u

variable {γ : Type u} {env : Env γ} {world : World γ} {key : Rc4State} {sessionKey : CString}

/-! ## Writable messages -/

/-- A text that the response buffers of both sides can hold. -/
structure Sendable (text : CString) : Prop where
  nonempty : 1 ≤ text.length
  fits : text.length ≤ 255
  noTerminator : 0 ∉ text

/-- The two writes of an encrypted answer. -/
def sealAnswer (key : Rc4State) (header : ProtocolHeader) (text : List UInt8)
    (world : World γ) : World γ :=
  (world.send header.encode).send (rc4Encrypt key text)

/-- A message in a writable object is sent. -/
theorem sendResponsePacket_writable {n len : Nat} {respMsg : Region n}
    (scheduled : keySchedule sessionKey = some key) (writable : respMsg.writable = true)
    (fits : len ≤ n) (opcode : UInt16) (world : World γ) :
    sendResponsePacket respMsg len opcode (some sessionKey) world =
      .returned (sealAnswer key (responseHeader respMsg.bytes len opcode)
        (respMsg.bytes.take len) world) := by
  have size : (rc4Encrypt key (respMsg.bytes.take len)).length = len := by
    rw [length_rc4Encrypt, List.length_take, respMsg.length_eq]
    exact Nat.min_eq_left fits
  have cipher := respMsg.take_bytes_write (Nat.le_trans (Nat.le_of_eq size) fits)
  rw [size] at cipher
  unfold sendResponsePacket
  simp only [rc4Crypt_eq_some scheduled writable, cipher]
  rfl

theorem writable_responseBuffer (text : CString) : (responseBuffer text).writable = true :=
  rfl

theorem length_cString_le {n : Nat} (region : Region n) : region.cString.length ≤ n := by
  have shorter := (List.takeWhile_prefix (l := region.bytes) (· != 0)).length_le
  rwa [region.length_eq] at shorter

theorem cString_responseBuffer {text : CString} (sendable : Sendable text) :
    (responseBuffer text).cString = text :=
  Region.cString_snprintf _ (Nat.lt_succ_of_le sendable.fits) (Nat.le_refl 256)
    sendable.noTerminator

theorem take_responseBuffer {text : CString} (sendable : Sendable text) :
    (responseBuffer text).bytes.take text.length = text := by
  rw [responseBuffer, Region.bytes_snprintf _ (Nat.lt_succ_of_le sendable.fits) (Nat.le_refl 256),
    List.take_left]

/-- Whatever the text, the service's answer is sent. -/
theorem replyText_returned (scheduled : keySchedule sessionKey = some key) (text : CString)
    (world : World γ) :
    ∃ header message, replyText sessionKey text world =
      .returned (sealAnswer key header message world) :=
  ⟨_, _, sendResponsePacket_writable scheduled (writable_responseBuffer text)
    (length_cString_le _) opResponse world⟩

/-- A sendable text goes out as it is, under its own checksum. -/
theorem replyText_sendable (scheduled : keySchedule sessionKey = some key) {text : CString}
    (sendable : Sendable text) (world : World γ) :
    replyText sessionKey text world =
      .returned (sealAnswer key (responseHeader text text.length opResponse) text world) := by
  have content := take_responseBuffer sendable
  have checksum : calculateChecksum (responseBuffer text).bytes text.length =
      calculateChecksum text text.length :=
    calculateChecksum_congr (content.trans (List.take_length).symm)
  have fits : text.length ≤ 256 := Nat.le_succ_of_le sendable.fits
  rw [replyText, cString_responseBuffer sendable,
    sendResponsePacket_writable scheduled (writable_responseBuffer text) fits, content,
    responseHeader, checksum]
  rfl

/-! ## The texts of the service -/

/-- The conversions of a format are short and free of NUL. -/
structure Plain (format : FloatFormat) : Prop where
  rating_length : ∀ rating, (format.rating rating).length ≤ 64
  rating_text : ∀ rating, 0 ∉ format.rating rating
  distance_length : ∀ distance, (format.distance distance).length ≤ 64
  distance_text : ∀ distance, 0 ∉ format.distance distance

theorem abs_wrap32_le (value : Int) : |wrap32 value| ≤ 2 ^ 31 := by
  have lower := Int.le_bmod (x := value) (m := 2 ^ 32) (by norm_num)
  have upper := Int.bmod_lt (x := value) (m := 2 ^ 32) (by norm_num)
  rw [abs_le, wrap32]
  norm_num at lower upper ⊢
  constructor
  · omega
  · omega

/-- The server's own texts can be sent whole. -/
theorem sendable_rideResponse {format : FloatFormat} (plain : Plain format)
    (state : SharedState) (found : Option (Fin maxDrivers × ℚ)) :
    Sendable (rideResponse format state found) := by
  cases found with
  | none =>
      have text : Sendable (ascii "Error: No drivers available.") :=
        ⟨by decide, by decide, by decide⟩
      exact text
  | some chosen =>
      obtain ⟨slot, dist⟩ := chosen
      have digits := length_printDecimal_le
        ((abs_wrap32_le (state.drivers slot).driverId.toNat).trans_lt (by norm_num))
      have noNul : 0 ∉ printDecimal (wrap32 (state.drivers slot).driverId.toNat) := by
        intro member
        exact absurd (printDecimal_ascii member).1 (by decide)
      have rating := plain.rating_length (state.drivers slot).rating
      have distance := plain.distance_length dist
      have start : (ascii "Ride Confirmed! Driver ID: ").length = 27 := by decide
      have mode : ∀ smart : Bool, (if smart then ascii "SMART" else ascii "BASIC").length = 5 ∧
          0 ∉ (if smart then ascii "SMART" else ascii "BASIC") := by decide
      have modes := mode (decide (state.dispatchMode = 1))
      simp only [decide_eq_true_eq] at modes
      have frame : (ascii " (Rating: ").length = 10 ∧ (ascii ", Dist: ").length = 8 ∧
          (ascii ") [Mode: ").length = 9 ∧ (ascii "]").length = 1 := by decide
      refine ⟨?_, ?_, ?_⟩
      · simp only [rideResponse, List.length_append]
        omega
      · simp only [rideResponse, List.length_append]
        omega
      · have texts : 0 ∉ ascii "Ride Confirmed! Driver ID: " ∧ 0 ∉ ascii " (Rating: " ∧
            0 ∉ ascii ", Dist: " ∧ 0 ∉ ascii ") [Mode: " ∧ 0 ∉ ascii "]" := by decide
        simp only [rideResponse, List.mem_append, not_or]
        exact ⟨⟨⟨⟨⟨⟨⟨⟨texts.1, noNul⟩, texts.2.1⟩, plain.rating_text _⟩, texts.2.2.1⟩,
          plain.distance_text _⟩, texts.2.2.2.1⟩, modes.2⟩, texts.2.2.2.2⟩

theorem plain_stillEnv : Plain stillEnv.format :=
  ⟨fun _ => (by decide : (ascii "4.9").length ≤ 64), fun _ => (by decide : 0 ∉ ascii "4.9"),
    fun _ => (by decide : (ascii "0.0000").length ≤ 64),
    fun _ => (by decide : 0 ∉ ascii "0.0000")⟩

/-! ## The literal -/

/-- The worker dies in the first store into the literal; nothing was sent. -/
theorem replyBlocked_killed (sessionKey : CString) (world : World γ) :
    replyBlocked sessionKey world = .killed world := by
  have positive : 15 ≠ 0 := by decide
  have readOnly : blockedMessage.writable = false := rfl
  have fault := rc4Crypt_readOnly positive readOnly sessionKey
  unfold replyBlocked sendResponsePacket
  simp only [fault]

/-! ## The request wrapper -/

/-- The limiter's part sends nothing. -/
theorem limitRequest_frame (env : Env γ) (clientId : Int) (world : World γ) :
    (limitRequest env clientId world).2.operations = world.operations ++
        [.rateLimitCheck clientId (limitRequest env clientId world).1] ∧
      (limitRequest env clientId world).2.sent = world.sent ∧
      (limitRequest env clientId world).2.writes = world.writes :=
  ⟨rfl, rfl, rfl⟩

/-- What a call of the service leaves. -/
theorem serveRequest_spec {clientId : Int} {world served : World γ} {text : CString}
    (service : serveRequest env clientId world = some (text, served)) :
    (∃ draws ret, handleRideRequestLogic env.response clientId draws world.shared =
      some (served.shared, ret, text)) ∧
    (∃ state found, text = env.response state found) ∧
    served.operations = world.operations ++ [.rideRequest clientId] ∧
    served.sent = world.sent ∧ served.writes = world.writes := by
  rw [serveRequest] at service
  obtain ⟨⟨shared, ret, written⟩, handled, made⟩ := Option.map_eq_some_iff.mp service
  obtain ⟨chosen, _, answer⟩ := Option.map_eq_some_iff.mp handled
  cases made
  refine ⟨⟨_, ret, handled⟩, ?_, rfl, rfl, rfl⟩
  cases answer
  exact ⟨_, _, rfl⟩

/-- A blocked request kills the worker after the limiter's update. -/
theorem processRideRequestWrapper_blocked {body : Region 1024} {clientId : Int}
    (request : requestClientId body.bytes = clientId)
    (blocked : (limitRequest env clientId world).1 = true) :
    processRideRequestWrapper env body sessionKey world =
      .killed (limitRequest env clientId world).2 := by
  rcases processRideRequestWrapper_cases env body sessionKey world request rfl with
    ⟨_, result⟩ | ⟨allowed, _⟩ | ⟨allowed, _⟩
  · rw [result, replyBlocked_killed]
  · rw [blocked] at allowed
    cases allowed
  · rw [blocked] at allowed
    cases allowed

theorem reachable_limitRequest (reachable : Reachable secureServer world.shared) (env : Env γ)
    (clientId : Int) : Reachable secureServer (limitRequest env clientId world).2.shared := by
  obtain ⟨now, check⟩ := limitRequest_check env clientId world
  have step : secureServer.step world.shared
      (.rateLimitCheck clientId now (limitRequest env clientId world).1)
      (limitRequest env clientId world).2.shared := check
  exact reachable.snoc step

/-- A request that the limiter lets through is always served. -/
theorem processRideRequestWrapper_allowed (reachable : Reachable secureServer world.shared)
    {body : Region 1024} {clientId : Int} (request : requestClientId body.bytes = clientId)
    (allowed : (limitRequest env clientId world).1 = false) (sessionKey : CString) :
    ∃ text served, serveRequest env clientId (limitRequest env clientId world).2 =
        some (text, served) ∧
      processRideRequestWrapper env body sessionKey world = replyText sessionKey text served := by
  rcases processRideRequestWrapper_cases env body sessionKey world request rfl with
    ⟨blocked, _⟩ | ⟨_, fault, _⟩ | ⟨_, text, served, service, result⟩
  · rw [allowed] at blocked
    cases blocked
  · -- the service cannot fault on a table that fits its array
    have progress := (criticalSection_progress (reachable_limitRequest reachable env clientId)).1
    rw [serveRequest, handleRideRequestLogic, Option.map_map, Option.map_eq_none_iff] at fault
    obtain ⟨outcome, defined⟩ := progress clientId _
    rw [fault] at defined
    cases defined
  · exact ⟨text, served, service, result⟩

/-- Every request that reaches the wrapper leaves a trace, in the shared state
or on the wire. -/
theorem processRideRequestWrapper_acts (reachable : Reachable secureServer world.shared)
    (reliable : world.writes.Reliable) (scheduled : keySchedule sessionKey = some key)
    (env : Env γ) (body : Region 1024) :
    ¬ ((exitWorld (processRideRequestWrapper env body sessionKey world)).shared = world.shared ∧
      (exitWorld (processRideRequestWrapper env body sessionKey world)).sent = world.sent) := by
  obtain ⟨_, limitedSent, limitedWrites⟩ :=
    limitRequest_frame env (requestClientId body.bytes) world
  cases verdict : (limitRequest env (requestClientId body.bytes) world).1 with
  | true =>
      -- a blocked client has an entry, and its entry has changed
      rintro ⟨unchanged, _⟩
      rw [processRideRequestWrapper_blocked rfl verdict, exitWorld] at unchanged
      obtain ⟨now, check⟩ := limitRequest_check env (requestClientId body.bytes) world
      rw [unchanged, verdict] at check
      rcases checkAndUpdateRateLimit_cases check with ⟨_, impossible, _⟩ | ⟨slot, _, recorded, _⟩
      · cases impossible
      · exact recordRequest_ne slot now world.shared recorded.symm
  | false =>
      rintro ⟨_, silent⟩
      obtain ⟨text, served, service, wrapped⟩ :=
        processRideRequestWrapper_allowed reachable rfl verdict sessionKey
      obtain ⟨header, message, replied⟩ := replyText_returned scheduled text served
      obtain ⟨_, _, _, sameSent, sameWrites⟩ := serveRequest_spec service
      have still : served.writes.Reliable := by
        rw [sameWrites, limitedWrites]
        exact reliable
      rw [wrapped, replied, exitWorld, sealAnswer, (World.send_send still _ _).1, sameSent,
        limitedSent] at silent
      have nothing := congrArg List.length (List.append_right_eq_self.mp silent)
      rw [List.length_append, header.length_encode, List.length_nil] at nothing
      exact absurd (Nat.eq_zero_of_add_eq_zero_right nothing) (by decide)

end RideHailing.Session
