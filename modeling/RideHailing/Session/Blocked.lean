import RideHailing.Fleet.RateLimit
import RideHailing.Session.Honest
import RideHailing.Session.Workers

/-!
# Blocked requests

The answer to a blocked client is encrypted in a string literal.  No blocked
request is therefore ever answered; each one ends the worker that received it,
and no other request does.
-/

namespace RideHailing.Session

open RideHailing.Arithmetic
open RideHailing.Bytes
open RideHailing.Client
open RideHailing.Common
open RideHailing.Fleet
open RideHailing.Server
open RideHailing.Transition

universe u

variable {γ : Type u} {env : Env γ} {connection : Connection} {current : World γ}
  {packet : Packet} {key : Rc4State} {exchange : Exchange γ}

/-! ## The request and its answer -/

/-- The client of a request, as the wrapper reads it from the decrypted body. -/
def requester (connection : Connection) (packet : Packet) (key : Rc4State) : Int :=
  requestClientId (connection.decrypt packet key).body.bytes

/-- An authenticated ride request that the limiter blocks. -/
structure BlockedRequest (env : Env γ) (connection : Connection) (packet : Packet)
    (key : Rc4State) (current : World γ) : Prop where
  isRequest : packet.header.type = msgTypeRideReq
  isRide : packet.header.opcode = opReqRide
  keyed : connection.isKeyEstablished = true
  scheduled : keySchedule connection.sessionKey = some key
  agrees : ChecksumAgrees key packet
  blocked : (limitRequest env (requester connection packet key)
    (accept key packet current)).1 = true

/-- The request is answered and the worker survives: the call returns, only the
client's limiter entry has changed, and the peer decrypts the answer to its
text, which bears its own checksum. -/
structure AnsweredBlocked (env : Env γ) (visit : Visit γ) (pool : Pool) (key : Rc4State)
    (clientId : Int) (current after : World γ) : Prop where
  returned : visit.handle env pool.shared = .returned after
  frame : ∃ slot, limiterSlot clientId = some slot ∧
    LimiterFrame slot pool.shared after.shared
  answer : ∃ (header : ProtocolHeader) (cipher : List UInt8),
    after.sent = current.sent ++ (header.encode ++ cipher) ∧
      header.length.toNat = cipher.length ∧
      rc4Encrypt key cipher = ascii "Error: Blocked." ∧
      calculateChecksum (rc4Encrypt key cipher) cipher.length = header.checksum
  survives : (dispatcherRound env visit pool).live = pool.live

/-- The loop body ends with the death of the worker. -/
theorem handlePacket_blocked (writable : connection.body.writable = true)
    (request : BlockedRequest env connection packet key current) :
    handlePacket env (connection.receive packet) current =
      .exit (.killed (limitRequest env (requester connection packet key)
        (accept key packet current)).2) := by
  rw [handlePacket_decrypted env current writable request.isRequest request.keyed
    request.scheduled, if_pos request.agrees, if_pos request.isRide]
  rw [processRideRequestWrapper_blocked rfl request.blocked]
  rfl

/-- A connection ends where one of its packets ends it, whatever follows. -/
theorem handle_of_exit {visit : Visit γ} {shared : SharedState} {past : List Packet}
    {tail : List UInt8} {result : Exit γ} (reliable : visit.socket.Reliable)
    (bytes : visit.socket.bytes = wires (past ++ [packet]) ++ tail)
    (served : serve env past (Connection.opened visit.header visit.body) (visit.opened shared) =
      .again connection current)
    (ends : handlePacket env (connection.receive packet) current = .exit result) :
    visit.handle env shared = result := by
  obtain ⟨remaining, _, _, loop⟩ := receiveLoop_wires env reliable bytes
    (Connection.opened visit.header visit.body) (visit.opened shared)
  rw [serve_append_again served, serve, ends] at loop
  exact loop

/-! ## The client's side -/

/-- The client of a blocked request gets no answer and reports a failure. -/
theorem client_of_blocked (lossless : exchange.Lossless env)
    (blocked : (exchange.limiter env).1 = true) :
    ∃ outcome, exchange.client = some outcome ∧ outcome.ret = -1 ∧ outcome.accepted = none := by
  obtain ⟨key, scheduled⟩ : ∃ key, keySchedule (exchange.serverKey env) = some key :=
    keySchedule_deriveSessionKey _
  obtain ⟨stream, waiting, rest, _, client, reads, reliable, sent⟩ := lossless.packets scheduled
  have request : requestClientId ((exchange.keyed env).decrypt
      (requestPacket key exchange.request) key).body.bytes = exchange.clientId := by
    rw [Exchange.requestClientId_decrypt, Exchange.clientId]
  have verdict := (limiter_verdict env exchange key).trans blocked
  rw [Exchange.server_request lossless.serverReads scheduled stream,
    processRideRequestWrapper_blocked request verdict, exitWorld,
    (limitRequest_frame env exchange.clientId (exchange.accepted env key)).2.1,
    (accepted_frame env exchange key).1] at sent
  have nothing : rest = [] := List.append_right_eq_self.mp sent.symm
  rw [client]
  exact receiveResponse_end reliable (reads.trans nothing) _ _ _

/-! ## One request on a connection -/

/-- A connection in which a client negotiates a key, with 1 for its private key,
and asks for a ride. -/
def requestVisit (outside : γ) (clientId : Int) (key : Rc4State) : Visit γ where
  header := Vector.replicate _ 0
  body := Vector.replicate _ 0
  socket := .ofBytes (wires [handshakePacket 1, requestPacket key (rideRequestData clientId)])
  writes := []
  outside := outside

/-- The same connection as one side of an exchange. -/
def requestExchange (outside : γ) (clientId : Int) (key : Rc4State) (shared : SharedState) :
    Exchange γ where
  clientPriv := 1
  request := rideRequestData clientId
  buffers := firstExchange.buffers
  channel := firstExchange.channel
  header := (requestVisit outside clientId key).header
  body := (requestVisit outside clientId key).body
  socket := (requestVisit outside clientId key).socket
  world := (requestVisit outside clientId key).opened shared

/-- The key that the server derives on it. -/
def requestKey (env : Env γ) (outside : γ) : CString :=
  deriveSessionKey (calculateSharedSecret (calculatePublicKey 1)
    (env.generatePrivateKey outside).1) 64

/-- The clock reading of its limiter check. -/
def requestReading (env : Env γ) (outside : γ) : Int :=
  (env.time (env.generatePrivateKey outside).2).1

section

variable {outside : γ} {clientId : Int} {entry : Fin maxClients} {shared : SharedState}

theorem requestExchange_clientId (hasEntry : limiterSlot clientId = some entry)
    (outside : γ) (key : Rc4State) (shared : SharedState) :
    (requestExchange outside clientId key shared).clientId = clientId := by
  obtain ⟨positive, place⟩ := limiterSlot_eq_some_iff.mp hasEntry
  have inside := entry.isLt
  have size : maxClients = 2000 := rfl
  exact wrap32_clientId (by omega) (by omega)

theorem requestExchange_limiter (hasEntry : limiterSlot clientId = some entry) (env : Env γ)
    (outside : γ) (key : Rc4State) (shared : SharedState) :
    (requestExchange outside clientId key shared).limiter env =
      (decide (3 < (recordRequest entry (requestReading env outside) shared).clientReqCount entry),
        recordRequest entry (requestReading env outside) shared) := by
  rw [Exchange.limiter, requestExchange_clientId hasEntry, checkAndUpdateRateLimit, hasEntry]
  rfl

/-- The connection hands the request to the wrapper. -/
theorem requestVisit_handle (scheduled : keySchedule (requestKey env outside) = some key)
    (clientId : Int) (shared : SharedState) :
    (requestVisit outside clientId key).handle env shared = processRideRequestWrapper env
      (((requestExchange outside clientId key shared).keyed env).decrypt
        (requestPacket key (rideRequestData clientId)) key).body
      (requestKey env outside)
      ((requestExchange outside clientId key shared).accepted env key) := by
  have known : keySchedule ((requestExchange outside clientId key shared).serverKey env) =
      some key := scheduled
  have reliable := ReadEnd.reliable_ofBytes
    (wires [handshakePacket 1, requestPacket key (rideRequestData clientId)])
  have bytes := ReadEnd.bytes_ofBytes
    (wires [handshakePacket 1, requestPacket key (rideRequestData clientId)])
  exact Exchange.server_request reliable known bytes

theorem requestExchange_request (outside : γ) (clientId : Int) (key : Rc4State)
    (shared : SharedState) (env : Env γ) :
    requestClientId (((requestExchange outside clientId key shared).keyed env).decrypt
      (requestPacket key (rideRequestData clientId)) key).body.bytes =
        (requestExchange outside clientId key shared).clientId :=
  Exchange.requestClientId_decrypt _ key (rideRequestData clientId)

/-- A connection that the limiter lets through returns and counts one request. -/
theorem requestVisit_returned (scheduled : keySchedule (requestKey env outside) = some key)
    (hasEntry : limiterSlot clientId = some entry) (started : Reachable secureServer shared)
    (few : (recordRequest entry (requestReading env outside) shared).clientReqCount entry ≤ 3) :
    ∃ after, (requestVisit outside clientId key).handle env shared = .returned after ∧
      after.shared.clientLastSeen entry = requestReading env outside ∧
      after.shared.clientReqCount entry =
        (recordRequest entry (requestReading env outside) shared).clientReqCount entry ∧
      ∃ draws outcome, rideCriticalSection clientId draws
        (recordRequest entry (requestReading env outside) shared) =
          some (after.shared, outcome) := by
  have limiter := requestExchange_limiter hasEntry env outside key shared
  have verdict := (limiter_verdict env (requestExchange outside clientId key shared) key).trans
    (congrArg Prod.fst limiter)
  have limited := (limiter_shared env (requestExchange outside clientId key shared) key).trans
    (congrArg Prod.snd limiter)
  rw [decide_eq_false (Int.not_lt.mpr few)] at verdict
  have reachable : Reachable secureServer
      ((requestExchange outside clientId key shared).accepted env key).shared := by
    rw [accepted_shared]
    exact started
  obtain ⟨text, served, service, wrapped⟩ := processRideRequestWrapper_allowed reachable
    (requestExchange_request outside clientId key shared env) verdict (requestKey env outside)
  obtain ⟨header, message, replied⟩ := replyText_returned scheduled text served
  have handled := ((requestVisit_handle scheduled clientId shared).trans wrapped).trans replied
  obtain ⟨draws, outcome, section_, _, _⟩ := serveRequest_section service
  rw [limited, requestExchange_clientId hasEntry] at section_
  have step : CriticalSection (recordRequest entry (requestReading env outside) shared)
      (.rideRequest clientId (outcome.map Prod.fst)) served.shared :=
    ⟨draws, outcome, section_, rfl⟩
  have other : ∀ client now blocked,
      Event.rideRequest clientId (outcome.map Prod.fst) ≠ .rateLimitCheck client now blocked := by
    intro _ _ _ equal
    cases equal
  obtain ⟨seen, count⟩ := criticalSection_limiter other step
  exact ⟨_, handled, (congrFun seen entry).trans (recordRequest_lastSeen entry _ shared),
    congrFun count entry, draws, outcome, section_⟩

/-- A connection whose request is blocked kills its worker after the limiter's
update. -/
theorem requestVisit_killed (scheduled : keySchedule (requestKey env outside) = some key)
    (hasEntry : limiterSlot clientId = some entry)
    (many : 3 < (recordRequest entry (requestReading env outside) shared).clientReqCount entry) :
    ∃ after, (requestVisit outside clientId key).handle env shared = .killed after ∧
      after.shared = recordRequest entry (requestReading env outside) shared := by
  have limiter := requestExchange_limiter hasEntry env outside key shared
  have verdict := (limiter_verdict env (requestExchange outside clientId key shared) key).trans
    (congrArg Prod.fst limiter)
  rw [decide_eq_true many] at verdict
  have request := requestExchange_request outside clientId key shared env
  refine ⟨_, (requestVisit_handle scheduled clientId shared).trans
    (processRideRequestWrapper_blocked request verdict), ?_⟩
  exact (limiter_shared env (requestExchange outside clientId key shared) key).trans
    (congrArg Prod.snd limiter)

end

/-! ## Four requests in one second -/

/-- The limiter's entry of client 7. -/
def entry7 : Fin maxClients := ⟨7, by decide⟩

theorem limiterSlot_seven : limiterSlot 7 = some entry7 :=
  limiterSlot_eq_some_iff.mpr ⟨by norm_num, rfl⟩

/-- A connection in which client 7 negotiates a key and asks for a ride, with 1
for both private keys. -/
def rideVisit (key : Rc4State) : Visit Unit :=
  requestVisit () 7 key

theorem rideVisit_stream (key : Rc4State) :
    (rideVisit key).socket.Reliable ∧ (rideVisit key).socket.bytes =
      wires ([handshakePacket 1] ++ [requestPacket key (rideRequestData 7)]) := by
  have reliable := ReadEnd.reliable_ofBytes
    (wires [handshakePacket 1, requestPacket key (rideRequestData 7)])
  have bytes := ReadEnd.bytes_ofBytes
    (wires [handshakePacket 1, requestPacket key (rideRequestData 7)])
  exact ⟨reliable, bytes⟩

/-- The same connection as one side of an exchange. -/
def rideExchange (shared : SharedState) (key : Rc4State) : Exchange Unit :=
  { firstExchange with world := World.opened shared }.served key

theorem rideExchange_limiter (shared : SharedState) (key : Rc4State) :
    (rideExchange shared key).limiter stillEnv =
      (decide (3 < (recordRequest entry7 5 shared).clientReqCount entry7),
        recordRequest entry7 5 shared) :=
  requestExchange_limiter limiterSlot_seven stillEnv () key shared

/-- A connection that the limiter lets through returns and counts one request. -/
theorem rideVisit_returned {key : Rc4State}
    (scheduled : keySchedule (firstExchange.serverKey stillEnv) = some key)
    {shared : SharedState} (started : Reachable secureServer shared)
    (few : (recordRequest entry7 5 shared).clientReqCount entry7 ≤ 3) :
    ∃ after, (rideVisit key).handle stillEnv shared = .returned after ∧
      after.shared.clientLastSeen entry7 = 5 ∧
      after.shared.clientReqCount entry7 =
        (recordRequest entry7 5 shared).clientReqCount entry7 ∧
      ∃ draws outcome, rideCriticalSection 7 draws (recordRequest entry7 5 shared) =
        some (after.shared, outcome) :=
  requestVisit_returned scheduled limiterSlot_seven started few

/-- Such a connection costs the pool no worker. -/
theorem rideVisit_counts {key : Rc4State}
    (scheduled : keySchedule (firstExchange.serverKey stillEnv) = some key)
    {trace : List PoolEvent} {pool : Pool} (run : Run (workerPool stillEnv) trace pool)
    (alive : 0 < pool.live)
    (few : (recordRequest entry7 5 pool.shared).clientReqCount entry7 ≤ 3) :
    ∃ later next, Run (workerPool stillEnv) later next ∧ next.live = pool.live ∧
      next.shared.clientLastSeen entry7 = 5 ∧
      next.shared.clientReqCount entry7 =
        (recordRequest entry7 5 pool.shared).clientReqCount entry7 := by
  obtain ⟨after, handled, seen, count, _⟩ := rideVisit_returned scheduled (pool_run run).1 few
  refine ⟨_, _, Run.snoc run (.connection (rideVisit key) alive WriteEnd.reliable_nil), ?_, ?_, ?_⟩
  · rw [dispatcherRound, handled]
    rfl
  · rw [dispatcherRound, handled]
    exact seen
  · rw [dispatcherRound, handled]
    exact count

theorem entry7_again {state : SharedState} (seen : state.clientLastSeen entry7 = 5) {count : Int}
    (counted : state.clientReqCount entry7 = count) (lower : 0 ≤ count)
    (upper : count < 2 ^ 31 - 1) :
    (recordRequest entry7 5 state).clientReqCount entry7 = count + 1 := by
  rw [recordRequest_reqCount, if_pos seen, counted]
  exact wrap32_eq_self (by omega) (by omega)

/-- Three requests in one second, none of them blocked. -/
theorem threeRequests_run {key : Rc4State}
    (scheduled : keySchedule (firstExchange.serverKey stillEnv) = some key) :
    ∃ trace pool, Run (workerPool stillEnv) trace pool ∧ pool.live = workerCount ∧
      (recordRequest entry7 5 pool.shared).clientReqCount entry7 = 4 := by
  have start : Run (workerPool stillEnv) [] ⟨SharedState.zeroed, workerCount⟩ :=
    Run.start ⟨zeroed_initial, rfl⟩
  have full : 0 < workerCount := by decide
  have first : (recordRequest entry7 5 SharedState.zeroed).clientReqCount entry7 = 1 := by
    rw [recordRequest_reqCount]
    exact if_neg (by decide)
  obtain ⟨_, one, run1, live1, seen1, count1⟩ := rideVisit_counts scheduled start full
    (first.trans_le (by norm_num))
  have second := entry7_again seen1 (count1.trans first) (by norm_num) (by norm_num)
  obtain ⟨_, two, run2, live2, seen2, count2⟩ := rideVisit_counts scheduled run1
    (live1 ▸ full) (second.trans_le (by norm_num))
  have third := entry7_again seen2 (count2.trans second) (by norm_num) (by norm_num)
  have live12 : two.live = workerCount := live2.trans live1
  obtain ⟨trace, pool, run3, live3, seen3, count3⟩ := rideVisit_counts scheduled run2
    (live12 ▸ full) (third.trans_le (by norm_num))
  exact ⟨trace, pool, run3, live3.trans live12,
    entry7_again seen3 (count3.trans third) (by norm_num) (by norm_num)⟩

/-- The connection up to its request. -/
theorem rideVisit_served (shared : SharedState) (key : Rc4State) :
    serve stillEnv [handshakePacket 1]
        (Connection.opened (rideVisit key).header (rideVisit key).body)
        ((rideVisit key).opened shared) =
      .again ((rideExchange shared key).keyed stillEnv)
        ((rideExchange shared key).acknowledged stillEnv) := by
  have answered : handlePacket stillEnv
      ((Connection.opened (rideVisit key).header (rideVisit key).body).receive (handshakePacket 1))
      ((rideVisit key).opened shared) =
        .again ((rideExchange shared key).keyed stillEnv)
          ((rideExchange shared key).acknowledged stillEnv) :=
    Exchange.handlePacket_handshakePacket stillEnv (rideExchange shared key)
  rw [serve, answered]
  rfl

theorem rideVisit_overLimit {key : Rc4State}
    (scheduled : keySchedule (firstExchange.serverKey stillEnv) = some key) {shared : SharedState}
    (many : 3 < (recordRequest entry7 5 shared).clientReqCount entry7) :
    BlockedRequest stillEnv ((rideExchange shared key).keyed stillEnv)
      (requestPacket key (rideRequestData 7)) key
      ((rideExchange shared key).acknowledged stillEnv) := by
  have known : keySchedule ((rideExchange shared key).keyed stillEnv).sessionKey = some key := by
    rw [Exchange.keyed_sessionKey]
    exact scheduled
  have verdict := (limiter_verdict stillEnv (rideExchange shared key) key).trans
    (congrArg Prod.fst (rideExchange_limiter shared key))
  rw [decide_eq_true many] at verdict
  refine ⟨rfl, rfl, rfl, known, checksumAgrees_sealRequest key _, ?_⟩
  rw [requester, Exchange.requestClientId_decrypt]
  exact verdict

theorem rideVisit_blocked {key : Rc4State}
    (scheduled : keySchedule (firstExchange.serverKey stillEnv) = some key) {shared : SharedState}
    (many : (recordRequest entry7 5 shared).clientReqCount entry7 = 4) :
    BlockedRequest stillEnv ((rideExchange shared key).keyed stillEnv)
      (requestPacket key (rideRequestData 7)) key
      ((rideExchange shared key).acknowledged stillEnv) :=
  rideVisit_overLimit scheduled (by rw [many]; norm_num)

/-! ## Every blocked request -/

/-- No blocked request meets its specification: whatever the state, the peer
and the connection, the worker dies right after the limiter's update, nothing
is sent, and the pool has one worker fewer.  An honest client reports a plain
failure.  Over a run of the pool in which the peers take every write the lost
workers are exactly the blocked requests. -/
theorem blocked_never_answered (env : Env γ) :
    (∀ (visit : Visit γ) (pool : Pool) (past : List Packet) (packet : Packet)
        (tail : List UInt8) (connection : Connection) (current : World γ) (key : Rc4State),
      0 < pool.live → visit.socket.Reliable →
      visit.socket.bytes = wires (past ++ [packet]) ++ tail →
      serve env past (Connection.opened visit.header visit.body) (visit.opened pool.shared) =
        .again connection current →
      BlockedRequest env connection packet key current →
      (∀ after, ¬ AnsweredBlocked env visit pool key (requester connection packet key)
        current after) ∧
      visit.handle env pool.shared = .killed (limitRequest env (requester connection packet key)
        (accept key packet current)).2 ∧
      (exitWorld (visit.handle env pool.shared)).sent = current.sent ∧
      (dispatcherRound env visit pool).live + 1 = pool.live) ∧
    (∀ exchange : Exchange γ, exchange.Lossless env → (exchange.limiter env).1 = true →
      ∃ outcome, exchange.client = some outcome ∧ outcome.ret = -1) ∧
    ∀ trace pool, Run (workerPool env) trace pool →
      pool.live + blockedRequests trace = workerCount := by
  refine ⟨?_, ?_, ?_⟩
  · intro visit pool past packet tail connection current key alive reliable bytes served request
    have reached := reached_of_served rfl rfl served
    have killed := handle_of_exit reliable bytes served
      (handlePacket_blocked reached.writable request)
    refine ⟨?_, killed, ?_, ?_⟩
    · intro after answered
      have returned := answered.returned
      rw [killed] at returned
      cases returned
    · rw [killed, exitWorld, (limitRequest_frame env _ _).2.1, accept, World.record_sent]
    · rw [dispatcherRound, killed, deaths]
      simp only
      omega
  · intro exchange lossless blocked
    obtain ⟨outcome, client, failed, _⟩ := client_of_blocked lossless blocked
    exact ⟨outcome, client, failed⟩
  · intro trace pool run
    exact (pool_run run).2

/-- The fourth request of client 7 within one second kills the first of the
hundred workers. -/
theorem blocked_never_answered_fourthRequest :
    ∃ (key : Rc4State) (trace : List PoolEvent) (pool : Pool),
      Run (workerPool stillEnv) trace pool ∧ pool.live = 100 ∧
      (dispatcherRound stillEnv (rideVisit key) pool).live + 1 = 100 := by
  obtain ⟨key, scheduled⟩ : ∃ key, keySchedule (firstExchange.serverKey stillEnv) = some key :=
    keySchedule_deriveSessionKey _
  obtain ⟨trace, pool, run, live, many⟩ := threeRequests_run scheduled
  obtain ⟨reliable, stream⟩ := rideVisit_stream key
  rw [← List.append_nil (wires _)] at stream
  have alive : 0 < pool.live := by
    rw [live]
    decide
  have lost := (blocked_never_answered stillEnv).1 (rideVisit key) pool _ _ _ _ _ key alive
    reliable stream (rideVisit_served pool.shared key)
    (rideVisit_blocked scheduled many)
  exact ⟨key, trace, pool, run, live, lost.2.2.2.trans live⟩

/-- After three requests of client 7 in one second, its fourth is blocked and
gets no answer. -/
theorem not_answered_fourthRequest :
    ¬ ∀ (trace : List PoolEvent) (pool : Pool) (visit : Visit Unit) (past : List Packet)
        (packet : Packet) (connection : Connection) (current : World Unit) (key : Rc4State),
      Run (workerPool stillEnv) trace pool → visit.socket.Reliable →
      visit.socket.bytes = wires (past ++ [packet]) →
      serve stillEnv past (Connection.opened visit.header visit.body) (visit.opened pool.shared) =
        .again connection current →
      BlockedRequest stillEnv connection packet key current →
      ∃ after, AnsweredBlocked stillEnv visit pool key (requester connection packet key)
        current after := by
  intro answered
  obtain ⟨key, scheduled⟩ : ∃ key, keySchedule (firstExchange.serverKey stillEnv) = some key :=
    keySchedule_deriveSessionKey _
  obtain ⟨trace, pool, run, live, many⟩ := threeRequests_run scheduled
  obtain ⟨reliable, stream⟩ := rideVisit_stream key
  have served := rideVisit_served pool.shared key
  have request := rideVisit_blocked scheduled many
  obtain ⟨after, answer⟩ := answered trace pool (rideVisit key) _ _ _ _ key run reliable stream
    served request
  have writable : ((rideExchange pool.shared key).keyed stillEnv).body.writable = true := rfl
  rw [← List.append_nil (wires _)] at stream
  have killed := handle_of_exit reliable stream served (handlePacket_blocked writable request)
  have returned := answer.returned
  rw [killed] at returned
  cases returned

end RideHailing.Session
