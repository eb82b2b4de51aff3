import RideHailing.Fleet.System

/-!
# The rate limiter under concurrency

`check_and_update_rate_limit` reads the clock before it takes the mutex.  Here
the reading is a step of its own, so that any number of workers can hold
readings of different ages while others pass them.  The clock never goes back,
and all other critical sections go on in between.
-/

namespace RideHailing.Fleet

open RideHailing.Arithmetic
open RideHailing.Common
open RideHailing.Server
open RideHailing.Transition

/-! ## Workers and the clock -/

/-- The shared state, the clock, and for each worker between its two steps the
identifier and the reading that it holds. -/
structure ClockedServer where
  shared : SharedState
  clock : Int
  waiting : Nat → Option (Int × Int)

inductive Action
  | clockAdvance (now : Int)
  | readClock (worker : Nat) (clientId : Int)
  | update (worker : Nat) (clientId now : Int) (blocked : Bool)
  | background (event : Event)
  deriving DecidableEq

namespace ClockedServer

/-- `now = time(NULL)`. -/
def readClock (worker : Nat) (clientId : Int) (server : ClockedServer) : ClockedServer :=
  { server with
    waiting := Function.update server.waiting worker (some (clientId, server.clock)) }

/-- The part of the call under the mutex, with the reading that the worker holds. -/
def update (worker : Nat) (clientId now : Int) (server : ClockedServer) : ClockedServer :=
  { server with
    shared := (checkAndUpdateRateLimit clientId now server.shared).2
    waiting := Function.update server.waiting worker none }

end ClockedServer

/-- One step of a worker, of the clock or of the rest of the server.  A call
for an identifier without an entry returns before it reads the clock. -/
inductive ClockedStep (server : ClockedServer) : Action → ClockedServer → Prop
  | clockAdvance (now : Int) (later : server.clock ≤ now) :
      ClockedStep server (.clockAdvance now) { server with clock := now }
  | readClock (worker : Nat) (clientId : Int) (slot : Fin maxClients)
      (idle : server.waiting worker = none) (entry : limiterSlot clientId = some slot) :
      ClockedStep server (.readClock worker clientId) (server.readClock worker clientId)
  | update (worker : Nat) (clientId now : Int)
      (holds : server.waiting worker = some (clientId, now)) :
      ClockedStep server
        (.update worker clientId now (checkAndUpdateRateLimit clientId now server.shared).1)
        (server.update worker clientId now)
  | background (event : Event) (shared : SharedState)
      (other : ∀ clientId now blocked, event ≠ .rateLimitCheck clientId now blocked)
      (section_ : CriticalSection server.shared event shared) :
      ClockedStep server (.background event) { server with shared }

/-- The server with a clock, started with no worker inside the limiter. -/
def clockedServer : System ClockedServer Action where
  initial server := secureServer.initial server.shared ∧ ∀ worker, server.waiting worker = none
  step := ClockedStep

/-- The critical section that an action completes. -/
def Action.event : Action → Option Event
  | .update _ clientId now blocked => some (.rateLimitCheck clientId now blocked)
  | .background event => some event
  | _ => none

/-- Forgetting the clock and the waiting workers gives a run of the server of
critical sections. -/
theorem clockedServer_refines {trace : List Action} {server : ClockedServer}
    (run : Run clockedServer trace server) :
    Run secureServer (trace.filterMap Action.event) server.shared := by
  apply run.invariant (P := fun trace server =>
    Run secureServer (trace.filterMap Action.event) server.shared)
  · rintro start ⟨fresh, _⟩
    exact Run.start fresh
  · intro trace server action next before step
    rw [List.filterMap_append]
    cases step with
    | clockAdvance now later =>
        rw [show [Action.clockAdvance now].filterMap Action.event = [] from rfl, List.append_nil]
        exact before
    | readClock worker clientId slot idle entry =>
        rw [show [Action.readClock worker clientId].filterMap Action.event = [] from rfl,
          List.append_nil]
        exact before
    | update worker clientId now holds => exact Run.snoc before rfl
    | background event shared other section_ => exact Run.snoc before section_

/-! ## One client's entry -/

/-- The action is a call for the client with the given reading that returns 0. -/
def Action.allows (clientId second : Int) : Action → Bool
  | .update _ id now blocked => decide (id = clientId) && decide (now = second) && !blocked
  | _ => false

/-- The number of calls for the client that read the given second and were
allowed. -/
def allowedIn (clientId second : Int) (trace : List Action) : Nat :=
  trace.countP (Action.allows clientId second)

theorem allowedIn_snoc (clientId second : Int) (trace : List Action) (action : Action) :
    allowedIn clientId second (trace ++ [action]) =
      allowedIn clientId second trace + if action.allows clientId second then 1 else 0 := by
  rw [allowedIn, List.countP_append, List.countP_singleton, allowedIn]

/-- The critical sections outside the limiter leave its tables. -/
theorem criticalSection_limiter {state next : SharedState} {event : Event}
    (other : ∀ clientId now blocked, event ≠ .rateLimitCheck clientId now blocked)
    (step : CriticalSection state event next) :
    next.clientLastSeen = state.clientLastSeen ∧ next.clientReqCount = state.clientReqCount := by
  cases criticalSection_shared step with
  | unserved | dispatched | ticked | refused | joined | uncounted => exact ⟨rfl, rfl⟩
  | counted clientId now blocked => exact absurd rfl (other clientId now blocked)

/-- What one step does to a client's entry: it records one of the client's own
requests, or leaves the entry and allows nothing to the client. -/
theorem clockedStep_entry {server next : ClockedServer} {action : Action}
    (step : ClockedStep server action next) {clientId : Int} {slot : Fin maxClients}
    (entry : limiterSlot clientId = some slot) :
    (∃ worker now, action = .update worker clientId now
        (decide (3 < next.shared.clientReqCount slot)) ∧
      next.shared = recordRequest slot now server.shared) ∨
    (next.shared.clientLastSeen slot = server.shared.clientLastSeen slot ∧
      next.shared.clientReqCount slot = server.shared.clientReqCount slot ∧
      ∀ second, action.allows clientId second = false) := by
  cases step with
  | clockAdvance now later => exact Or.inr ⟨rfl, rfl, fun _ => rfl⟩
  | readClock worker client found idle known => exact Or.inr ⟨rfl, rfl, fun _ => rfl⟩
  | update worker client now holds =>
      rcases checkAndUpdateRateLimit_cases (Prod.mk.eta (p := checkAndUpdateRateLimit client now
        server.shared)).symm with ⟨absent, _, unchanged⟩ | ⟨found, known, recorded, verdict⟩
      · right
        have distinct : client ≠ clientId := by
          rintro rfl
          rw [entry] at absent
          contradiction
        refine ⟨by rw [ClockedServer.update, unchanged],
          by rw [ClockedServer.update, unchanged], ?_⟩
        intro second
        simp [Action.allows, distinct]
      · by_cases same : client = clientId
        · subst same
          rw [entry] at known
          cases known
          exact Or.inl ⟨worker, now, by rw [verdict]; rfl, recorded⟩
        · right
          have separate : slot ≠ found := by
            rintro rfl
            have first := (limiterSlot_eq_some_iff.mp entry).2
            have second := (limiterSlot_eq_some_iff.mp known).2
            exact same (second.trans first.symm)
          have frame := recordRequest_frame found now server.shared
          refine ⟨?_, ?_, ?_⟩
          · rw [ClockedServer.update, recorded]
            exact frame.clientLastSeen slot separate
          · rw [ClockedServer.update, recorded]
            exact frame.clientReqCount slot separate
          · intro second
            simp [Action.allows, same]
  | background event shared other section_ =>
      obtain ⟨seen, count⟩ := criticalSection_limiter other section_
      exact Or.inr ⟨congrFun seen slot, congrFun count slot, fun _ => rfl⟩

/-! ## Updates in the order of the clock -/

/-- A step whose update for the client finds a stored second that is no later
than its own reading, and a counter that can still be incremented. -/
def InOrder (clientId : Int) (server : ClockedServer) (action : Action) : Prop :=
  ∀ worker now blocked slot, action = .update worker clientId now blocked →
    limiterSlot clientId = some slot →
      server.shared.clientLastSeen slot ≤ now ∧
        (server.shared.clientLastSeen slot = now →
          server.shared.clientReqCount slot < 2 ^ 31 - 1)

/-- The entry of a client accounts for its allowed calls: none is later than the
stored second, those of the stored second are counted, and no second has more
than three. -/
structure Accounted (clientId : Int) (slot : Fin maxClients) (trace : List Action)
    (server : ClockedServer) : Prop where
  past : ∀ second, server.shared.clientLastSeen slot < second →
    allowedIn clientId second trace = 0
  current : (allowedIn clientId (server.shared.clientLastSeen slot) trace : Int) ≤
    server.shared.clientReqCount slot
  capped : ∀ second, allowedIn clientId second trace ≤ 3

section Step

variable {clientId : Int} {slot : Fin maxClients} {trace : List Action}
  {server next : ClockedServer}

/-- Another call within the stored second. -/
theorem Accounted.sameSecond (accounted : Accounted clientId slot trace server) (worker : Nat)
    (room : server.shared.clientReqCount slot < 2 ^ 31 - 1)
    (recorded : next.shared =
      recordRequest slot (server.shared.clientLastSeen slot) server.shared) :
    Accounted clientId slot (trace ++ [.update worker clientId
      (server.shared.clientLastSeen slot) (decide (3 < next.shared.clientReqCount slot))])
      next := by
  have current := accounted.current
  have seen : next.shared.clientLastSeen slot = server.shared.clientLastSeen slot := by
    rw [recorded, recordRequest_lastSeen]
  have count : next.shared.clientReqCount slot = server.shared.clientReqCount slot + 1 := by
    rw [recorded, recordRequest_reqCount, if_pos rfl]
    exact wrap32_eq_self (by omega) (by omega)
  constructor
  · intro second later
    rw [seen] at later
    rw [allowedIn_snoc, accounted.past second later]
    simp [Action.allows, later.ne]
  · rw [allowedIn_snoc, seen, count]
    split
    · push_cast
      omega
    · push_cast
      omega
  · intro second
    have capped := accounted.capped second
    rw [allowedIn_snoc]
    split
    next allowed =>
      simp only [Action.allows, Bool.and_eq_true, decide_eq_true_iff, Bool.not_eq_true',
        decide_eq_false_iff_not, count] at allowed
      obtain ⟨⟨_, rfl⟩, below⟩ := allowed
      omega
    next => exact capped

/-- The first call of a second later than the stored one. -/
theorem Accounted.laterSecond (accounted : Accounted clientId slot trace server) (worker : Nat)
    {now : Int} (later : server.shared.clientLastSeen slot < now)
    (recorded : next.shared = recordRequest slot now server.shared) :
    Accounted clientId slot (trace ++ [.update worker clientId now
      (decide (3 < next.shared.clientReqCount slot))]) next := by
  have seen : next.shared.clientLastSeen slot = now := by
    rw [recorded, recordRequest_lastSeen]
  have count : next.shared.clientReqCount slot = 1 := by
    rw [recorded, recordRequest_reqCount, if_neg later.ne]
  have first := accounted.past now later
  constructor
  · intro second afterwards
    rw [seen] at afterwards
    rw [allowedIn_snoc, accounted.past second (later.trans afterwards)]
    simp [Action.allows, afterwards.ne]
  · rw [allowedIn_snoc, seen, count, first]
    split
    · decide
    · decide
  · intro second
    have capped := accounted.capped second
    rw [allowedIn_snoc]
    split
    next allowed =>
      simp only [Action.allows, Bool.and_eq_true, decide_eq_true_iff] at allowed
      obtain ⟨⟨_, rfl⟩, _⟩ := allowed
      rw [first]
      decide
    next => exact capped

theorem Accounted.unchanged {action : Action} (accounted : Accounted clientId slot trace server)
    (seen : next.shared.clientLastSeen slot = server.shared.clientLastSeen slot)
    (count : next.shared.clientReqCount slot = server.shared.clientReqCount slot)
    (silent : ∀ second, action.allows clientId second = false) :
    Accounted clientId slot (trace ++ [action]) next := by
  have same : ∀ second,
      allowedIn clientId second (trace ++ [action]) = allowedIn clientId second trace := by
    intro second
    rw [allowedIn_snoc, silent second]
    rfl
  constructor
  · intro second later
    rw [same]
    exact accounted.past second (seen ▸ later)
  · rw [same, seen, count]
    exact accounted.current
  · intro second
    rw [same]
    exact accounted.capped second

theorem Accounted.step {action : Action} (accounted : Accounted clientId slot trace server)
    (entry : limiterSlot clientId = some slot) (step : ClockedStep server action next)
    (inOrder : InOrder clientId server action) :
    Accounted clientId slot (trace ++ [action]) next := by
  rcases clockedStep_entry step entry with ⟨worker, now, rfl, recorded⟩ | ⟨seen, count, silent⟩
  · obtain ⟨ordered, room⟩ := inOrder worker now _ slot rfl entry
    rcases ordered.eq_or_lt with rfl | later
    · exact accounted.sameSecond worker (room rfl) recorded
    · exact accounted.laterSecond worker later recorded
  · exact accounted.unchanged seen count silent

end Step

/-- The entries of a freshly started server are clear. -/
theorem secureServer_limiter_initial {state : SharedState} (fresh : secureServer.initial state)
    (slot : Fin maxClients) :
    state.clientReqCount slot = 0 := by
  obtain ⟨driverCount, mode, draws, _, _, started⟩ := fresh
  rw [SharedState.forDrivers_frame started]
  rfl

/-- In every run in which the updates of a client's entry come in the order of
their clock readings, at most three of its calls per second are allowed. -/
theorem rateLimit_inOrder {clientId : Int} (lower : 1 ≤ clientId) (upper : clientId ≤ 1999)
    {trace : List Action} {server : ClockedServer}
    (run : Run (clockedServer.restrict (InOrder clientId)) trace server) (second : Int) :
    allowedIn clientId second trace ≤ 3 := by
  obtain ⟨slot, entry, _⟩ := exists_limiterSlot lower upper
  have accounted : Accounted clientId slot trace server := by
    apply run.invariant (P := fun trace server => Accounted clientId slot trace server)
    · rintro start ⟨fresh, _⟩
      constructor
      · exact fun _ _ => rfl
      · rw [secureServer_limiter_initial fresh slot]
        exact Int.le_refl 0
      · exact fun _ => Nat.zero_le 3
    · rintro trace server action next accounted ⟨step, inOrder⟩
      exact accounted.step entry step inOrder
  exact accounted.capped second

/-- A fresh server at second 5. -/
def freshClock : ClockedServer where
  shared := SharedState.zeroed
  clock := 5
  waiting _ := none

theorem freshClock_initial : clockedServer.initial freshClock :=
  ⟨zeroed_initial, fun _ => rfl⟩

section InOrder

variable {clientId : Int} {slot : Fin maxClients} {trace : List Action} {server : ClockedServer}

theorem readClock_inOrder (run : Run (clockedServer.restrict (InOrder clientId)) trace server)
    (worker : Nat) (idle : server.waiting worker = none)
    (entry : limiterSlot clientId = some slot) :
    Run (clockedServer.restrict (InOrder clientId)) (trace ++ [.readClock worker clientId])
      (server.readClock worker clientId) :=
  run.snoc ⟨ClockedStep.readClock worker clientId slot idle entry, nofun⟩

theorem update_inOrder (run : Run (clockedServer.restrict (InOrder clientId)) trace server)
    (worker : Nat) {now : Int} (blocked : Bool)
    (holds : server.waiting worker = some (clientId, now))
    (entry : limiterSlot clientId = some slot)
    (verdict : (checkAndUpdateRateLimit clientId now server.shared).1 = blocked)
    (seen : server.shared.clientLastSeen slot ≤ now)
    (room : server.shared.clientReqCount slot < 2 ^ 31 - 1) :
    Run (clockedServer.restrict (InOrder clientId)) (trace ++ [.update worker clientId now blocked])
      (server.update worker clientId now) := by
  subst verdict
  refine run.snoc ⟨ClockedStep.update worker clientId now holds, ?_⟩
  rintro _ _ _ found ⟨⟩ known
  obtain rfl := Option.some.inj (entry.symm.trans known)
  exact ⟨seen, fun _ => room⟩

end InOrder

/-- Two workers read the clock for client 7 before either of them updates, and both
do so twice within second 5. -/
def twoWorkers : List Action :=
  [.readClock 1 7, .readClock 2 7, .update 2 7 5 false, .update 1 7 5 false,
    .readClock 2 7, .readClock 1 7, .update 2 7 5 false, .update 1 7 5 true]

theorem twoWorkers_run :
    ∃ server, Run (clockedServer.restrict (InOrder 7)) twoWorkers server := by
  have entry : limiterSlot 7 = some 7 := by decide
  have start : Run (clockedServer.restrict (InOrder 7)) [] freshClock :=
    Run.start freshClock_initial
  have first := readClock_inOrder start 1 rfl entry
  have second := readClock_inOrder first 2 rfl entry
  have once := update_inOrder second 2 false rfl entry rfl (by decide) (by decide)
  have twice := update_inOrder once 1 false rfl entry rfl (by decide) (by decide)
  have third := readClock_inOrder twice 2 rfl entry
  have fourth := readClock_inOrder third 1 rfl entry
  have thrice := update_inOrder fourth 2 false rfl entry rfl (by decide) (by decide)
  exact ⟨_, update_inOrder thrice 1 true rfl entry rfl (by decide) (by decide)⟩

theorem rateLimit_inOrder_twoWorkers :
    (∃ server, Run (clockedServer.restrict (InOrder 7)) twoWorkers server) ∧
      allowedIn 7 5 twoWorkers ≤ 3 := by
  obtain ⟨server, run⟩ := twoWorkers_run
  exact ⟨⟨server, run⟩, rateLimit_inOrder (by decide) (by decide) run 5⟩

/-- A call of an idle worker that no other step interrupts. -/
def ClockedServer.call (worker : Nat) (clientId : Int) (server : ClockedServer) : ClockedServer :=
  (server.readClock worker clientId).update worker clientId server.clock

theorem call_run {trace : List Action} {server : ClockedServer}
    (run : Run clockedServer trace server) (worker : Nat) {clientId : Int}
    {slot : Fin maxClients} (idle : server.waiting worker = none)
    (entry : limiterSlot clientId = some slot) :
    Run clockedServer (trace ++ [.readClock worker clientId] ++ [.update worker clientId
      server.clock (checkAndUpdateRateLimit clientId server.clock server.shared).1])
      (server.call worker clientId) := by
  have reading : clockedServer.step server (.readClock worker clientId)
      (server.readClock worker clientId) := ClockedStep.readClock worker clientId slot idle entry
  have holds : (server.readClock worker clientId).waiting worker =
      some (clientId, server.clock) := Function.update_self _ _ _
  exact Run.snoc (Run.snoc run reading) (ClockedStep.update worker clientId server.clock holds)

/-- A fresh server whose worker 0 has read second 5 for client 7, in second 6. -/
def staleReading : ClockedServer :=
  { freshClock.readClock 0 7 with clock := 6 }

theorem staleReading_run :
    Run clockedServer [.readClock 0 7, .clockAdvance 6] staleReading := by
  have reading : clockedServer.step freshClock (.readClock 0 7) (freshClock.readClock 0 7) :=
    ClockedStep.readClock 0 7 7 rfl (by decide)
  have advance : clockedServer.step (freshClock.readClock 0 7) (.clockAdvance 6) staleReading :=
    ClockedStep.clockAdvance 6 (by decide)
  exact Run.snoc (Run.snoc (Run.start freshClock_initial) reading) advance

/-- Three calls in second 6 are allowed; then worker 0 updates with its reading
of second 5, which clears the count, and a fourth call in second 6 is allowed. -/
theorem rateLimit_staleReading :
    ¬ ∀ (clientId : Int) (trace : List Action) (server : ClockedServer) (second : Int),
      1 ≤ clientId → clientId ≤ 1999 → Run clockedServer trace server →
        allowedIn clientId second trace ≤ 3 := by
  intro limited
  have entry : limiterSlot 7 = some 7 := by decide
  have first := call_run staleReading_run 1 rfl entry
  have second := call_run first 1 rfl entry
  have third := call_run second 1 rfl entry
  have late := Run.snoc third (ClockedStep.update 0 7 5 (by decide))
  have fourth := call_run late 1 rfl entry
  have bounded := limited 7 _ _ 6 (by decide) (by decide) fourth
  revert bounded
  decide +kernel

end RideHailing.Fleet
