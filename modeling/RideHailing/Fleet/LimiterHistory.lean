import RideHailing.Limiter.Window
import RideHailing.Server.ResourceService

/-!
# The limiter over a history of calls

The two table entries of a client are a fixed-window counter over the clock
readings of the client's own calls.  The decision on a call is therefore a
matter of the history: how many earlier calls had the same client and the same
second.  Calls of other clients are not seen at all.
-/

namespace RideHailing.Fleet

open RideHailing.Arithmetic
open RideHailing.Common
open RideHailing.Limiter
open RideHailing.Loop
open RideHailing.Server

/-- A call of `check_and_update_rate_limit` with the second that `time` would
return to it. -/
structure LimiterCall where
  clientId : Int
  now : Int
  deriving DecidableEq

/-- The clock reading of a call; the guard of the function comes first. -/
def LimiterCall.reading (call : LimiterCall) : Option Int :=
  (limiterSlot call.clientId).map fun _ => call.now

/-- The shared state after several calls, in the order of their locks. -/
def limiterRun (calls : List LimiterCall) (state : SharedState) : SharedState :=
  calls.foldl (fun current call =>
    (checkAndUpdateRateLimit call.clientId call.now current).2) state

/-- The return values of one client's calls among others. -/
def decisions (clientId : Int) : List LimiterCall → SharedState → List Bool
  | [], _ => []
  | call :: calls, state =>
      let result := checkAndUpdateRateLimit call.clientId call.now state
      if call.clientId = clientId then result.1 :: decisions clientId calls result.2
      else decisions clientId calls result.2

/-- The calls of one client. -/
def callsOf (clientId : Int) (calls : List LimiterCall) : List LimiterCall :=
  calls.filter fun call => decide (call.clientId = clientId)

/-- The clock never goes back between two readings, and no second has so many of
them that a counter could overflow. -/
structure Clocked (calls : List LimiterCall) : Prop where
  ordered : (calls.filterMap LimiterCall.reading).Pairwise (· ≤ ·)
  bounded : ∀ second, (calls.filterMap LimiterCall.reading).count second < 2 ^ 31

theorem limiterRun_snoc (calls : List LimiterCall) (call : LimiterCall) (state : SharedState) :
    limiterRun (calls ++ [call]) state =
      (checkAndUpdateRateLimit call.clientId call.now (limiterRun calls state)).2 := by
  rw [limiterRun, List.foldl_append]
  rfl

theorem Clocked.of_append {calls later : List LimiterCall} (clocked : Clocked (calls ++ later)) :
    Clocked calls := by
  have part : (calls.filterMap LimiterCall.reading).Sublist
      ((calls ++ later).filterMap LimiterCall.reading) :=
    (List.sublist_append_left calls later).filterMap _
  constructor
  · exact clocked.ordered.sublist part
  · intro second
    exact lt_of_le_of_lt (part.count_le second) (clocked.bounded second)

section Client

variable {clientId : Int} {slot : Fin maxClients} {calls : List LimiterCall}
  {call : LimiterCall} {state : SharedState}

/-! ## One entry -/

/-- The two table entries of a client. -/
def entryOf (slot : Fin maxClients) (state : SharedState) : Int × Int :=
  (state.clientLastSeen slot, state.clientReqCount slot)

/-- What a call leaves in its client's entry. -/
def recordEntry (now : Int) (entry : Int × Int) : Int × Int :=
  if entry.1 = now then (entry.1, wrap32 (entry.2 + 1)) else (now, 1)

theorem entryOf_recordRequest (slot : Fin maxClients) (now : Int) (state : SharedState) :
    entryOf slot (recordRequest slot now state) = recordEntry now (entryOf slot state) := by
  rw [entryOf, recordRequest_lastSeen, recordRequest_reqCount, recordEntry]
  by_cases same : state.clientLastSeen slot = now
  · rw [if_pos same, if_pos (by exact same)]
    exact congrArg₂ Prod.mk same.symm rfl
  · rw [if_neg same, if_neg (by exact same)]

/-- A call for the client itself updates the entry and decides on it. -/
theorem check_own (entry : limiterSlot call.clientId = some slot) (state : SharedState) :
    (checkAndUpdateRateLimit call.clientId call.now state).1 =
        decide (3 < (recordEntry call.now (entryOf slot state)).2) ∧
      entryOf slot (checkAndUpdateRateLimit call.clientId call.now state).2 =
        recordEntry call.now (entryOf slot state) := by
  rw [← entryOf_recordRequest, checkAndUpdateRateLimit, entry]
  exact ⟨rfl, rfl⟩

/-- A call for another client leaves the entry. -/
theorem check_other (entry : limiterSlot clientId = some slot)
    (other : call.clientId ≠ clientId) (state : SharedState) :
    entryOf slot (checkAndUpdateRateLimit call.clientId call.now state).2 = entryOf slot state := by
  rcases checkAndUpdateRateLimit_cases (Prod.mk.eta (p := checkAndUpdateRateLimit call.clientId
    call.now state)).symm with ⟨_, _, unchanged⟩ | ⟨found, known, recorded, _⟩
  · rw [unchanged]
  · have separate : slot ≠ found := by
      rintro rfl
      have first := (limiterSlot_eq_some_iff.mp entry).2
      have second := (limiterSlot_eq_some_iff.mp known).2
      exact other (second.trans first.symm)
    have frame := recordRequest_frame found call.now state
    rw [recorded]
    exact congrArg₂ Prod.mk (frame.clientLastSeen slot separate)
      (frame.clientReqCount slot separate)

/-! ## Isolation -/

/-- An identifier without an entry is never blocked. -/
theorem check_absent (absent : limiterSlot call.clientId = none) (state : SharedState) :
    checkAndUpdateRateLimit call.clientId call.now state = (false, state) := by
  rw [checkAndUpdateRateLimit, absent]

theorem callsOf_cons_own (own : call.clientId = clientId) :
    callsOf clientId (call :: calls) = call :: callsOf clientId calls :=
  List.filter_cons_of_pos (decide_eq_true own)

theorem callsOf_cons_other (other : call.clientId ≠ clientId) :
    callsOf clientId (call :: calls) = callsOf clientId calls :=
  List.filter_cons_of_neg (by simp [other])

theorem decisions_cons_own (own : call.clientId = clientId) (state : SharedState) :
    decisions clientId (call :: calls) state =
      (checkAndUpdateRateLimit call.clientId call.now state).1 ::
        decisions clientId calls (checkAndUpdateRateLimit call.clientId call.now state).2 :=
  if_pos own

theorem decisions_cons_other (other : call.clientId ≠ clientId) (state : SharedState) :
    decisions clientId (call :: calls) state =
      decisions clientId calls (checkAndUpdateRateLimit call.clientId call.now state).2 :=
  if_neg other

/-- Two states with the same entry lead to the same decisions, with or without
the calls of the others. -/
theorem decisions_of_entry (entry : limiterSlot clientId = some slot) {first second : SharedState}
    (same : entryOf slot first = entryOf slot second) :
    decisions clientId calls first = decisions clientId (callsOf clientId calls) second := by
  induction calls generalizing first second with
  | nil => rfl
  | cons call calls ih =>
      by_cases own : call.clientId = clientId
      · subst own
        obtain ⟨firstVerdict, firstEntry⟩ := check_own entry first
        obtain ⟨secondVerdict, secondEntry⟩ := check_own entry second
        rw [callsOf_cons_own rfl, decisions_cons_own rfl, decisions_cons_own rfl, firstVerdict,
          secondVerdict, same, ih]
        rw [firstEntry, secondEntry, same]
      · rw [callsOf_cons_other own, decisions_cons_other own]
        exact ih ((check_other entry own first).trans same)

/-- Without an entry there is nothing that a decision could depend on. -/
theorem decisions_of_absent (absent : limiterSlot clientId = none) (first second : SharedState) :
    decisions clientId calls first = decisions clientId (callsOf clientId calls) second := by
  induction calls generalizing first second with
  | nil => rfl
  | cons call calls ih =>
      by_cases own : call.clientId = clientId
      · subst own
        rw [callsOf_cons_own rfl, decisions_cons_own rfl, decisions_cons_own rfl,
          check_absent absent, check_absent absent, ih first second]
      · rw [callsOf_cons_other own, decisions_cons_other own]
        exact ih _ second

/-- The decisions on a client's calls are those made without all other calls. -/
theorem decisions_callsOf (clientId : Int) (calls : List LimiterCall) (state : SharedState) :
    decisions clientId calls state = decisions clientId (callsOf clientId calls) state := by
  cases entry : limiterSlot clientId with
  | none => exact decisions_of_absent entry state state
  | some slot => exact decisions_of_entry entry rfl

/-! ## The entry as a window counter -/

/-- A table entry that holds a window counter. -/
def showWindow (window : Window Int) : Int × Int :=
  (window.latest, window.requests)

theorem recordEntry_showWindow {window : Window Int} {now : Int}
    (fits : (window.record now).requests < 2 ^ 31) :
    recordEntry now (showWindow window) = showWindow (window.record now) := by
  rw [recordEntry, Window.record]
  rw [Window.record] at fits
  by_cases same : window.latest = now
  · rw [if_pos same] at fits ⊢
    rw [if_pos (by exact same)]
    have small : wrap32 ((window.requests : Int) + 1) = window.requests + 1 :=
      wrap32_eq_self (by omega) (by simp only at fits; omega)
    exact congrArg₂ Prod.mk rfl small
  · rw [if_neg same, if_neg (by exact same)]
    rfl

/-- The seconds of one client's calls. -/
def secondsOf (clientId : Int) (calls : List LimiterCall) : List Int :=
  (callsOf clientId calls).map LimiterCall.now

theorem secondsOf_cons_own (own : call.clientId = clientId) :
    secondsOf clientId (call :: calls) = call.now :: secondsOf clientId calls := by
  rw [secondsOf, callsOf_cons_own own]
  rfl

theorem secondsOf_cons_other (other : call.clientId ≠ clientId) :
    secondsOf clientId (call :: calls) = secondsOf clientId calls := by
  rw [secondsOf, callsOf_cons_other other, secondsOf]

theorem secondsOf_snoc_own (own : call.clientId = clientId) :
    secondsOf clientId (calls ++ [call]) = secondsOf clientId calls ++ [call.now] := by
  simp [secondsOf, callsOf, own]

theorem secondsOf_snoc_other (other : call.clientId ≠ clientId) :
    secondsOf clientId (calls ++ [call]) = secondsOf clientId calls := by
  simp [secondsOf, callsOf, other]

/-- A client with an entry reads the clock in every call. -/
theorem secondsOf_sublist (entry : limiterSlot clientId = some slot) (calls : List LimiterCall) :
    (secondsOf clientId calls).Sublist (calls.filterMap LimiterCall.reading) := by
  induction calls with
  | nil => exact List.Sublist.refl []
  | cons call calls ih =>
      by_cases own : call.clientId = clientId
      · have reads : call.reading = some call.now := by
          rw [LimiterCall.reading, own, entry]
          rfl
        rw [secondsOf_cons_own own, List.filterMap_cons_some reads]
        exact ih.cons_cons call.now
      · rw [secondsOf_cons_other own]
        exact ih.trans ((List.sublist_cons_self call calls).filterMap _)

/-- The earlier calls of the same client in the same second. -/
theorem count_secondsOf (call : LimiterCall) (calls : List LimiterCall) :
    (secondsOf call.clientId calls).count call.now = calls.count call := by
  induction calls with
  | nil => rfl
  | cons earlier calls ih =>
      by_cases own : earlier.clientId = call.clientId
      · rw [secondsOf_cons_own own, List.count_cons, List.count_cons, ih]
        have same : earlier.now = call.now ↔ earlier = call := by
          constructor
          · intro second
            cases earlier
            cases call
            exact congrArg₂ LimiterCall.mk own second
          · rintro rfl
            rfl
        simp [same]
      · have apart : earlier ≠ call := by
          rintro rfl
          exact own rfl
        rw [secondsOf_cons_other own, ih, List.count_cons_of_ne apart]

/-- The counter that the zeroed entry holds. -/
def emptyWindow : Window Int where
  latest := 0
  requests := 0

/-- Along an ordered history the entry of a client is the window counter of the
client's own calls. -/
theorem entryOf_limiterRun (entry : limiterSlot clientId = some slot) (clocked : Clocked calls) :
    entryOf slot (limiterRun calls SharedState.zeroed) =
      showWindow (emptyWindow.replay (secondsOf clientId calls)) := by
  induction calls using List.reverseRecOn with
  | nil => rfl
  | append_singleton calls call ih =>
      have before := ih clocked.of_append
      rw [limiterRun_snoc]
      by_cases own : call.clientId = clientId
      · have seconds := secondsOf_sublist entry (calls ++ [call])
        rw [secondsOf_snoc_own own] at seconds ⊢
        have counted := Window.requests_replay_snoc emptyWindow rfl
          (clocked.ordered.sublist seconds)
        have few := lt_of_le_of_lt (seconds.count_le call.now) (clocked.bounded call.now)
        rw [List.count_append, List.count_singleton_self] at few
        have fits : ((emptyWindow.replay (secondsOf clientId calls)).record call.now).requests <
            2 ^ 31 := by
          rw [← Window.replay_snoc, counted]
          exact few
        subst own
        rw [(check_own entry _).2, before, recordEntry_showWindow fits, Window.replay_snoc]
      · rw [check_other entry own, before, secondsOf_snoc_other own]

/-- The decision on a call at the end of an ordered history. -/
theorem check_limiterRun (entry : limiterSlot call.clientId = some slot)
    (clocked : Clocked (calls ++ [call])) :
    (checkAndUpdateRateLimit call.clientId call.now
        (limiterRun calls SharedState.zeroed)).1 = true ↔
      3 ≤ calls.count call := by
  have seconds := secondsOf_sublist entry (calls ++ [call])
  rw [secondsOf_snoc_own rfl] at seconds
  have counted := Window.requests_replay_snoc emptyWindow rfl
    (clocked.ordered.sublist seconds)
  have after := entryOf_limiterRun entry clocked
  obtain ⟨verdict, stored⟩ := check_own entry (limiterRun calls SharedState.zeroed)
  rw [limiterRun_snoc, stored, secondsOf_snoc_own rfl] at after
  rw [count_secondsOf] at counted
  rw [verdict, after, showWindow, counted, decide_eq_true_iff]
  push_cast
  omega

/-! ## The decisions -/

/-- In every ordered history a call of a client with an entry is blocked exactly
when three earlier calls had the same client and the same second; whatever the
history, the decisions on a client's calls depend on these calls alone; and an
identifier that passes the guard is an index of the tables. -/
theorem rateLimit_exact (clocked : Clocked calls) :
    (∀ earlier call later, calls = earlier ++ call :: later →
      1 ≤ call.clientId → call.clientId ≤ 1999 →
        ((checkAndUpdateRateLimit call.clientId call.now
          (limiterRun earlier SharedState.zeroed)).1 = true ↔ 3 ≤ earlier.count call)) ∧
      (∀ clientId others state, callsOf clientId calls = callsOf clientId others →
        decisions clientId calls state = decisions clientId others state) ∧
      ∀ clientId : Int, ¬ (clientId ≤ 0 ∨ (maxClients : Int) ≤ clientId) →
        ∃ slot, checkedIndex maxClients clientId = some slot ∧
          limiterSlot clientId = some slot := by
  refine ⟨?_, ?_, ?_⟩
  · rintro earlier call later rfl lower upper
    obtain ⟨slot, entry, _⟩ := exists_limiterSlot lower upper
    have divided : earlier ++ call :: later = (earlier ++ [call]) ++ later :=
      (List.append_assoc earlier [call] later).symm
    rw [divided] at clocked
    exact check_limiterRun entry clocked.of_append
  · intro clientId others state same
    rw [decisions_callsOf, same, ← decisions_callsOf]
  · intro clientId inside
    have size : maxClients = 2000 := rfl
    have lower : 1 ≤ clientId := by omega
    have upper : clientId ≤ 1999 := by omega
    obtain ⟨slot, entry, _⟩ := exists_limiterSlot lower upper
    rw [limiterSlot, if_neg inside] at entry
    exact ⟨slot, entry, by rw [limiterSlot, if_neg inside, entry]⟩

/-- Four calls of client 7 within second 5, between calls of others. -/
def mixedCalls : List LimiterCall :=
  [⟨7, 5⟩, ⟨8, 5⟩, ⟨7, 5⟩, ⟨0, 1⟩, ⟨7, 5⟩, ⟨8, 5⟩, ⟨7, 5⟩]

theorem rateLimit_exact_mixedCalls :
    (checkAndUpdateRateLimit 7 5 (limiterRun (mixedCalls.take 6) SharedState.zeroed)).1 = true := by
  have readings : mixedCalls.filterMap LimiterCall.reading = [5, 5, 5, 5, 5, 5] := by decide
  have clocked : Clocked mixedCalls := by
    constructor
    · rw [readings]
      decide
    · intro second
      exact lt_of_le_of_lt List.count_le_length (by rw [readings]; decide)
  have fourth := (rateLimit_exact clocked).1 (mixedCalls.take 6) ⟨7, 5⟩ [] (by decide) (by decide)
    (by decide)
  exact fourth.mpr (by decide)

end Client

end RideHailing.Fleet
