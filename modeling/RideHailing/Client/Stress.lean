import RideHailing.Loop.Counted
import RideHailing.Transition.Interleaving
import Mathlib.Data.Rat.Defs

/-!
# The stress client

`main` of the stress client starts one thread for each client and waits for all
of them.  The threads share the statistics under a mutex, and the list of final
statuses without one.  What a request returns and how long it takes is open, so
that every answer of every server is covered; latencies are exact rationals.
-/

namespace RideHailing.Client

open RideHailing.Loop
open RideHailing.Transition

/-! ## Shared data -/

inductive ClientResultStatus
  | init
  | success
  | failNoDriver
  | failDos
  | failOther
  deriving DecidableEq

structure ClientStatusEntry where
  clientId : Int
  finalStatus : ClientResultStatus
  deriving DecidableEq

/-- `ClientStats` without its mutex. -/
structure ClientStats where
  totalRequests : Int
  successCount : Int
  failCount : Int
  totalLatencyMs : ℚ
  deriving DecidableEq

/-- The section of a thread under the mutex after a request. -/
def ClientStats.record (result : Int) (latency : ℚ) (stats : ClientStats) : ClientStats :=
  let counted := { stats with totalRequests := stats.totalRequests + 1 }
  if result = 0 then
    { counted with
      successCount := counted.successCount + 1
      totalLatencyMs := counted.totalLatencyMs + latency }
  else { counted with failCount := counted.failCount + 1 }

/-- What `main` and its threads share; `created` is the loop counter of the
creating loop. -/
structure StressState (n : Nat) where
  stats : ClientStats
  statusList : Fin n → ClientStatusEntry
  created : Nat

namespace StressState

variable {n : Nat}

/-- `status_list[client_id - 1].final_status`, rewritten. -/
def updateStatus (clientId : Int) (update : ClientResultStatus → ClientResultStatus)
    (state : StressState n) : Option (StressState n) :=
  (checkedIndex n (clientId - 1)).map fun slot =>
    { state with
      statusList := Function.update state.statusList slot
        { state.statusList slot with finalStatus := update (state.statusList slot).finalStatus } }

/-- One iteration of the creating loop, up to `pthread_create`. -/
def enroll (state : StressState n) : Option (StressState n) :=
  (checkedIndex n state.created).map fun slot =>
    { state with
      statusList := Function.update state.statusList slot
        { clientId := state.created + 1, finalStatus := .init }
      created := state.created + 1 }

end StressState

/-! ## One thread -/

/-- The status after a request, by its return value. -/
def reportResult (result : Int) (status : ClientResultStatus) : ClientResultStatus :=
  if result = 0 then status
  else if result = -2 then if status = .init then .failDos else status
  else if status = .init then .failNoDriver else status

/-- The status at the end of a thread. -/
def concludeStatus (successLocalCount : Nat) (status : ClientResultStatus) :
    ClientResultStatus :=
  if 0 < successLocalCount then .success
  else if status = .init then .failNoDriver
  else status

/-- Where `stress_client_thread_func` stands, with its local variables.  Before
its creation a thread holds the identifier that `main` will pass. -/
inductive ThreadPhase
  | pending (clientId : Int)
  | looping (clientId : Int) (i successLocalCount : Nat)
  | performed (clientId : Int) (i successLocalCount : Nat) (result : Int) (latency : ℚ)
  | reporting (clientId : Int) (i successLocalCount : Nat) (result : Int)
  | finished

inductive ThreadAction
  | created
  | refused
  | performed
  | recorded (result : Int) (latency : ℚ)
  | reported
  | finished

variable {n : Nat}

/-- The steps of a thread.  A connection that fails skips the iteration. -/
inductive ThreadStep (requestsPerThread : Nat) (shared : StressState n) :
    ThreadPhase → ThreadAction → StressState n → ThreadPhase → Prop
  | create (clientId : Int) (next : StressState n) (turn : clientId = shared.created + 1)
      (enrolled : shared.enroll = some next) :
      ThreadStep requestsPerThread shared (.pending clientId) .created next
        (.looping clientId 0 0)
  | refuse (clientId : Int) (i successLocalCount : Nat) (more : i < requestsPerThread) :
      ThreadStep requestsPerThread shared (.looping clientId i successLocalCount) .refused shared
        (.looping clientId (i + 1) successLocalCount)
  | perform (clientId : Int) (i successLocalCount : Nat) (result : Int) (latency : ℚ)
      (more : i < requestsPerThread) :
      ThreadStep requestsPerThread shared (.looping clientId i successLocalCount) .performed
        shared (.performed clientId i successLocalCount result latency)
  | record (clientId : Int) (i successLocalCount : Nat) (result : Int) (latency : ℚ) :
      ThreadStep requestsPerThread shared
        (.performed clientId i successLocalCount result latency) (.recorded result latency)
        { shared with stats := shared.stats.record result latency }
        (.reporting clientId i
          (if result = 0 then successLocalCount + 1 else successLocalCount) result)
  | report (clientId : Int) (i successLocalCount : Nat) (result : Int) (next : StressState n)
      (stored : shared.updateStatus clientId (reportResult result) = some next) :
      ThreadStep requestsPerThread shared (.reporting clientId i successLocalCount result)
        .reported next (.looping clientId (i + 1) successLocalCount)
  | finish (clientId : Int) (i successLocalCount : Nat) (next : StressState n)
      (done : requestsPerThread ≤ i)
      (stored : shared.updateStatus clientId (concludeStatus successLocalCount) = some next) :
      ThreadStep requestsPerThread shared (.looping clientId i successLocalCount) .finished next
        .finished

/-! ## The whole client -/

/-- The number of threads, from the argument of `main`. -/
def clampClients (numClients : Int) : Nat :=
  if numClients ≤ 0 then 1 else if 5000 < numClients then 5000 else numClients.toNat

/-- `requests_per_client`. -/
def requestsPerClient : Nat := 10

/-- `main` and its threads.  The list of statuses is not initialised. -/
def stressClient (n requestsPerThread : Nat) :
    Family (Fin n) (StressState n) ThreadPhase ThreadAction Empty where
  initial global := global.shared.stats = ⟨0, 0, 0, 0⟩ ∧ global.shared.created = 0 ∧
    ∀ thread, global.processes thread = .pending (thread.val + 1)
  act := ThreadStep requestsPerThread
  outside _ label := label.elim

/-- The stress test that `main` runs. -/
def stressTest (numClients : Int) :
    Family (Fin (clampClients numClients)) (StressState (clampClients numClients)) ThreadPhase
      ThreadAction Empty :=
  stressClient (clampClients numClients) requestsPerClient

/-- The text of a status in `print_client_status_table`. -/
def statusText : ClientResultStatus → String
  | .success => "✅ SUCCESS"
  | .failDos => "⚠️ FAILED (DoS Blocked)"
  | .failNoDriver => "❌ FAILED (No Driver/Conn)"
  | _ => "❓ INCOMPLETE"

end RideHailing.Client
