import RideHailing.Fleet.System
import Mathlib.Logic.Relation

/-!
# The lifecycle of a driver

Abstractly a driver is in one of three modes and has a fuel level.  The bounds
on the fuel, and its parity while refuelling, are part of the abstract value,
so that the moves between values need no separate invariant.  The flag bytes
and the counter of a record represent such a value; every stage of a monitor
pass, an assignment and a join refine its moves.
-/

namespace RideHailing.Fleet

open RideHailing.Common
open RideHailing.Server
open RideHailing.Transition

/-! ## Abstract lifecycle -/

inductive Mode
  | available
  | refueling
  | navigating
  deriving DecidableEq

/-- A mode with a fuel level that can occur in it. -/
structure Lifecycle where
  mode : Mode
  fuel : Int
  fuel_nonneg : 0 ≤ fuel
  fuel_le : fuel ≤ 10
  even_of_refueling : mode = .refueling → Even fuel

namespace Lifecycle

/-- A new driver with a full tank. -/
def full : Lifecycle where
  mode := .available
  fuel := 10
  fuel_nonneg := by decide
  fuel_le := by decide
  even_of_refueling := by simp

/-- The end of a ride or of refuelling. -/
def release (l : Lifecycle) : Lifecycle :=
  { l with mode := .available, even_of_refueling := by simp }

/-- One unit of fuel is burnt outside the station. -/
def burn (l : Lifecycle) (outside : l.mode ≠ .refueling) (positive : 0 < l.fuel) :
    Lifecycle where
  mode := l.mode
  fuel := l.fuel - 1
  fuel_nonneg := Int.le_sub_one_of_lt positive
  fuel_le := Int.le_trans (Int.sub_le_self _ (by decide)) l.fuel_le
  even_of_refueling := fun refueling => absurd refueling outside

/-- An available driver takes a ride, which burns one unit. -/
def assign (l : Lifecycle) (idle : l.mode = .available) (positive : 0 < l.fuel) :
    Lifecycle :=
  { l.burn (by rw [idle]; decide) positive with
    mode := .navigating, even_of_refueling := by simp }

/-- An available driver with an empty tank enters the station. -/
def runDry (l : Lifecycle) (empty : l.fuel = 0) : Lifecycle :=
  { l with mode := .refueling, even_of_refueling := fun _ => by rw [empty]; exact Even.zero }

/-- Two units are added; parity keeps the level within the tank. -/
def addFuel (l : Lifecycle) (inside : l.mode = .refueling) (room : l.fuel < 10) :
    Lifecycle where
  mode := .refueling
  fuel := l.fuel + 2
  fuel_nonneg := Int.add_nonneg l.fuel_nonneg (by decide)
  fuel_le := by
    obtain ⟨half, fuel_eq⟩ := l.even_of_refueling inside
    omega
  even_of_refueling := fun _ => (l.even_of_refueling inside).add even_two

/-- The moves of the lifecycle.  A ride is only ever assigned to an available
driver. -/
inductive Step : Lifecycle → Lifecycle → Prop
  | release (l : Lifecycle) : Step l l.release
  | burn (l : Lifecycle) (outside : l.mode ≠ .refueling) (positive : 0 < l.fuel) :
      Step l (l.burn outside positive)
  | assign (l : Lifecycle) (idle : l.mode = .available) (positive : 0 < l.fuel) :
      Step l (l.assign idle positive)
  | runDry (l : Lifecycle) (idle : l.mode = .available) (empty : l.fuel = 0) :
      Step l (l.runDry empty)
  | addFuel (l : Lifecycle) (inside : l.mode = .refueling) (room : l.fuel < 10) :
      Step l (l.addFuel inside room)

/-- Finite sequences of moves. -/
abbrev Steps : Lifecycle → Lifecycle → Prop :=
  Relation.ReflTransGen Step

end Lifecycle

/-! ## Representation -/

/-- The flags and the fuel of a record show an abstract value. -/
structure Represents (d : Driver) (l : Lifecycle) : Prop where
  isAvailable : d.isAvailable = decide (l.mode = .available)
  isRefueling : d.isRefueling = decide (l.mode = .refueling)
  hasTarget : d.hasTarget = decide (l.mode = .navigating)
  fuel : d.fuel = l.fuel

namespace Represents

variable {d : Driver} {l : Lifecycle}

theorem mode_available (represents : Represents d l) :
    d.isAvailable = true ↔ l.mode = .available := by
  rw [represents.isAvailable, decide_eq_true_iff]

theorem mode_refueling (represents : Represents d l) :
    d.isRefueling = true ↔ l.mode = .refueling := by
  rw [represents.isRefueling, decide_eq_true_iff]

theorem mode_navigating (represents : Represents d l) :
    d.hasTarget = true ↔ l.mode = .navigating := by
  rw [represents.hasTarget, decide_eq_true_iff]

/-- The three flags in a known mode. -/
theorem flags {m : Mode} (represents : Represents d l) (mode_eq : l.mode = m) :
    d.isAvailable = decide (m = .available) ∧ d.isRefueling = decide (m = .refueling) ∧
      d.hasTarget = decide (m = .navigating) := by
  subst mode_eq
  exact ⟨represents.isAvailable, represents.isRefueling, represents.hasTarget⟩

/-- Position, identity, rating, target and ride count are not represented. -/
theorem congr {other : Driver} (represents : Represents d l)
    (isAvailable : other.isAvailable = d.isAvailable)
    (isRefueling : other.isRefueling = d.isRefueling)
    (hasTarget : other.hasTarget = d.hasTarget) (fuel : other.fuel = d.fuel) :
    Represents other l :=
  ⟨isAvailable.trans represents.isAvailable, isRefueling.trans represents.isRefueling,
    hasTarget.trans represents.hasTarget, fuel.trans represents.fuel⟩

end Represents

/-- A record update refines the lifecycle when it leads from every represented
value to one that moves can reach. -/
def Refines (update : Driver → Driver) : Prop :=
  ∀ d l, Represents d l → ∃ next, l.Steps next ∧ Represents (update d) next

theorem Refines.comp {first second : Driver → Driver} (firstRefines : Refines first)
    (secondRefines : Refines second) : Refines fun d => second (first d) := by
  intro d l represents
  obtain ⟨middle, firstSteps, middleRepresents⟩ := firstRefines d l represents
  obtain ⟨next, secondSteps, nextRepresents⟩ := secondRefines _ middle middleRepresents
  exact ⟨next, firstSteps.trans secondSteps, nextRepresents⟩

/-! ## Stages of a monitor pass -/

theorem respawn_refines (grid : GridMap) (gx gy : Int) : Refines (respawn grid gx gy) := by
  intro d l represents
  unfold respawn
  split
  · exact ⟨l.release, .single (.release l), ⟨rfl, rfl, rfl, represents.fuel⟩⟩
  · exact ⟨l, .refl, represents⟩

theorem arrive_refines (draws : TickDraws) : Refines (arrive draws) := by
  intro d l represents
  unfold arrive
  split
  · exact ⟨l.release, .single (.release l), ⟨rfl, rfl, rfl, represents.fuel⟩⟩
  · exact ⟨l, .refl, represents⟩

/-- Fuel is only burnt behind a target, hence outside the station. -/
theorem burnFuel_refines {draws : TickDraws} {d : Driver} {l : Lifecycle}
    (represents : Represents d l) (outside : l.mode ≠ .refueling) :
    ∃ next, l.Steps next ∧ Represents (burnFuel draws d) next := by
  unfold burnFuel
  split
  next burns =>
    have positive : 0 < l.fuel := represents.fuel ▸ burns.1
    refine ⟨l.burn outside positive, .single (.burn l outside positive), ?_⟩
    exact ⟨represents.isAvailable, represents.isRefueling, represents.hasTarget,
      congrArg (· - 1) represents.fuel⟩
  next => exact ⟨l, .refl, represents⟩

theorem arrive_isRefueling {draws : TickDraws} {d : Driver} (outside : d.isRefueling = false) :
    (arrive draws d).isRefueling = false := by
  unfold arrive
  split
  · rfl
  · exact outside

theorem navigate_refines (draws : TickDraws) : Refines (navigate draws) := by
  intro d l represents
  unfold navigate
  split
  next targeted =>
    have navigating : l.mode = .navigating := represents.mode_navigating.mp targeted
    have outside : d.isRefueling = false := by
      rw [represents.isRefueling, navigating]
      rfl
    obtain ⟨middle, arrival, arrived⟩ := arrive_refines draws d l represents
    have middleOutside : middle.mode ≠ .refueling := by
      intro refueling
      have flag := arrived.mode_refueling.mpr refueling
      rw [arrive_isRefueling outside] at flag
      contradiction
    obtain ⟨next, burning, burnt⟩ := burnFuel_refines arrived middleOutside
    exact ⟨next, arrival.trans burning, burnt⟩
  next => exact ⟨l, .refl, represents⟩

theorem startRefueling_refines : Refines startRefueling := by
  intro d l represents
  unfold startRefueling
  split
  next dry =>
    have idle : l.mode = .available := represents.mode_available.mp dry.1
    have empty : l.fuel = 0 :=
      Int.le_antisymm (represents.fuel ▸ dry.2.1) l.fuel_nonneg
    exact ⟨l.runDry empty, .single (.runDry l idle empty), ⟨rfl, rfl, rfl, represents.fuel⟩⟩
  next => exact ⟨l, .refl, represents⟩

theorem refuel_refines : Refines refuel := by
  intro d l represents
  unfold refuel
  split
  next refueling =>
    have inside : l.mode = .refueling := represents.mode_refueling.mp refueling
    obtain ⟨unavailable, stationed, untargeted⟩ := represents.flags inside
    split
    next low =>
      have room : l.fuel < 10 := represents.fuel ▸ low
      exact ⟨l.addFuel inside room, .single (.addFuel l inside room),
        ⟨unavailable, stationed, untargeted, congrArg (· + 2) represents.fuel⟩⟩
    next =>
      exact ⟨l.release, .single (.release l), ⟨rfl, rfl, untargeted, represents.fuel⟩⟩
  next => exact ⟨l, .refl, represents⟩

theorem manageFuel_refines : Refines manageFuel :=
  startRefueling_refines.comp refuel_refines

/-- A represented record is in some mode, so the failsafe never acts. -/
theorem failsafe_refines : Refines failsafe := by
  intro d l represents
  have busy : ¬ (¬ d.isAvailable ∧ ¬ d.isRefueling ∧ ¬ d.hasTarget) := by
    rintro ⟨unavailable, outside, untargeted⟩
    cases mode_eq : l.mode with
    | available => exact unavailable (represents.mode_available.mpr mode_eq)
    | refueling => exact outside (represents.mode_refueling.mpr mode_eq)
    | navigating => exact untargeted (represents.mode_navigating.mpr mode_eq)
  unfold failsafe
  rw [if_neg busy]
  exact ⟨l, .refl, represents⟩

theorem followPath_refines (grid : GridMap) (gx gy : Int) {d : Driver} {l : Lifecycle}
    (represents : Represents d l) (navigating : l.mode = .navigating) :
    ∃ next, l.Steps next ∧ Represents (followPath grid gx gy d) next := by
  obtain ⟨_, outside, _⟩ := represents.flags navigating
  unfold followPath
  simp only
  split
  · exact ⟨l.release, .single (.release l), ⟨rfl, outside, rfl, represents.fuel⟩⟩
  · exact ⟨l, .refl, represents.congr rfl rfl rfl rfl⟩

theorem randomWalk_refines (grid : GridMap) (draws : TickDraws) :
    Refines (randomWalk grid draws) := by
  intro d l represents
  unfold randomWalk
  simp only
  split
  · exact ⟨l, .refl, represents⟩
  · exact ⟨l, .refl, represents.congr rfl rfl rfl rfl⟩

theorem move_refines (grid : GridMap) (draws : TickDraws) (gx gy : Int) :
    Refines (move grid draws gx gy) := by
  intro d l represents
  unfold move
  split
  next travelling =>
    exact followPath_refines grid gx gy represents
      (represents.mode_navigating.mp travelling.1)
  next =>
    split
    · exact randomWalk_refines grid draws d l represents
    · exact ⟨l, .refl, represents⟩

/-- A whole monitor pass refines the lifecycle. -/
theorem tickDriver_refines (grid : GridMap) (draws : TickDraws) :
    Refines (tickDriver grid draws) := by
  intro d l represents
  exact ((((respawn_refines grid _ _).comp (navigate_refines draws)).comp
    manageFuel_refines).comp failsafe_refines).comp (move_refines grid draws _ _)
    d l represents

/-! ## The other updates -/

/-- An eligible driver is available and has fuel, so the assignment is a move. -/
theorem assignRide_refines (draws : TargetDraws) {d : Driver} {l : Lifecycle}
    (represents : Represents d l) (able : eligible d) :
    ∃ next, l.Step next ∧ Represents (assignRide draws d) next := by
  simp only [eligible, Bool.and_eq_true, decide_eq_true_iff] at able
  obtain ⟨⟨available, _⟩, fuelled⟩ := able
  have idle : l.mode = .available := represents.mode_available.mp available
  have positive : 0 < l.fuel := represents.fuel ▸ fuelled
  obtain ⟨_, outside, _⟩ := represents.flags idle
  exact ⟨l.assign idle positive, .assign l idle positive,
    ⟨rfl, outside, rfl, congrArg (· - 1) represents.fuel⟩⟩

theorem initDriver_represents (i : Nat) (draws : InitDraws) :
    Represents (initDriver i draws Driver.zeroed) Lifecycle.full :=
  ⟨rfl, rfl, rfl, rfl⟩

theorem joinDriver_represents (driverId : UInt32) :
    Represents (joinDriver driverId Driver.zeroed) Lifecycle.full :=
  ⟨rfl, rfl, rfl, rfl⟩

/-- Every active record of a reachable state represents a lifecycle value. -/
theorem reachable_represents {state : SharedState}
    (reachable : Reachable secureServer state) :
    ∀ slot, state.Active slot → ∃ l, Represents (state.drivers slot) l := by
  apply active_invariant (P := fun d => ∃ l, Represents d l) _ _ _ _ reachable
  · intro i draws
    exact ⟨Lifecycle.full, initDriver_represents i draws⟩
  · rintro draws d ⟨l, represents⟩ able
    obtain ⟨next, _, represented⟩ := assignRide_refines draws represents able
    exact ⟨next, represented⟩
  · rintro draws d ⟨l, represents⟩
    obtain ⟨next, _, represented⟩ := tickDriver_refines initMapObstacles draws d l represents
    exact ⟨next, represented⟩
  · intro driverId
    exact ⟨Lifecycle.full, joinDriver_represents driverId⟩

/-! ## The invariant of the code -/

/-- Exactly one of the three mode flags is set. -/
def ExactlyOneMode (d : Driver) : Prop :=
  [d.isAvailable, d.isRefueling, d.hasTarget].count true = 1

theorem Represents.exactlyOneMode {d : Driver} {l : Lifecycle} (represents : Represents d l) :
    ExactlyOneMode d := by
  cases mode_eq : l.mode with
  | available => obtain ⟨a, r, t⟩ := represents.flags mode_eq; rw [ExactlyOneMode, a, r, t]; rfl
  | refueling => obtain ⟨a, r, t⟩ := represents.flags mode_eq; rw [ExactlyOneMode, a, r, t]; rfl
  | navigating => obtain ⟨a, r, t⟩ := represents.flags mode_eq; rw [ExactlyOneMode, a, r, t]; rfl

theorem Represents.invariant {d : Driver} {l : Lifecycle} (represents : Represents d l) :
    ExactlyOneMode d ∧ 0 ≤ d.fuel ∧ d.fuel ≤ 10 ∧ (d.isRefueling → Even d.fuel) := by
  rw [represents.fuel]
  exact ⟨represents.exactlyOneMode, l.fuel_nonneg, l.fuel_le,
    fun refueling => l.even_of_refueling (represents.mode_refueling.mp refueling)⟩

/-! ## Any positions -/

/-- The fields of type `double` of the active drivers hold some other values. -/
structure Repositioned (state moved : SharedState) : Prop where
  frame : ∃ drivers, moved = { state with drivers }
  active : ∀ slot, state.Active slot → ∃ lat lon rating targetLat targetLon,
    moved.drivers slot = { state.drivers slot with lat, lon, rating, targetLat, targetLon }
  unused : ∀ slot, ¬ state.Active slot → moved.drivers slot = state.drivers slot

/-- The server whose critical sections each start from any positions, targets and
ratings, so that nothing depends on how `double` arithmetic rounds. -/
def repositionedServer : System SharedState Event where
  initial := secureServer.initial
  step state event next := ∃ moved, Repositioned state moved ∧ CriticalSection moved event next

theorem Repositioned.refl (state : SharedState) : Repositioned state state where
  frame := ⟨state.drivers, rfl⟩
  active _ _ := ⟨_, _, _, _, _, rfl⟩
  unused _ _ := rfl

/-- The exact server is a special case. -/
theorem run_repositioned {trace : List Event} {state : SharedState}
    (run : Run secureServer trace state) : Run repositionedServer trace state := by
  induction run with
  | start starts => exact Run.start starts
  | snoc _ step ih => exact Run.snoc ih ⟨_, .refl _, step⟩

/-- Every active record represents a lifecycle value. -/
structure Lively (state : SharedState) : Prop where
  wellFormed : WellFormed state
  represented : ∀ slot, state.Active slot → ∃ l, Represents (state.drivers slot) l

theorem Lively.repositioned {state moved : SharedState} (lively : Lively state)
    (repositioned : Repositioned state moved) : Lively moved := by
  obtain ⟨drivers, frame⟩ := repositioned.frame
  have active : ∀ slot, moved.Active slot ↔ state.Active slot := by
    intro slot
    rw [frame]
    rfl
  constructor
  · constructor
    · rw [frame]
      exact lively.wellFormed.nonneg
    · rw [frame]
      exact lively.wellFormed.fits
    · intro slot inactive
      rw [active slot] at inactive
      rw [repositioned.unused slot inactive]
      exact lively.wellFormed.unused slot inactive
  · intro slot inside
    rw [active slot] at inside
    obtain ⟨l, represents⟩ := lively.represented slot inside
    obtain ⟨_, _, _, _, _, record⟩ := repositioned.active slot inside
    rw [record]
    exact ⟨l, represents.congr rfl rfl rfl rfl⟩

theorem Lively.step {state next : SharedState} {event : Event} (lively : Lively state)
    (step : CriticalSection state event next) : Lively next := by
  constructor
  · exact criticalSection_wellFormed lively.wellFormed step
  · intro slot active
    cases criticalSection_record lively.wellFormed step slot with
    | kept _ record same =>
        rw [record]
        exact lively.represented slot (same.mp active)
    | assigned clientId draws _ record was _ able =>
        obtain ⟨l, represents⟩ := lively.represented slot was
        obtain ⟨after, _, represented⟩ := assignRide_refines draws represents able
        rw [record]
        exact ⟨after, represented⟩
    | ticked draws _ record was _ =>
        obtain ⟨l, represents⟩ := lively.represented slot was
        obtain ⟨after, _, represented⟩ := tickDriver_refines initMapObstacles draws _ l represents
        rw [record]
        exact ⟨after, represented⟩
    | joined driverId _ record _ _ =>
        rw [record]
        exact ⟨Lifecycle.full, joinDriver_represents driverId⟩

theorem repositioned_lively {trace : List Event} {state : SharedState}
    (run : Run repositionedServer trace state) : Lively state := by
  apply run.invariant (P := fun _ state => Lively state)
  · intro start initial
    have exact_ : Run secureServer [] start := Run.start initial
    exact ⟨reachable_wellFormed exact_.reachable, reachable_represents exact_.reachable⟩
  · rintro _ before event after lively ⟨moved, repositioned, step⟩
    exact (lively.repositioned repositioned).step step

/-- Wherever the drivers are at each step, at every release of the mutex every
active driver is in exactly one mode, its fuel lies in the tank and is even while
it refuels; and a driver that is assigned a ride has no ride in progress. -/
theorem driver_lifecycle {trace : List Event} {state : SharedState}
    (run : Run repositionedServer trace state) :
    (∀ slot, state.Active slot →
      ExactlyOneMode (state.drivers slot) ∧ 0 ≤ (state.drivers slot).fuel ∧
        (state.drivers slot).fuel ≤ 10 ∧
        ((state.drivers slot).isRefueling → Even (state.drivers slot).fuel)) ∧
      ∀ clientId slot next, repositionedServer.step state (.rideRequest clientId (some slot)) next →
        (state.drivers slot).hasTarget = false := by
  have lively := repositioned_lively run
  constructor
  · intro slot active
    obtain ⟨l, represents⟩ := lively.represented slot active
    exact represents.invariant
  · rintro clientId slot next ⟨moved, repositioned, step⟩
    cases criticalSection_shared step with
    | dispatched _ draws _ inside able =>
        obtain ⟨drivers, frame⟩ := repositioned.frame
        have active : state.Active slot := by
          rw [frame] at inside
          exact inside
        obtain ⟨_, _, _, _, _, record⟩ := repositioned.active slot active
        obtain ⟨l, represents⟩ := lively.represented slot active
        rw [record] at able
        simp only [eligible, Bool.and_eq_true] at able
        obtain ⟨_, _, untargeted⟩ :=
          represents.flags (represents.mode_available.mp able.1.1)
        exact untargeted

/-- Another position for one driver. -/
def reposition (slot : Fin maxDrivers) (lat lon : ℚ) (state : SharedState) : SharedState :=
  { state with
    drivers := Function.update state.drivers slot { state.drivers slot with lat, lon } }

theorem repositioned_reposition {slot : Fin maxDrivers} {state : SharedState}
    (active : state.Active slot) (lat lon : ℚ) :
    Repositioned state (reposition slot lat lon state) where
  frame := ⟨_, rfl⟩
  active := by
    intro other inside
    by_cases same : other = slot
    · subst same
      exact ⟨lat, lon, _, _, _, Function.update_self _ _ _⟩
    · exact ⟨_, _, _, _, _, Function.update_of_ne same _ _⟩
  unused := by
    intro other inactive
    apply Function.update_of_ne
    rintro rfl
    exact inactive active

/-- A driver whose exact position is off the map may be found on the base, where
its ride ends. -/
theorem driver_lifecycle_servedRide :
    ∃ next, Run repositionedServer [.driverJoin 7, .rideRequest 5 (some 0), .monitorTick] next ∧
      ExactlyOneMode (next.drivers 0) ∧ 0 ≤ (next.drivers 0).fuel ∧
        (next.drivers 0).fuel ≤ 10 := by
  have moved := repositioned_reposition (by decide : servedRide.Active 0) baseLat baseLon
  have wellFormed := reachable_wellFormed servedRide_run.reachable
  obtain ⟨next, tick⟩ : ∃ next, mapMonitorTick initMapObstacles (fun _ => ⟨99, 99, 1, 1⟩)
      (reposition 0 baseLat baseLon servedRide) = some next :=
    ⟨_, SharedState.forDrivers_eq_some _ wellFormed.fits⟩
  have step : repositionedServer.step servedRide .monitorTick next := ⟨_, moved, _, tick⟩
  have run := (run_repositioned servedRide_run).snoc step
  have active : next.Active 0 := by
    rw [SharedState.forDrivers_frame tick]
    exact (by decide : servedRide.Active 0)
  obtain ⟨oneMode, lower, upper, _⟩ := (driver_lifecycle run).1 0 active
  exact ⟨next, run, oneMode, lower, upper⟩

end RideHailing.Fleet
