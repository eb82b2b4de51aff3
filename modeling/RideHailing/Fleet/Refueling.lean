import RideHailing.Fleet.Cells

/-!
# At the filling station

A driver that the monitor puts into refuelling gains two units with every pass
and is in no other mode until its tank is full.  The only way out before that is
the respawn: a driver that ran dry on a target inside a wall is refuelling there
when the next pass finds it.
-/

namespace RideHailing.Fleet

open RideHailing.Common
open RideHailing.Server
open RideHailing.Transition

variable {d : Driver} {grid : GridMap} {draws : TickDraws} {trace : List Event}
  {state next : SharedState} {event : Event} {slot : Fin maxDrivers}

/-! ## Fuel and station under a pass -/

theorem fuel_respawn (grid : GridMap) (gx gy : Int) (d : Driver) :
    (respawn grid gx gy d).fuel = d.fuel := by
  obtain ⟨_, _, _, _, _, frame⟩ := respawn_frame grid gx gy d
  rw [frame]

theorem fuel_navigate_nonneg (nonneg : 0 ≤ d.fuel) (draws : TickDraws) :
    0 ≤ (navigate draws d).fuel := by
  obtain ⟨_, _, _, _, _, arrived⟩ := arrive_frame draws d
  rw [navigate]
  split
  · rw [burnFuel]
    split
    next burns => exact Int.le_sub_one_of_lt burns.1
    next =>
      rw [arrived]
      exact nonneg
  · exact nonneg

theorem fuel_startRefueling (d : Driver) : (startRefueling d).fuel = d.fuel := by
  obtain ⟨_, _, _, frame⟩ := startRefueling_frame d
  rw [frame]

/-- A driver that is still in the station has just gained fuel. -/
theorem fuel_manageFuel_pos (nonneg : 0 ≤ d.fuel) (inside : (manageFuel d).isRefueling = true) :
    0 < (manageFuel d).fuel := by
  have entered : 0 ≤ (startRefueling d).fuel := by
    rw [fuel_startRefueling]
    exact nonneg
  rw [manageFuel, refuel] at inside ⊢
  by_cases stationed : (startRefueling d).isRefueling = true
  · rw [if_pos stationed] at inside ⊢
    by_cases low : (startRefueling d).fuel < 10
    · rw [if_pos low]
      simp only
      omega
    · rw [if_neg low] at inside
      cases inside
  · rw [if_neg stationed] at inside
    exact absurd inside stationed

/-- The last two stages leave the station and the tank alone. -/
theorem station_move (grid : GridMap) (draws : TickDraws) (gx gy : Int) (d : Driver) :
    (move grid draws gx gy (failsafe d)).isRefueling = d.isRefueling ∧
      (move grid draws gx gy (failsafe d)).fuel = d.fuel := by
  obtain ⟨_, checked⟩ := failsafe_frame d
  obtain ⟨_, _, _, _, moved⟩ := move_frame grid draws gx gy (failsafe d)
  rw [moved, checked]
  exact ⟨rfl, rfl⟩

theorem fuel_tickDriver_pos (nonneg : 0 ≤ d.fuel)
    (inside : (tickDriver grid draws d).isRefueling = true) :
    0 < (tickDriver grid draws d).fuel := by
  rw [tickDriver] at inside ⊢
  rw [(station_move _ _ _ _ _).1] at inside
  rw [(station_move _ _ _ _ _).2]
  apply fuel_manageFuel_pos _ inside
  apply fuel_navigate_nonneg
  rw [fuel_respawn]
  exact nonneg

/-- A refuelling driver, in no other mode and with some fuel. -/
structure Stationed (d : Driver) : Prop where
  inside : d.isRefueling = true
  unavailable : d.isAvailable = false
  untargeted : d.hasTarget = false
  fuelled : 0 < d.fuel

/-- On a free cell a pass keeps a driver in the station that is not full yet. -/
theorem Stationed.stays (stationed : Stationed d) (free : Free grid (cellOf d))
    (low : d.fuel < 10) : (tickDriver grid draws d).isRefueling = true := by
  have idle : navigate draws d = d := if_neg (by simp [stationed.untargeted])
  have waiting : startRefueling d = d := if_neg (by simp [stationed.unavailable])
  have fuelled : manageFuel d = { d with fuel := d.fuel + 2 } := by
    rw [manageFuel, waiting, refuel, if_pos stationed.inside, if_pos low]
  rw [tickDriver, respawn_of_free free, (station_move _ _ _ _ _).1, idle, fuelled]
  exact stationed.inside

/-- Inside a wall a pass takes the driver out of the station, whatever its fuel. -/
theorem tickDriver_of_wall (wall : ¬ Free grid (cellOf d)) (fuelled : 0 < d.fuel) :
    (tickDriver grid draws d).isAvailable = true ∧ (tickDriver grid draws d).fuel = d.fuel := by
  have empty : ¬ d.fuel ≤ 0 := Int.not_le.mpr fuelled
  rw [tickDriver, respawn_of_wall wall]
  simp only [navigate, manageFuel, startRefueling, refuel, failsafe, move, randomWalk, empty,
    Bool.false_eq_true, if_false, false_and, and_false, not_true_eq_false, true_or, if_true]
  split <;> exact ⟨rfl, rfl⟩

/-! ## Whole runs -/

/-- The tank of the slot's driver is not full. -/
def Unfilled (slot : Fin maxDrivers) (state : SharedState) : Prop :=
  (state.drivers slot).fuel ≠ 10

/-- A step that, if it is a pass, finds the slot's driver on a free cell. -/
def PassesOnFreeCell (slot : Fin maxDrivers) (state : SharedState) (event : Event) : Prop :=
  event = .monitorTick → Free initMapObstacles (cellOf (state.drivers slot))

/-- Only an active driver can be refuelling, and it is in no other mode. -/
theorem stationed_of_reachable (reachable : Reachable secureServer state)
    (inside : (state.drivers slot).isRefueling = true)
    (fuelled : 0 < (state.drivers slot).fuel) :
    state.Active slot ∧ Stationed (state.drivers slot) := by
  have active : state.Active slot := by
    by_contra inactive
    rw [(reachable_wellFormed reachable).unused slot inactive] at inside
    cases inside
  obtain ⟨l, represents⟩ := reachable_represents reachable slot active
  obtain ⟨unavailable, _, untargeted⟩ := represents.flags (represents.mode_refueling.mp inside)
  exact ⟨active, inside, unavailable, untargeted, fuelled⟩

theorem fuel_bounds (reachable : Reachable secureServer state) (active : state.Active slot) :
    0 ≤ (state.drivers slot).fuel ∧ (state.drivers slot).fuel ≤ 10 := by
  obtain ⟨l, represents⟩ := reachable_represents reachable slot active
  rw [represents.fuel]
  exact ⟨l.fuel_nonneg, l.fuel_le⟩

/-- The pass that puts a driver into the station gives it its first fuel. -/
theorem stationed_of_entered {before entered : SharedState}
    (reachable : Reachable secureServer before)
    (tick : secureServer.step before .monitorTick entered)
    (outside : (before.drivers slot).isRefueling = false)
    (inside : (entered.drivers slot).isRefueling = true) :
    Stationed (entered.drivers slot) := by
  have after := reachable.snoc tick
  have section_ : CriticalSection before .monitorTick entered := tick
  cases criticalSection_record (reachable_wellFormed reachable) section_ slot with
  | kept _ record _ =>
      rw [record, outside] at inside
      cases inside
  | assigned _ _ request _ _ _ _ => cases request
  | ticked draws _ record was _ =>
      have nonneg := (fuel_bounds reachable was).1
      rw [record] at inside
      have fuelled := fuel_tickDriver_pos nonneg inside
      rw [← record] at inside fuelled
      exact (stationed_of_reachable after inside fuelled).2
  | joined _ join _ _ _ => cases join

/-- One step keeps a driver in the station until its tank is full, unless a pass
finds it inside a wall. -/
theorem Stationed.step (reachable : Reachable secureServer state)
    (stationed : Stationed (state.drivers slot)) (step : secureServer.step state event next)
    (unfilled : Unfilled slot state) (passes : PassesOnFreeCell slot state event) :
    Stationed (next.drivers slot) := by
  have after := reachable.snoc step
  cases criticalSection_record (reachable_wellFormed reachable) step slot with
  | kept _ record _ =>
      rw [record]
      exact stationed
  | assigned _ _ _ _ _ _ able =>
      rw [eligible, stationed.unavailable] at able
      cases able
  | ticked draws tick record was _ =>
      have bounds := fuel_bounds reachable was
      have low : (state.drivers slot).fuel < 10 := lt_of_le_of_ne bounds.2 unfilled
      have inside : (next.drivers slot).isRefueling = true := by
        rw [record]
        exact stationed.stays (passes tick) low
      have fuelled : 0 < (next.drivers slot).fuel := by
        rw [record] at inside ⊢
        exact fuel_tickDriver_pos bounds.1 inside
      exact (stationed_of_reachable after inside fuelled).2
  | joined _ _ _ was _ =>
      exact absurd (stationed_of_reachable reachable stationed.inside stationed.fuelled).1 was

/-- From the pass that puts a driver into refuelling on, it is unavailable and
untargeted at every release until one at which its fuel is 10, as long as no pass
finds it inside a wall or outside the map; and a pass that does makes it
available with the fuel that it has. -/
theorem refueling_until_full {before entered : SharedState}
    (reachable : Reachable secureServer before)
    (tick : secureServer.step before .monitorTick entered)
    (outside : (before.drivers slot).isRefueling = false)
    (inside : (entered.drivers slot).isRefueling = true)
    (path : Leads (secureServer.restrict fun state event =>
      Unfilled slot state ∧ PassesOnFreeCell slot state event) entered trace state)
    (unfilled : Unfilled slot state) :
    (state.drivers slot).isAvailable = false ∧ (state.drivers slot).hasTarget = false ∧
      ∀ next, secureServer.step state .monitorTick next →
        ¬ PassesOnFreeCell slot state .monitorTick →
          (next.drivers slot).isAvailable = true ∧ Unfilled slot next := by
  have kept : Reachable secureServer state ∧ Stationed (state.drivers slot) := by
    apply path.invariant
      (P := fun state => Reachable secureServer state ∧ Stationed (state.drivers slot))
    · exact ⟨reachable.snoc tick, stationed_of_entered reachable tick outside inside⟩
    · rintro state event next ⟨reached, stationed⟩ ⟨step, low, passes⟩
      exact ⟨reached.snoc step, stationed.step reached step low passes⟩
  obtain ⟨reached, stationed⟩ := kept
  refine ⟨stationed.unavailable, stationed.untargeted, ?_⟩
  rintro next ⟨outcomes, pass⟩ disturbed
  have active := (stationed_of_reachable reached stationed.inside stationed.fuelled).1
  obtain ⟨_, record⟩ := mapMonitorTick_record (reachable_wellFormed reached) pass slot
  have wall : ¬ Free initMapObstacles (cellOf (state.drivers slot)) := fun free =>
    disturbed fun _ => free
  obtain ⟨available, fuel⟩ := tickDriver_of_wall wall stationed.fuelled
  rw [← record active] at available fuel
  exact ⟨available, by rwa [Unfilled, fuel]⟩

/-- A ride to the base itself, with fuel burnt on it. -/
def shortRide : List Stage :=
  [.ride 5 ⟨0, 0⟩, .tick { arriveAndStay with fuel := 0 }]

/-- Four short rides and the dispatch of a fifth ride. -/
def fifthRide (draws : TargetDraws) : List Stage :=
  shortRide ++ shortRide ++ shortRide ++ shortRide ++ [.ride 5 draws]

/-- A pass in which the driver arrives, burns fuel and does not move. -/
def lastPass (d : Driver) : Driver :=
  tickDriver initMapObstacles { arriveAndStay with fuel := 0 } d

/-- What the station shows after the fifth dispatch and after the pass that ends the
ride, with another reading of the record. -/
def fifthRideReadings {ρ : Type} (draws : TargetDraws) (reading : Driver → ρ) :
    Option (Bool × Bool × ρ) :=
  (performAll (fifthRide draws) (initDriver 0 ⟨0, 0, 0⟩ Driver.zeroed)).map fun d =>
    (d.isRefueling, (lastPass d).isRefueling, reading d)

/-- The fifth ride ends at the filling station. -/
theorem fifthRide_entered {ρ : Type} {draws : TargetDraws} {reading : Driver → ρ} {value : ρ}
    (shown : fifthRideReadings draws reading = some (false, true, value)) :
    ∃ d before entered, Reachable secureServer before ∧
      secureServer.step before .monitorTick entered ∧
      (before.drivers 0).isRefueling = false ∧ (entered.drivers 0).isRefueling = true ∧
      Sole (lastPass d) entered ∧ reading d = value := by
  obtain ⟨d, ride, values⟩ := Option.map_eq_some_iff.mp shown
  obtain ⟨outside, rest⟩ := Prod.mk.inj values
  obtain ⟨inside, others⟩ := Prod.mk.inj rest
  obtain ⟨before, path, sole⟩ := baseDriver_sole.leads ride
  have run := (Run.start baseDriver_initial).append path
  obtain ⟨entered, tick, after⟩ := sole.tick { arriveAndStay with fuel := 0 }
  refine ⟨d, before, entered, run.reachable, ⟨_, tick⟩, ?_, ?_, after, others⟩
  · rw [sole.record]
    exact outside
  · rw [after.record]
    exact inside

/-- Passes one after the other, each of which finds the driver on a free cell and its
tank not full. -/
theorem passes_lead {d : Driver} {entered : SharedState} (sole : Sole d entered) {n : Nat}
    (filling : ∀ k < n, Free initMapObstacles (cellOf (lastPass^[k] d)) ∧
      (lastPass^[k] d).fuel ≠ 10) :
    ∃ state, Leads (secureServer.restrict fun state event =>
        Unfilled 0 state ∧ PassesOnFreeCell 0 state event) entered
        (List.replicate n .monitorTick) state ∧ Sole (lastPass^[n] d) state := by
  induction n with
  | zero => exact ⟨entered, Leads.refl, sole⟩
  | succ n ih =>
      obtain ⟨state, path, current⟩ := ih fun k less => filling k (Nat.lt_succ_of_lt less)
      obtain ⟨free, low⟩ := filling n (Nat.lt_succ_self n)
      obtain ⟨next, pass, after⟩ := current.tick { arriveAndStay with fuel := 0 }
      rw [← current.record] at free low
      have step : (secureServer.restrict fun state event =>
          Unfilled 0 state ∧ PassesOnFreeCell 0 state event).step state .monitorTick next :=
        ⟨⟨_, pass⟩, low, fun _ => free⟩
      refine ⟨next, ?_, ?_⟩
      · rw [List.replicate_succ']
        exact path.snoc step
      · rw [Function.iterate_succ_apply']
        exact after

/-- Three passes that fill the tank up to eight units, and a fourth. -/
def fills (d : Driver) : Bool :=
  ((List.range 3).all fun k =>
    decide (Free initMapObstacles (cellOf (lastPass^[k] d))) &&
      decide ((lastPass^[k] d).fuel ≠ 10)) &&
    decide ((lastPass^[3] d).fuel = 8) && decide ((lastPass (lastPass^[3] d)).fuel = 10)

/-- A driver that ran dry on the base refuels there in five passes, the first of which
is the one that puts it into the station. -/
theorem refueling_until_full_base :
    ∃ entered state full, Reachable secureServer entered ∧
      Leads (secureServer.restrict fun state event =>
        Unfilled 0 state ∧ PassesOnFreeCell 0 state event) entered
        [.monitorTick, .monitorTick, .monitorTick] state ∧
      (state.drivers 0).fuel = 8 ∧ (state.drivers 0).isAvailable = false ∧
      (state.drivers 0).hasTarget = false ∧
      secureServer.step state .monitorTick full ∧ (full.drivers 0).fuel = 10 := by
  have shown : fifthRideReadings ⟨0, 0⟩ (fun d => fills (lastPass d)) =
      some (false, true, true) := by decide +kernel
  obtain ⟨d, before, entered, reachable, tick, outside, inside, sole, readings⟩ :=
    fifthRide_entered shown
  simp only [fills, Bool.and_eq_true, decide_eq_true_iff, List.all_eq_true,
    List.mem_range] at readings
  obtain ⟨⟨filling, eight⟩, ten⟩ := readings
  obtain ⟨state, path, current⟩ := passes_lead sole filling
  obtain ⟨full, pass, after⟩ := current.tick { arriveAndStay with fuel := 0 }
  have fuel : (state.drivers 0).fuel = 8 := by
    rw [current.record]
    exact eight
  have unfilled : Unfilled 0 state := by
    rw [Unfilled, fuel]
    decide
  have kept := refueling_until_full reachable tick outside inside path unfilled
  refine ⟨entered, state, full, reachable.snoc tick, path, fuel, kept.1, kept.2.1, ⟨_, pass⟩, ?_⟩
  rw [after.record]
  exact ten

/-- A driver that ran dry in the wall of the building leaves the station with two
units of fuel. -/
theorem refueling_until_full_building :
    ¬ ∀ (slot : Fin maxDrivers) (before entered : SharedState) (trace : List Event)
      (state : SharedState), Reachable secureServer before →
        secureServer.step before .monitorTick entered →
        (before.drivers slot).isRefueling = false → (entered.drivers slot).isRefueling = true →
        Leads (secureServer.restrict fun state _ => Unfilled slot state) entered trace state →
        Unfilled slot state →
          (state.drivers slot).isAvailable = false ∧ (state.drivers slot).hasTarget = false := by
  intro always
  have shown : fifthRideReadings ⟨20, 30⟩ (fun d =>
      ((lastPass (lastPass d)).isAvailable, (lastPass d).fuel, (lastPass (lastPass d)).fuel)) =
      some (false, true, true, 2, 2) := by decide +kernel
  obtain ⟨d, before, entered, reachable, tick, outside, inside, sole, values⟩ :=
    fifthRide_entered shown
  obtain ⟨available, tanks⟩ := Prod.mk.inj values
  obtain ⟨first, second⟩ := Prod.mk.inj tanks
  obtain ⟨next, pass, after⟩ := sole.tick { arriveAndStay with fuel := 0 }
  have unfilled : Unfilled 0 entered := by
    rw [Unfilled, sole.record, first]
    decide
  have later : Unfilled 0 next := by
    rw [Unfilled, after.record]
    exact second.trans_ne (by decide)
  have step : (secureServer.restrict fun state _ => Unfilled 0 state).step entered .monitorTick
      next := ⟨⟨_, pass⟩, unfilled⟩
  have kept := always 0 before entered _ next reachable tick outside inside
    (Leads.snoc Leads.refl step) later
  rw [after.record] at kept
  exact absurd (available.symm.trans kept.1) (by decide)

end RideHailing.Fleet
