import Mathlib.Dynamics.PeriodicPts.Defs
import RideHailing.Fleet.Cells

/-!
# Which rides are sure to end

Without the chance that ends one ride in five, a driver follows the path cells
until it is near its target.  The cells lead to the target, or back and forth
between two of them; whatever the rest of the server does, the ride is sure to
end exactly when the way comes near.
-/

namespace RideHailing.Fleet

open RideHailing.Common
open RideHailing.Server
open RideHailing.Transition

variable {d e : Driver} {grid : GridMap} {cell target : Point} {draws : TickDraws}
  {trace events : List Event} {state next final : SharedState} {event : Event}
  {slot : Fin maxDrivers} {count : Nat}

/-! ## The cells of a way -/

/-- The distance to the target, in which rows count twice. -/
def wayLeft (target cell : Point) : Nat :=
  (cell.x - target.x).natAbs + 2 * (cell.y - target.y).natAbs

theorem wayLeft_closer {direction : Fin 4} (closer : Closer cell target direction) :
    wayLeft target (neighbour cell direction) < wayLeft target cell := by
  match direction with
  | 0 => simp only [Closer, wayLeft, neighbour_up] at closer ⊢; omega
  | 1 => simp only [Closer, wayLeft, neighbour_down] at closer ⊢; omega
  | 2 => simp only [Closer, wayLeft, neighbour_left] at closer ⊢; omega
  | 3 => simp only [Closer, wayLeft, neighbour_right] at closer ⊢; omega

/-- A step to the side and a row closer gain something together. -/
theorem wayLeft_aside {sideways row : Fin 4} (column : 2 ≤ sideways) (isRow : row < 2)
    (closer : Closer (neighbour cell sideways) target row) :
    wayLeft target (neighbour (neighbour cell sideways) row) < wayLeft target cell := by
  match sideways, row with
  | 2, 0 => simp only [Closer, wayLeft, neighbour_left, neighbour_up] at closer ⊢; omega
  | 2, 1 => simp only [Closer, wayLeft, neighbour_left, neighbour_down] at closer ⊢; omega
  | 3, 0 => simp only [Closer, wayLeft, neighbour_right, neighbour_up] at closer ⊢; omega
  | 3, 1 => simp only [Closer, wayLeft, neighbour_right, neighbour_down] at closer ⊢; omega

theorem wayLeft_le (inside : cell.Inside) (goal : target.Inside) : wayLeft target cell ≤ 77 := by
  obtain ⟨left, right, lower, upper⟩ := inside
  obtain ⟨left', right', lower', upper'⟩ := goal
  have width : (mapWidth : Int) = 40 := rfl
  have height : (mapHeight : Int) = 20 := rfl
  rw [wayLeft]
  omega

/-- Every way soon goes back and forth between two cells, or stays on one. -/
theorem exists_returns (free : Free grid cell) (goal : target.Inside) :
    ∃ n ≤ 2 * wayLeft target cell,
      (nextCell grid target)^[n + 2] cell = (nextCell grid target)^[n] cell := by
  induction size : wayLeft target cell using Nat.strong_induction_on generalizing cell with
  | _ size ih =>
      by_cases arrived : cell = target
      · subst arrived
        refine ⟨0, Nat.zero_le _, ?_⟩
        rw [Function.iterate_succ_apply, Function.iterate_succ_apply, nextCell_target goal,
          nextCell_target goal]
      · cases advance free goal arrived with
        | enclosed stays _ =>
            refine ⟨0, Nat.zero_le _, ?_⟩
            rw [Function.iterate_succ_apply, Function.iterate_succ_apply, stays, stays]
        | back returns => exact ⟨0, Nat.zero_le _, returns⟩
        | @closer direction taken =>
            have less := wayLeft_closer taken.closer
            obtain ⟨n, small, returns⟩ := ih _ (size ▸ less) taken.free rfl
            refine ⟨n + 1, by omega, ?_⟩
            have first := taken.next free.inside goal
            rw [Nat.add_right_comm, Function.iterate_succ_apply _ (n + 2),
              Function.iterate_succ_apply _ n, first]
            exact returns
        | @aside sideways row taken column isRow turned =>
            have less := wayLeft_aside column isRow turned.closer
            have arrives : (neighbour cell sideways).Inside := Free.inside taken.free
            obtain ⟨n, small, returns⟩ := ih _ (size ▸ less) turned.free rfl
            refine ⟨n + 2, by omega, ?_⟩
            have both : (nextCell grid target)^[2] cell =
                neighbour (neighbour cell sideways) row := by
              rw [Function.iterate_succ_apply, Function.iterate_succ_apply,
                taken.next free.inside goal arrived, turned.next arrives goal]
              rfl
            rw [Function.iterate_add_apply _ (n + 2) 2 cell,
              Function.iterate_add_apply _ n 2 cell, both]
            exact returns

/-! ## The way of a driver -/

/-- The distance test of the arrival branch. -/
def Near (d : Driver) : Prop :=
  distanceSq d.lat d.lon d.targetLat d.targetLon < 0.01 ^ 2

instance (d : Driver) : Decidable (Near d) :=
  inferInstanceAs (Decidable (_ < _))

/-- The driver on a cell. -/
def placeOn (d : Driver) (cell : Point) : Driver :=
  { d with lat := cell.lat, lon := cell.lon }

/-- One path step of the monitor on its map. -/
def pathStep (d : Driver) : Driver :=
  placeOn d (getNextStepAstar initMapObstacles d.lat d.lon d.targetLat d.targetLon)

/-- The way leads near the target. -/
def ComesNear (d : Driver) : Prop :=
  ∃ k, Near (pathStep^[k] d)

theorem pathStep_fuel (d : Driver) (fuel : Int) :
    pathStep { d with fuel } = { pathStep d with fuel } :=
  rfl

theorem near_fuel {fuel : Int} : Near { d with fuel } ↔ Near d :=
  Iff.rfl

theorem TargetOnMap.goal (onMap : TargetOnMap d) : (targetCell d).Inside := by
  rw [targetCell, ← onMap.inside]
  exact clampedCell_inside _ _

/-- A path step looks at the cells only. -/
theorem pathStep_eq (onMap : TargetOnMap d) (inside : (cellOf d).Inside) :
    pathStep d = placeOn d (nextCell initMapObstacles (targetCell d) (cellOf d)) := by
  have start := clampedCell_position inside
  have goal : clampedCell d.targetLat d.targetLon = targetCell d := onMap.inside
  rw [pathStep, nextCell, getNextStepAstar_eq, getNextStepAstar_eq, start, goal,
    clampedCell_cell inside, clampedCell_cell onMap.goal]

theorem cellOf_placeOn (d : Driver) (cell : Point) : cellOf (placeOn d cell) = cell :=
  Point.ext (gridCoordinate_cell _ _) (gridCoordinate_cell _ _)

/-- A step ends on the map wherever it starts. -/
theorem nextCell_inside (grid : GridMap) (target cell : Point) :
    (nextCell grid target cell).Inside := by
  by_cases same : clampedCell cell.lat cell.lon = clampedCell target.lat target.lon
  · rw [nextCell, getNextStepAstar_eq, if_pos same]
    exact clampedCell_inside _ _
  · rcases getNextStepAstar_step grid same with ⟨stays, _⟩ | ⟨direction, moved, first⟩
    · rw [nextCell, stays]
      exact clampedCell_inside _ _
    · rw [nextCell, moved]
      exact first.among.inside

/-- The way follows the cells. -/
theorem iterate_pathStep (onMap : TargetOnMap d) (inside : (cellOf d).Inside) (k : Nat) :
    pathStep^[k + 1] d =
      placeOn d ((nextCell initMapObstacles (targetCell d))^[k + 1] (cellOf d)) := by
  induction k with
  | zero => exact pathStep_eq onMap inside
  | succ k ih =>
      rw [Function.iterate_succ_apply' _ (k + 1), Function.iterate_succ_apply' _ (k + 1), ih]
      generalize cell_eq : (nextCell initMapObstacles (targetCell d))^[k + 1] (cellOf d) = cell
      have within : cell.Inside := by
        rw [← cell_eq, Function.iterate_succ_apply']
        exact nextCell_inside _ _ _
      have onMap' : TargetOnMap (placeOn d cell) :=
        ⟨onMap.south, onMap.north, onMap.west, onMap.east⟩
      rw [pathStep_eq onMap' (by rwa [cellOf_placeOn]), cellOf_placeOn]
      rfl

/-- From some early step on, the way goes back and forth. -/
theorem exists_pathStep_returns (onMap : TargetOnMap d)
    (free : Free initMapObstacles (cellOf d)) :
    ∃ k ≤ 155, pathStep^[k + 2] d = pathStep^[k] d := by
  obtain ⟨n, small, returns⟩ := exists_returns free onMap.goal
  have short := wayLeft_le free.inside onMap.goal
  refine ⟨n + 1, by omega, ?_⟩
  rw [iterate_pathStep onMap free.inside, iterate_pathStep onMap free.inside]
  rw [Function.iterate_succ_apply' _ (n + 2), returns, Function.iterate_succ_apply' _ n]

/-- A way that goes back and forth has been near before, if ever. -/
theorem ComesNear.within (comes : ComesNear d) {n : Nat}
    (returns : pathStep^[n + 2] d = pathStep^[n] d) : ∃ k < n + 2, Near (pathStep^[k] d) := by
  obtain ⟨k, near⟩ := comes
  by_cases before : k ≤ n
  · exact ⟨k, by omega, near⟩
  · have periodic : Function.IsPeriodicPt pathStep 2 (pathStep^[n] d) := by
      rw [Function.IsPeriodicPt, Function.IsFixedPt, ← Function.iterate_add_apply, Nat.add_comm]
      exact returns
    have sum : k - n + n = k := by omega
    have same := periodic.iterate_mod_apply (k - n)
    rw [← Function.iterate_add_apply, ← Function.iterate_add_apply, sum] at same
    have remainder := Nat.mod_lt (k - n) (by decide : 0 < 2)
    exact ⟨(k - n) % 2 + n, by omega, same ▸ near⟩

/-- A way that comes near does so early. -/
theorem ComesNear.early (comes : ComesNear d) (onMap : TargetOnMap d)
    (free : Free initMapObstacles (cellOf d)) : ∃ k ≤ 156, Near (pathStep^[k] d) := by
  obtain ⟨n, small, returns⟩ := exists_pathStep_returns onMap free
  obtain ⟨k, soon, near⟩ := comes.within returns
  exact ⟨k, by omega, near⟩

/-- Where the steps of the search lead to the target, the way comes near. -/
theorem ComesNear.of_staircase (onMap : TargetOnMap d) (free : Free initMapObstacles (cellOf d))
    (way : Staircase initMapObstacles (targetCell d) (cellOf d)) : ComesNear d := by
  obtain ⟨n, reaches⟩ := way.reaches onMap.goal free
  refine ⟨n + 1, ?_⟩
  have there : pathStep^[n + 1] d = placeOn d (targetCell d) := by
    rw [iterate_pathStep onMap free.inside, Function.iterate_succ_apply', reaches,
      nextCell_target onMap.goal]
  have onMap' : TargetOnMap (placeOn d (targetCell d)) :=
    ⟨onMap.south, onMap.north, onMap.west, onMap.east⟩
  rw [there]
  apply distanceSq_lt_of_cell onMap'
  · rw [cellOf_placeOn]
    exact onMap.goal
  · rw [clampedCell_position (by rw [cellOf_placeOn]; exact onMap.goal), cellOf_placeOn]
    exact onMap'.inside.symm

/-! ## A ride in progress -/

theorem arrives_of_near (near : Near d) (draws : TickDraws) : Arrives draws d :=
  Or.inl near

/-- Without an arrival, a pass is a step of the way. -/
theorem Underway.tickDriver_pathStep (underway : Underway initMapObstacles d)
    (travels : ¬ Arrives draws d) :
    ∃ fuel, tickDriver initMapObstacles draws d = { pathStep d with fuel } := by
  obtain ⟨fuel, step⟩ := underway.tickDriver_eq travels
  obtain ⟨_, moves⟩ := underway.nextStep travels
  refine ⟨fuel, ?_⟩
  rw [step, followPath]
  simp only
  rw [if_neg fun same => moves (Point.ext same.1 same.2)]
  rfl

/-- A ride after a number of passes: still on its way, where no chance has ended
it, or over since the last of them. -/
inductive Travelled (d : Driver) : Nat → Driver → Prop
  | underway (count : Nat) (e : Driver) (goes : Underway initMapObstacles e)
      (place : ∃ fuel, e = { pathStep^[count] d with fuel })
      (far : ∀ k < count, ¬ Near (pathStep^[k] d)) : Travelled d count e
  | ended (count : Nat) (e : Driver) (cleared : e.hasTarget = false)
      (far : ∀ k < count, ¬ Near (pathStep^[k] d)) : Travelled d (count + 1) e

/-- Once the way has come near, at most one more pass finds the ride in progress. -/
theorem Travelled.count_le (travelled : Travelled d count e) {k : Nat}
    (near : Near (pathStep^[k] d)) : count ≤ k + 1 := by
  cases travelled with
  | underway count e goes place far =>
      apply Nat.le_succ_of_le
      apply Nat.le_of_not_lt
      intro passed
      exact far k passed near
  | ended count e cleared far =>
      apply Nat.succ_le_succ
      apply Nat.le_of_not_lt
      intro passed
      exact far k passed near

/-- A pass over a ride in progress ends it or takes it one step on. -/
theorem Travelled.tick (travelled : Travelled d count e) (targeted : e.hasTarget = true)
    (draws : TickDraws) : Travelled d (count + 1) (tickDriver initMapObstacles draws e) := by
  cases travelled with
  | ended _ _ cleared _ =>
      rw [cleared] at targeted
      cases targeted
  | underway _ _ goes place far =>
      by_cases arrives : Arrives draws e
      · exact .ended count _ (goes.ends arrives) far
      · apply Travelled.underway _ _ (goes.continues arrives)
        · obtain ⟨fuel, rfl⟩ := place
          obtain ⟨left, step⟩ := goes.tickDriver_pathStep arrives
          refine ⟨left, ?_⟩
          rw [step, pathStep_fuel, Function.iterate_succ_apply']
        · intro k small
          rcases Nat.lt_succ_iff_lt_or_eq.mp small with earlier | rfl
          · exact far k earlier
          · obtain ⟨fuel, rfl⟩ := place
            exact fun near => arrives (arrives_of_near near draws)

/-! ## Whole runs -/

/-- A step that finds the driver on its ride. -/
def OnRide (slot : Fin maxDrivers) (state : SharedState) (_ : Event) : Prop :=
  (state.drivers slot).hasTarget = true

/-- Nothing but a pass touches a driver on a ride. -/
theorem Travelled.step (reachable : Reachable secureServer state) (active : state.Active slot)
    (travelled : Travelled d count (state.drivers slot)) (onRide : OnRide slot state event)
    (step : CriticalSection state event next) :
    next.Active slot ∧
      Travelled d (count + [event].count .monitorTick) (next.drivers slot) := by
  have wellFormed := reachable_wellFormed reachable
  by_cases tick : event = .monitorTick
  · subst tick
    obtain ⟨outcomes, pass⟩ := step
    obtain ⟨same, record⟩ := mapMonitorTick_record wellFormed pass slot
    rw [record active]
    exact ⟨same.mpr active, travelled.tick onRide (outcomes slot)⟩
  · rw [List.count_singleton, if_neg (by simpa using tick), Nat.add_zero]
    cases criticalSection_record wellFormed step slot with
    | kept _ record same =>
        rw [record]
        exact ⟨same.mpr active, travelled⟩
    | assigned clientId draws _ _ _ _ able =>
        obtain ⟨l, represents⟩ := reachable_represents reachable slot active
        have idle := able
        simp only [eligible, Bool.and_eq_true] at idle
        obtain ⟨_, _, untargeted⟩ := represents.flags (represents.mode_available.mp idle.1.1)
        rw [OnRide, untargeted] at onRide
        cases onRide
    | ticked _ isTick _ _ _ => exact absurd isTick tick
    | joined _ _ _ was _ => exact absurd active was

/-- However the server goes on while the ride does, it has travelled as many
steps as there were passes. -/
theorem travelled_of_leads (reachable : Reachable secureServer state)
    (active : state.Active slot) (goes : Underway initMapObstacles (state.drivers slot))
    (path : Leads (secureServer.restrict (OnRide slot)) state events final) :
    Reachable secureServer final ∧ final.Active slot ∧
      Travelled (state.drivers slot) (events.count .monitorTick) (final.drivers slot) := by
  induction path with
  | refl => exact ⟨reachable, active, .underway 0 _ goes ⟨_, rfl⟩ nofun⟩
  | snoc _ step ih =>
      obtain ⟨before, was, travelled⟩ := ih
      obtain ⟨still, further⟩ := travelled.step before was step.2 step.1
      rw [List.count_append]
      exact ⟨before.snoc step.1, still, further⟩

/-- Random outcomes with which no chance ends a ride. -/
def noChance : TickDraws where
  arrival := 99
  fuel := 99
  latStep := 1
  lonStep := 1

theorem near_of_arrives (arrives : Arrives noChance d) : Near d := by
  rcases arrives with near | chance
  · exact near
  · exact absurd chance (by decide)

/-- A way that never comes near can go on for any number of passes. -/
theorem leads_far (reachable : Reachable secureServer state) (active : state.Active slot)
    (goes : Underway initMapObstacles (state.drivers slot))
    (far : ¬ ComesNear (state.drivers slot)) (n : Nat) :
    ∃ final, Leads (secureServer.restrict (OnRide slot)) state
        (List.replicate n .monitorTick) final ∧
      Underway initMapObstacles (final.drivers slot) ∧
      ∃ fuel, final.drivers slot = { pathStep^[n] (state.drivers slot) with fuel } := by
  induction n with
  | zero => exact ⟨state, Leads.refl, goes, _, rfl⟩
  | succ n ih =>
      obtain ⟨middle, path, still, fuel, place⟩ := ih
      obtain ⟨before, was, _⟩ := travelled_of_leads reachable active goes path
      have travels : ¬ Arrives noChance (middle.drivers slot) := by
        intro arrives
        have near := near_of_arrives arrives
        rw [place, near_fuel] at near
        exact far ⟨n, near⟩
      obtain ⟨next, pass⟩ := (criticalSection_progress before).2.1 fun _ => noChance
      obtain ⟨_, record⟩ := mapMonitorTick_record (reachable_wellFormed before) pass slot
      obtain ⟨left, moved⟩ := still.tickDriver_pathStep travels
      refine ⟨next, ?_, ?_, left, ?_⟩
      · rw [List.replicate_succ']
        exact path.snoc ⟨⟨_, pass⟩, still.targeted⟩
      · rw [record was]
        exact still.continues travels
      · rw [record was, moved, place, pathStep_fuel, Function.iterate_succ_apply']

/-- The target of a ride lies on the map. -/
theorem reachable_targetOnMap (reachable : Reachable secureServer state) :
    ∀ slot, state.Active slot → (state.drivers slot).hasTarget = true →
      TargetOnMap (state.drivers slot) := by
  apply active_invariant (P := fun d => d.hasTarget = true → TargetOnMap d) _ _ _ _ reachable
  · intro i draws targeted
    cases targeted
  · intro draws d _ _ _
    exact assignRide_targetOnMap draws d
  · intro draws d onMap targeted
    have was : d.hasTarget = true := by
      cases before : d.hasTarget with
      | true => rfl
      | false =>
          rw [hasTarget_tickDriver before] at targeted
          cases targeted
    obtain ⟨_, _, _, _, _, _, frame⟩ := tickDriver_frame initMapObstacles draws d
    rw [frame]
    exact ⟨(onMap was).south, (onMap was).north, (onMap was).west, (onMap was).east⟩
  · intro driverId targeted
    cases targeted

/-- A ride in progress whose driver stands on the road. -/
theorem underway_of_reachable (reachable : Reachable secureServer state)
    (active : state.Active slot) (targeted : (state.drivers slot).hasTarget = true)
    (onRoad : Free initMapObstacles (cellOf (state.drivers slot))) :
    Underway initMapObstacles (state.drivers slot) := by
  obtain ⟨l, represents⟩ := reachable_represents reachable slot active
  obtain ⟨busy, outside, _⟩ := represents.flags (represents.mode_navigating.mp targeted)
  exact ⟨targeted, busy, outside, onRoad, reachable_targetOnMap reachable slot active targeted⟩

/-- A ride of a driver on the road can end with every pass, and is sure to end
after some number of them exactly when the way comes near the target; then it
ends within 157 passes, and so it does wherever the steps of the search lead to
the target.  Otherwise the driver can be kept going back and forth for ever. -/
theorem rides_end (run : Run secureServer trace state) (active : state.Active slot)
    (targeted : (state.drivers slot).hasTarget = true)
    (onRoad : Free initMapObstacles (cellOf (state.drivers slot))) :
    (∃ next, CriticalSection state .monitorTick next ∧
        (next.drivers slot).hasTarget = false) ∧
      ((∃ bound, ∀ events final,
          Leads (secureServer.restrict (OnRide slot)) state events final →
            events.count .monitorTick ≤ bound) ↔ ComesNear (state.drivers slot)) ∧
      (ComesNear (state.drivers slot) → ∀ events final,
        Leads (secureServer.restrict (OnRide slot)) state events final →
          events.count .monitorTick ≤ 157) ∧
      (Staircase initMapObstacles (targetCell (state.drivers slot))
          (cellOf (state.drivers slot)) → ComesNear (state.drivers slot)) ∧
      (¬ ComesNear (state.drivers slot) →
        (∃ k ≤ 155, pathStep^[k + 2] (state.drivers slot) = pathStep^[k] (state.drivers slot)) ∧
        ∀ n, ∃ final, Leads (secureServer.restrict (OnRide slot)) state
            (List.replicate n .monitorTick) final ∧
          ∃ fuel, final.drivers slot = { pathStep^[n] (state.drivers slot) with fuel }) := by
  have reachable := run.reachable
  have goes := underway_of_reachable reachable active targeted onRoad
  have soon : ComesNear (state.drivers slot) → ∀ events final,
      Leads (secureServer.restrict (OnRide slot)) state events final →
        events.count .monitorTick ≤ 157 := by
    intro comes events final path
    obtain ⟨k, small, near⟩ := comes.early goes.onMap onRoad
    have few := (travelled_of_leads reachable active goes path).2.2.count_le near
    omega
  refine ⟨?_, ⟨?_, fun comes => ⟨157, soon comes⟩⟩, soon,
    ComesNear.of_staircase goes.onMap onRoad, ?_⟩
  · obtain ⟨next, pass⟩ := (criticalSection_progress reachable).2.1 fun _ => arriveAndStay
    obtain ⟨_, record⟩ := mapMonitorTick_record (reachable_wellFormed reachable) pass slot
    refine ⟨next, ⟨_, pass⟩, ?_⟩
    rw [record active]
    exact goes.ends (Or.inr (by decide))
  · rintro ⟨bound, bounded⟩
    by_contra far
    obtain ⟨final, path, _⟩ := leads_far reachable active goes far (bound + 1)
    have few := bounded _ _ path
    rw [List.count_replicate_self] at few
    exact Nat.not_succ_le_self bound few
  · intro far
    refine ⟨exists_pathStep_returns goes.onMap onRoad, fun n => ?_⟩
    obtain ⟨final, path, _, fuel, place⟩ := leads_far reachable active goes far n
    exact ⟨final, path, fuel, place⟩

/-- A ride from the base to the east, past the first building. -/
def rideEast : SharedState :=
  dispatchTo 0 true ⟨20, 179⟩ baseDriver

theorem rideEast_run : Run secureServer [.rideRequest 5 (some 0)] rideEast := by
  have selected : selectDriver (isVipClient 5) baseDriver = some (some 0) := by
    decide +kernel
  apply Run.snoc (Run.start baseDriver_initial)
  refine ⟨⟨20, 179⟩, some (0, baseDistance (baseDriver.drivers 0)), ?_, rfl⟩
  rw [rideCriticalSection, selected]
  rfl

/-- In front of the building the driver goes up and down. -/
theorem rideEast_far : ¬ ComesNear (rideEast.drivers 0) := by
  intro comes
  have returns : pathStep^[8 + 2] (rideEast.drivers 0) = pathStep^[8] (rideEast.drivers 0) := by
    decide +kernel
  have far : ∀ k < 8 + 2, ¬ Near (pathStep^[k] (rideEast.drivers 0)) := by
    decide +kernel
  obtain ⟨k, small, near⟩ := comes.within returns
  exact far k small near

theorem rides_end_rideEast :
    (∃ next, CriticalSection rideEast .monitorTick next ∧
        (next.drivers 0).hasTarget = false) ∧
      ∀ n, ∃ final, Leads (secureServer.restrict (OnRide 0)) rideEast
          (List.replicate n .monitorTick) final ∧
        ∃ fuel, final.drivers 0 = { pathStep^[n] (rideEast.drivers 0) with fuel } := by
  have onRoad : Free initMapObstacles (cellOf (rideEast.drivers 0)) := by decide +kernel
  have ride := rides_end rideEast_run (by decide : rideEast.Active 0) rfl onRoad
  exact ⟨ride.1, (ride.2.2.2.2 rideEast_far).2⟩

end RideHailing.Fleet
