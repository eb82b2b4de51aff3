import RideHailing.Fleet.System
import RideHailing.Server.Selection

/-!
# A fleet of one driver

As long as a table has a single active driver, every dispatch goes to it and the
server is as good as that driver's record.  A plan of rides and passes for the
record is then a run of the server.
-/

namespace RideHailing.Fleet

open RideHailing.Common
open RideHailing.Server
open RideHailing.Transition

variable {d : Driver} {state : SharedState} {slot : Fin maxDrivers}

/-- The only active driver has the given record. -/
structure Sole (d : Driver) (state : SharedState) : Prop where
  count : state.driverCount = 1
  record : state.drivers 0 = d

theorem Sole.active (sole : Sole d state) : state.Active 0 := by
  rw [SharedState.Active, sole.count]
  decide

theorem Sole.eq_zero (sole : Sole d state) (active : state.Active slot) : slot = 0 := by
  rw [SharedState.Active, sole.count] at active
  apply Fin.ext
  have zero : ((0 : Fin maxDrivers) : Nat) = 0 := rfl
  omega

theorem Sole.fits (sole : Sole d state) : state.driverCount ≤ maxDrivers := by
  rw [sole.count]
  decide

theorem dispatchTo_self (slot : Fin maxDrivers) (isVip : Bool) (draws : TargetDraws)
    (state : SharedState) :
    (dispatchTo slot isVip draws state).drivers slot = assignRide draws (state.drivers slot) :=
  Function.update_self _ _ _

/-- A request takes the only driver whenever it takes one. -/
theorem Sole.ride (sole : Sole d state) (able : eligible d = true)
    (near : baseDistance d < 1000000 ^ 2) (clientId : Int) (draws : TargetDraws) :
    ∃ next, rideCriticalSection clientId draws state = some (next, some (0, baseDistance d)) ∧
      Sole (assignRide draws d) next := by
  have selectable : Selectable state 0 := by
    refine ⟨⟨sole.active, ?_⟩, ?_⟩
    · rw [sole.record]
      exact able
    · rw [slotDistance, sole.record]
      exact near
  obtain ⟨slot, selected⟩ := (selectDriver_found_iff (isVipClient clientId) sole.fits).mpr
    ⟨0, selectable⟩
  have only : slot = 0 := sole.eq_zero (selectDriver_sound selected).1
  subst only
  refine ⟨dispatchTo 0 (isVipClient clientId) draws state, ?_, sole.count, ?_⟩
  · rw [rideCriticalSection_eq, selected, ← sole.record]
    rfl
  · rw [dispatchTo_self, sole.record]

/-- A pass over the table is a pass over the only driver. -/
theorem Sole.tick (sole : Sole d state) (draws : TickDraws) :
    ∃ next, mapMonitorTick initMapObstacles (fun _ => draws) state = some next ∧
      Sole (tickDriver initMapObstacles draws d) next := by
  refine ⟨_, SharedState.forDrivers_eq_some _ sole.fits, sole.count, ?_⟩
  simp only
  rw [if_pos sole.active, sole.record]

/-- One entry of a plan. -/
inductive Stage
  | ride (clientId : Int) (draws : TargetDraws)
  | tick (draws : TickDraws)

/-- What an entry makes of the record; a ride needs an eligible driver. -/
def Stage.perform (d : Driver) : Stage → Option Driver
  | .ride _ draws =>
      if eligible d = true ∧ baseDistance d < 1000000 ^ 2 then some (assignRide draws d) else none
  | .tick draws => some (tickDriver initMapObstacles draws d)

def Stage.event : Stage → Event
  | .ride clientId _ => .rideRequest clientId (some 0)
  | .tick _ => .monitorTick

/-- What a plan makes of the record. -/
def performAll : List Stage → Driver → Option Driver
  | [], d => some d
  | stage :: stages, d => (stage.perform d).bind (performAll stages)

theorem Sole.perform {stage : Stage} {after : Driver} (sole : Sole d state)
    (performed : stage.perform d = some after) :
    ∃ next, CriticalSection state stage.event next ∧ Sole after next := by
  cases stage with
  | ride clientId draws =>
      rw [Stage.perform] at performed
      split at performed
      next able =>
        cases performed
        obtain ⟨next, section_, after⟩ := sole.ride able.1 able.2 clientId draws
        exact ⟨next, ⟨draws, _, section_, rfl⟩, after⟩
      next => cases performed
  | tick draws =>
      cases performed
      obtain ⟨next, pass, after⟩ := sole.tick draws
      exact ⟨next, ⟨_, pass⟩, after⟩

/-- A plan that the record can follow is a path of the server. -/
theorem Sole.leads {stages : List Stage} {last : Driver} (sole : Sole d state)
    (performed : performAll stages d = some last) :
    ∃ final, Leads secureServer state (stages.map Stage.event) final ∧ Sole last final := by
  induction stages generalizing d state with
  | nil =>
      cases performed
      exact ⟨state, Leads.refl, sole⟩
  | cons stage stages ih =>
      obtain ⟨middle, first, rest⟩ := Option.bind_eq_some_iff.mp performed
      obtain ⟨next, step, after⟩ := sole.perform first
      obtain ⟨final, path, ends⟩ := ih after rest
      have single : Leads secureServer state [stage.event] next := Leads.snoc Leads.refl step
      exact ⟨final, single.append path, ends⟩

end RideHailing.Fleet
