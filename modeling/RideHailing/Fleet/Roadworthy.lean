import RideHailing.Fleet.System
import RideHailing.Server.Persistence

/-!
# What every record keeps through restarts

A load makes every active driver available, so the modes are no longer exclusive.
The fuel still lies in the tank, and a refuelling driver still has an even amount
of it and no target; a driver is still in some mode, which a shutdown in the middle
of a dispatch or a join breaks and the load restores.
-/

namespace RideHailing.Fleet

open RideHailing.Common
open RideHailing.Server

variable {d : Driver}

/-- The fuel lies in the tank; a refuelling driver has an even amount and no
target. -/
structure Fuelled (d : Driver) : Prop where
  nonneg : 0 ≤ d.fuel
  le : d.fuel ≤ 10
  even : d.isRefueling = true → Even d.fuel
  untargeted : d.isRefueling = true → d.hasTarget = false

/-- A driver is in at least one mode. -/
def InSomeMode (d : Driver) : Prop :=
  d.isAvailable = true ∨ d.isRefueling = true ∨ d.hasTarget = true

theorem Fuelled.of_outside (nonneg : 0 ≤ d.fuel) (le : d.fuel ≤ 10)
    (outside : d.isRefueling = false) : Fuelled d := by
  refine ⟨nonneg, le, ?_, ?_⟩
  · intro refueling
    rw [outside] at refueling
    cases refueling
  · intro refueling
    rw [outside] at refueling
    cases refueling

/-- A targeted driver is outside the station. -/
theorem Fuelled.outside (fuelled : Fuelled d) (targeted : d.hasTarget = true) :
    d.isRefueling = false := by
  cases refueling : d.isRefueling with
  | false => rfl
  | true =>
      have untargeted := fuelled.untargeted refueling
      rw [targeted] at untargeted
      cases untargeted

theorem Fuelled.respawn (fuelled : Fuelled d) (grid : GridMap) (gx gy : Int) :
    Fuelled (respawn grid gx gy d) := by
  rw [Server.respawn]
  split
  · exact .of_outside fuelled.nonneg fuelled.le rfl
  · exact fuelled

theorem Fuelled.navigate (fuelled : Fuelled d) (draws : TickDraws) :
    Fuelled (navigate draws d) := by
  rw [Server.navigate]
  split
  next targeted =>
    obtain ⟨lat, lon, isAvailable, isRefueling, hasTarget, arrived⟩ := arrive_frame draws d
    have outside : (arrive draws d).isRefueling = false := by
      rw [arrive]
      split
      · rfl
      · exact fuelled.outside targeted
    have fuel : (arrive draws d).fuel = d.fuel := by rw [arrived]
    have nonneg := fuelled.nonneg
    have le := fuelled.le
    rw [burnFuel]
    split
    next burns =>
      refine .of_outside ?_ ?_ outside
      · simp only
        omega
      · simp only
        omega
    next =>
      refine .of_outside ?_ ?_ outside
      · omega
      · omega
  next => exact fuelled

theorem Fuelled.startRefueling (fuelled : Fuelled d) : Fuelled (startRefueling d) := by
  rw [Server.startRefueling]
  split
  next dry =>
    refine ⟨fuelled.nonneg, fuelled.le, fun _ => ?_, fun _ => rfl⟩
    have empty : d.fuel = 0 := Int.le_antisymm dry.2.1 fuelled.nonneg
    simp only [empty]
    exact Even.zero
  next => exact fuelled

theorem Fuelled.refuel (fuelled : Fuelled d) : Fuelled (refuel d) := by
  rw [Server.refuel]
  split
  next inside =>
    split
    next room =>
      obtain ⟨half, fuel_eq⟩ := fuelled.even inside
      have nonneg := fuelled.nonneg
      refine ⟨?_, ?_, fun _ => (fuelled.even inside).add even_two, fuelled.untargeted⟩
      · simp only
        omega
      · simp only
        omega
    next => exact .of_outside fuelled.nonneg fuelled.le rfl
  next => exact fuelled

theorem Fuelled.failsafe (fuelled : Fuelled d) : Fuelled (failsafe d) := by
  rw [Server.failsafe]
  split
  · exact ⟨fuelled.nonneg, fuelled.le, fuelled.even, fuelled.untargeted⟩
  · exact fuelled

theorem inSomeMode_failsafe (d : Driver) : InSomeMode (failsafe d) := by
  rw [failsafe]
  split
  · exact Or.inl rfl
  next some_ =>
    by_contra none_
    rw [InSomeMode, not_or, not_or] at none_
    exact some_ none_

theorem Fuelled.move (fuelled : Fuelled d) (grid : GridMap) (draws : TickDraws) (gx gy : Int) :
    Fuelled (move grid draws gx gy d) := by
  rw [Server.move]
  split
  next travelling =>
    rw [followPath]
    split
    · exact ⟨fuelled.nonneg, fuelled.le, fuelled.even, fun _ => rfl⟩
    · exact ⟨fuelled.nonneg, fuelled.le, fuelled.even, fuelled.untargeted⟩
  next =>
    split
    · rw [randomWalk]
      split
      · exact fuelled
      · exact ⟨fuelled.nonneg, fuelled.le, fuelled.even, fuelled.untargeted⟩
    · exact fuelled

theorem InSomeMode.move (mode : InSomeMode d) (grid : GridMap) (draws : TickDraws)
    (gx gy : Int) : InSomeMode (move grid draws gx gy d) := by
  rw [Server.move]
  split
  · rw [followPath]
    split
    · exact Or.inl rfl
    · exact mode
  · split
    · rw [randomWalk]
      split
      · exact mode
      · exact mode
    · exact mode

/-- What every record keeps. -/
structure Roadworthy (d : Driver) : Prop extends Fuelled d where
  mode : InSomeMode d

theorem Roadworthy.tick (roadworthy : Roadworthy d) (grid : GridMap) (draws : TickDraws) :
    Roadworthy (tickDriver grid draws d) := by
  rw [tickDriver]
  have managed := (((roadworthy.toFuelled.respawn grid (gridCoordinate baseLon d.lon)
    (gridCoordinate baseLat d.lat)).navigate draws).startRefueling).refuel
  exact ⟨managed.failsafe.move grid draws _ _, (inSomeMode_failsafe _).move grid draws _ _⟩

theorem Roadworthy.assign (roadworthy : Roadworthy d) (able : eligible d) (draws : TargetDraws) :
    Roadworthy (assignRide draws d) := by
  simp only [eligible, Bool.and_eq_true, decide_eq_true_iff] at able
  obtain ⟨⟨_, outside⟩, fuelled⟩ := able
  have le := roadworthy.le
  refine ⟨.of_outside ?_ ?_ ?_, Or.inr (Or.inr rfl)⟩
  · simp only [assignRide]
    omega
  · simp only [assignRide]
    omega
  · simpa [assignRide] using outside

/-- The load puts every driver in a mode. -/
theorem Fuelled.resume (fuelled : Fuelled d) : Roadworthy (resumeDriver d) :=
  ⟨⟨fuelled.nonneg, fuelled.le, fuelled.even, fuelled.untargeted⟩, Or.inl rfl⟩

theorem roadworthy_new (driverId : UInt32) (lat lon : ℚ) :
    Roadworthy { Driver.zeroed with driverId, lat, lon, isAvailable := true, fuel := 10 } :=
  ⟨.of_outside (by simp) (by simp) rfl, Or.inl rfl⟩

end RideHailing.Fleet
