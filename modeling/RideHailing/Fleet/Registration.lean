import RideHailing.Fleet.System
import RideHailing.Server.Dispatcher

/-!
# Registration of drivers

A driver is registered under the identifier that its join carries.  The
acknowledgement of a join is sent in every case, also when the table is full,
and nothing compares the identifier with those in use; so it means what it says
exactly when there is room and the identifier is new, or when there is no room
and one driver has it already.
-/

namespace RideHailing.Fleet

open RideHailing.Bytes
open RideHailing.Common
open RideHailing.Server
open RideHailing.Transition

universe u

variable {trace : List Event} {state next : SharedState} {event : Event}
  {driverId : UInt32} {slot : Fin maxDrivers}

/-- An active driver with the given identifier. -/
def Carries (state : SharedState) (driverId : UInt32) (slot : Fin maxDrivers) : Prop :=
  state.Active slot ∧ (state.drivers slot).driverId = driverId

/-- No two active drivers have the same identifier. -/
def UniqueIds (state : SharedState) : Prop :=
  ∀ driverId first second, Carries state driverId first → Carries state driverId second →
    first = second

/-- The joins after which exactly one active driver has the identifier: there is
room and nobody has it yet, or there is no room and one driver has it. -/
def Registers (state : SharedState) (driverId : UInt32) : Prop :=
  (state.driverCount < maxDrivers ∧ ∀ slot, ¬ Carries state driverId slot) ∨
    ((maxDrivers : Int) ≤ state.driverCount ∧ ∃! slot, Carries state driverId slot)

/-- The condition on the joins of a run. -/
def JoinsRegister (state : SharedState) (event : Event) : Prop :=
  ∀ driverId, event = .driverJoin driverId → Registers state driverId

/-! ## Identifiers under one step -/

/-- No step changes who an active driver is. -/
theorem criticalSection_identity (wellFormed : WellFormed state)
    (step : CriticalSection state event next) (active : state.Active slot) :
    next.Active slot ∧ (next.drivers slot).driverId = (state.drivers slot).driverId ∧
      (next.drivers slot).rating = (state.drivers slot).rating := by
  cases criticalSection_record wellFormed step slot with
  | kept _ record same => exact ⟨same.mpr active, by rw [record], by rw [record]⟩
  | assigned _ draws _ record _ stays _ => exact ⟨stays, by rw [record]; rfl, by rw [record]; rfl⟩
  | ticked draws _ record _ stays =>
      have person := profile_tickDriver initMapObstacles draws (state.drivers slot)
      rw [← record] at person
      exact ⟨stays, congrArg Prod.fst person, congrArg (fun who => who.2.1) person⟩
  | joined _ _ _ was _ => exact absurd active was

/-- Only a join adds drivers. -/
theorem carries_other (wellFormed : WellFormed state) (step : CriticalSection state event next)
    (other : ∀ driverId, event ≠ .driverJoin driverId) :
    Carries next driverId slot ↔ Carries state driverId slot := by
  have activity : next.Active slot ↔ state.Active slot := by
    cases criticalSection_record wellFormed step slot with
    | kept _ _ same => exact same
    | assigned _ _ _ _ was stays _ => exact iff_of_true stays was
    | ticked _ _ _ was stays => exact iff_of_true stays was
    | joined found join _ _ _ => exact absurd join (other found)
  constructor
  · rintro ⟨active, identifier⟩
    have was := activity.mp active
    exact ⟨was, (criticalSection_identity wellFormed step was).2.1.symm.trans identifier⟩
  · rintro ⟨active, identifier⟩
    obtain ⟨stays, same, _⟩ := criticalSection_identity wellFormed step active
    exact ⟨stays, same.trans identifier⟩

/-- A join that finds room adds one driver, behind the active ones. -/
theorem carries_join (wellFormed : WellFormed state)
    (step : processDriverJoin driverId state = some next) (room : state.driverCount < maxDrivers) :
    ∃ added, ¬ state.Active added ∧ Carries next driverId added ∧
      ∀ other identifier, Carries next identifier other ↔
        (other = added ∧ identifier = driverId) ∨ Carries state identifier other := by
  rcases processDriverJoin_cases step with ⟨full, _⟩ | ⟨added, position, joined⟩
  · exact absurd room (Int.not_lt.mpr full)
  · have inactive : ¬ state.Active added := by
      rw [SharedState.Active, position]
      exact lt_irrefl _
    have section_ : CriticalSection state (.driverJoin driverId) next := step
    have stored : Carries next driverId added := by
      rw [joined]
      refine ⟨?_, ?_⟩
      · rw [SharedState.Active]
        simp only
        omega
      · simp only [SharedState.setDriver_drivers, Function.update_self]
        rfl
    refine ⟨added, inactive, stored, fun other identifier => ?_⟩
    by_cases same : other = added
    · subst same
      have absent : ¬ Carries state identifier other := fun carries => inactive carries.1
      constructor
      · rintro ⟨_, identified⟩
        exact Or.inl ⟨rfl, identified.symm.trans stored.2⟩
      · rintro (⟨_, rfl⟩ | carries)
        · exact stored
        · exact absurd carries absent
    · have kept : Carries next identifier other ↔ Carries state identifier other := by
        cases criticalSection_record wellFormed section_ other with
        | kept _ record same => rw [Carries, Carries, record, same]
        | assigned _ _ request _ _ _ _ => cases request
        | ticked _ tick _ _ _ => cases tick
        | joined _ _ _ was active =>
            have last : (other.val : Int) < state.driverCount + 1 := by
              rw [joined] at active
              exact active
            have behind : ¬ (other.val : Int) < state.driverCount := was
            exact absurd (Fin.ext (by omega)) same
      rw [kept]
      constructor
      · exact Or.inr
      · rintro (⟨equal, _⟩ | carries)
        · exact absurd equal same
        · exact carries

theorem join_of_full (step : processDriverJoin driverId state = some next)
    (full : (maxDrivers : Int) ≤ state.driverCount) : next = state := by
  rcases processDriverJoin_cases step with ⟨_, same⟩ | ⟨added, position, _⟩
  · exact same
  · have inside := added.isLt
    omega

/-! ## The meaning of an acknowledgement -/

/-- After a join exactly one active driver has the identifier just when the join
registers it. -/
theorem existsUnique_carries_iff (wellFormed : WellFormed state)
    (step : processDriverJoin driverId state = some next) :
    (∃! slot, Carries next driverId slot) ↔ Registers state driverId := by
  rcases Int.lt_or_le state.driverCount maxDrivers with room | full
  · obtain ⟨added, inactive, stored, carriers⟩ := carries_join wellFormed step room
    constructor
    · intro unique
      refine Or.inl ⟨room, fun slot carries => inactive ?_⟩
      have same := unique.unique ((carriers slot driverId).mpr (Or.inr carries)) stored
      exact same ▸ carries.1
    · rintro (⟨_, unused⟩ | ⟨full, _⟩)
      · refine ⟨added, stored, fun other carries => ?_⟩
        rcases (carriers other driverId).mp carries with ⟨same, _⟩ | before
        · exact same
        · exact absurd before (unused other)
      · omega
  · rw [join_of_full step full]
    constructor
    · exact fun unique => Or.inr ⟨full, unique⟩
    · rintro (⟨room, _⟩ | ⟨_, unique⟩)
      · omega
      · exact unique

theorem UniqueIds.existsUnique (unique : UniqueIds state) (active : state.Active slot) :
    ∃! other, Carries state (state.drivers slot).driverId other :=
  ⟨slot, ⟨active, rfl⟩, fun other carries => unique _ other slot carries ⟨active, rfl⟩⟩

/-- A step keeps the identifiers unique when its join, if it is one, registers
its driver. -/
theorem UniqueIds.step (unique : UniqueIds state) (wellFormed : WellFormed state)
    (step : CriticalSection state event next) (registers : JoinsRegister state event) :
    UniqueIds next := by
  by_cases isJoin : ∃ driverId, event = .driverJoin driverId
  · obtain ⟨driverId, rfl⟩ := isJoin
    rcases registers driverId rfl with ⟨room, unused⟩ | ⟨full, _⟩
    · obtain ⟨added, _, _, carriers⟩ := carries_join wellFormed step room
      intro identifier first second firstCarries secondCarries
      rcases (carriers first identifier).mp firstCarries with ⟨rfl, rfl⟩ | firstBefore
      · rcases (carriers second identifier).mp secondCarries with ⟨rfl, _⟩ | secondBefore
        · rfl
        · exact absurd secondBefore (unused second)
      · rcases (carriers second identifier).mp secondCarries with ⟨rfl, rfl⟩ | secondBefore
        · exact absurd firstBefore (unused first)
        · exact unique identifier first second firstBefore secondBefore
    · rw [join_of_full step full]
      exact unique
  · have other : ∀ driverId, event ≠ .driverJoin driverId := fun driverId join =>
      isJoin ⟨driverId, join⟩
    intro identifier first second firstCarries secondCarries
    exact unique identifier first second ((carries_other wellFormed step other).mp firstCarries)
      ((carries_other wellFormed step other).mp secondCarries)

/-- The identifiers that a fresh server hands out. -/
theorem toNat_initDriver_driverId (slot : Fin maxDrivers) (draws : InitDraws) (d : Driver) :
    (initDriver slot.val draws d).driverId.toNat = 1001 + slot.val := by
  have inside := slot.isLt
  have small : 1000 + slot.val + 1 < UInt32.size := by
    have table : maxDrivers = 256 := rfl
    have size : UInt32.size = 4294967296 := rfl
    omega
  have value : (initDriver slot.val draws d).driverId.toNat = 1000 + slot.val + 1 :=
    UInt32.toNat_ofNat_of_lt' small
  omega

/-- The identifiers 1001, 1002, … of a fresh server are unique. -/
theorem secureServer_uniqueIds (fresh : secureServer.initial state) : UniqueIds state := by
  obtain ⟨driverCount, mode, draws, nonneg, fits, started⟩ := fresh
  obtain ⟨_, records⟩ := serverMain_wellFormed nonneg fits started
  rintro identifier first second ⟨firstActive, firstId⟩ ⟨secondActive, secondId⟩
  rw [records first firstActive] at firstId
  rw [records second secondActive] at secondId
  have numbers := congrArg UInt32.toNat (firstId.trans secondId.symm)
  rw [toNat_initDriver_driverId, toNat_initDriver_driverId] at numbers
  exact Fin.ext (by omega)

theorem run_uniqueIds (run : Run (secureServer.restrict JoinsRegister) trace state) :
    UniqueIds state := by
  have strengthened : WellFormed state ∧ UniqueIds state := by
    apply run.invariant (P := fun _ state => WellFormed state ∧ UniqueIds state)
    · intro start fresh
      have started : Run secureServer [] start := Run.start fresh
      exact ⟨reachable_wellFormed started.reachable, secureServer_uniqueIds fresh⟩
    · rintro _ before event after ⟨wellFormed, unique⟩ ⟨step, registers⟩
      exact ⟨criticalSection_wellFormed wellFormed step, unique.step wellFormed step registers⟩
  exact strengthened.2

/-- Every join of a reachable state is acknowledged; afterwards exactly one
active driver has its identifier just when the join registers it.  In a run all
of whose joins do, every identifier names a single driver, in particular the one
in the confirmation of a ride. -/
theorem join_acknowledged {γ : Type u} (run : Run secureServer trace state) :
    (∀ (body : Region 1024) (world : World γ), world.shared = state →
      ∃ next, processDriverJoin (driverIdField body.bytes) state = some next ∧
        processDriverJoinPacket body world =
          .returned (({ world with shared := next }.record
            (.driverJoin (driverIdField body.bytes))).send driverJoinResponse.encode) ∧
        ((∃! slot, Carries next (driverIdField body.bytes) slot) ↔
          Registers state (driverIdField body.bytes))) ∧
      (Run (secureServer.restrict JoinsRegister) trace state →
        UniqueIds state ∧
          ∀ clientId slot next, CriticalSection state (.rideRequest clientId (some slot)) next →
            ∃! other, Carries next (next.drivers slot).driverId other) := by
  have wellFormed := reachable_wellFormed run.reachable
  constructor
  · rintro body world rfl
    obtain ⟨next, step⟩ := processDriverJoin_total (driverIdField body.bytes) wellFormed.nonneg
    refine ⟨next, step, ?_, existsUnique_carries_iff wellFormed step⟩
    rw [processDriverJoinPacket, step]
  · intro registered
    have unique := run_uniqueIds registered
    refine ⟨unique, fun clientId slot next step => ?_⟩
    have chosen : next.Active slot := by
      cases criticalSection_record wellFormed step slot with
      | kept other _ _ => exact absurd rfl (other clientId)
      | assigned _ _ _ _ _ active _ => exact active
      | ticked _ tick _ _ _ => cases tick
      | joined _ join _ _ _ => cases join
    exact (unique.step wellFormed step nofun).existsUnique chosen

/-- The body of a join with the identifier 7. -/
def joinSeven : Region 1024 :=
  (Region.zero 1024).write [7]

theorem driverIdField_joinSeven : driverIdField joinSeven.bytes = 7 := by
  decide +kernel

theorem join_acknowledged_zeroed :
    ∃! slot, Carries loneDriver 7 slot := by
  have acknowledged := (join_acknowledged (Run.start zeroed_initial)).1 joinSeven
    (World.opened SharedState.zeroed) rfl
  rw [driverIdField_joinSeven] at acknowledged
  obtain ⟨next, step, _, registered⟩ := acknowledged
  have joined : next = loneDriver := (Option.some.inj step).symm
  have room : SharedState.zeroed.driverCount < maxDrivers := by decide
  have unused : ∀ slot, ¬ Carries SharedState.zeroed 7 slot := by
    rintro slot ⟨active, _⟩
    exact absurd active (Int.not_lt.mpr (Int.natCast_nonneg slot.val))
  rw [joined] at registered
  exact registered.mpr (Or.inl ⟨room, unused⟩)

/-- Two drivers with the identifier 7. -/
def sevenTwice : SharedState :=
  { loneDriver.setDriver 1 (joinDriver 7 (loneDriver.drivers 1)) with driverCount := 2 }

theorem not_existsUnique_sevenTwice : ¬ ∃! slot, Carries sevenTwice 7 slot := by
  intro unique
  have first : Carries sevenTwice 7 0 := ⟨by decide, rfl⟩
  have second : Carries sevenTwice 7 1 := ⟨by decide, rfl⟩
  exact absurd (unique.unique first second) (by decide)

/-- A server started with as many drivers as its table holds has no driver with
a small identifier, and a join changes nothing. -/
theorem join_fullTable {mode : Int} {draws : Nat → InitDraws} {full : SharedState}
    (started : serverMain maxDrivers mode draws = some full) (small : driverId.toNat ≤ 1000) :
    processDriverJoin driverId full = some full ∧ ∀ slot, ¬ Carries full driverId slot := by
  have count : full.driverCount = maxDrivers := by
    rw [SharedState.forDrivers_frame started]
  obtain ⟨_, records⟩ := serverMain_wellFormed (by decide) (le_refl _) started
  constructor
  · rw [processDriverJoin, if_neg (by omega)]
  · rintro slot ⟨active, identifier⟩
    rw [records slot active] at identifier
    have number := congrArg UInt32.toNat identifier
    rw [toNat_initDriver_driverId] at number
    omega

/-- A repeated identifier is acknowledged and registered a second time, and a
full table acknowledges an identifier that nobody has. -/
theorem join_acknowledged_anyway :
    (Run secureServer [.driverJoin 7] loneDriver ∧
      processDriverJoin 7 loneDriver = some sevenTwice ∧
      ¬ ∃! slot, Carries sevenTwice 7 slot) ∧
    ∃ full, Run secureServer [] full ∧ processDriverJoin 7 full = some full ∧
      ¬ ∃! slot, Carries full 7 slot := by
  constructor
  · exact ⟨loneDriver_run, rfl, not_existsUnique_sevenTwice⟩
  · obtain ⟨full, started⟩ : ∃ full, serverMain maxDrivers 1 (fun _ => ⟨0, 0, 0⟩) = some full :=
      ⟨_, SharedState.forDrivers_eq_some _ (le_refl _)⟩
    have fresh : secureServer.initial full :=
      ⟨maxDrivers, 1, fun _ => ⟨0, 0, 0⟩, by decide, by decide, started⟩
    obtain ⟨unchanged, absent⟩ := join_fullTable started (by decide : (7 : UInt32).toNat ≤ 1000)
    refine ⟨full, Run.start fresh, unchanged, ?_⟩
    rintro ⟨slot, carries, _⟩
    exact absent slot carries

end RideHailing.Fleet
