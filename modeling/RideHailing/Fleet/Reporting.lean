import RideHailing.Fleet.Cells
import RideHailing.Fleet.Registration

/-!
# Reports after the mutex is released

The response and the log line of a dispatch are formatted from the shared record
after the critical section has ended.  Who the driver is never changes, and the
distance is a local variable; the target is that of the ride as long as nobody
has dispatched the same driver again.
-/

namespace RideHailing.Fleet

open RideHailing.Bytes
open RideHailing.Common
open RideHailing.Server
open RideHailing.Transition

variable {trace : List Event} {state next : SharedState} {event : Event}
  {slot : Fin maxDrivers} {clientId : Int} {draws : TargetDraws} {dist : ℚ}

/-- The values of the response: the record's as it is now, the distance from the
critical section. -/
structure Confirmation where
  driverId : UInt32
  rating : ℚ
  dist : ℚ

/-- The values of the log line. -/
structure DispatchRecord where
  driverId : UInt32
  rating : ℚ
  targetLat : ℚ
  targetLon : ℚ

def confirmation (state : SharedState) (chosen : Fin maxDrivers × ℚ) : Confirmation where
  driverId := (state.drivers chosen.1).driverId
  rating := (state.drivers chosen.1).rating
  dist := chosen.2

def dispatchRecord (state : SharedState) (slot : Fin maxDrivers) : DispatchRecord where
  driverId := (state.drivers slot).driverId
  rating := (state.drivers slot).rating
  targetLat := (state.drivers slot).targetLat
  targetLon := (state.drivers slot).targetLon

/-- The response is made of the confirmation and the dispatch mode. -/
theorem rideResponse_congr (format : FloatFormat) {first second : SharedState}
    {chosen : Fin maxDrivers × ℚ} (same : confirmation first chosen = confirmation second chosen)
    (mode : first.dispatchMode = second.dispatchMode) :
    rideResponse format first (some chosen) = rideResponse format second (some chosen) := by
  have driverId : (first.drivers chosen.1).driverId = (second.drivers chosen.1).driverId :=
    congrArg Confirmation.driverId same
  have rating : (first.drivers chosen.1).rating = (second.drivers chosen.1).rating :=
    congrArg Confirmation.rating same
  simp only [rideResponse, driverId, rating, mode]

/-- The log line is made of the dispatch record and the client. -/
theorem dispatchLog_congr (format : LogFormat) (clientId : Int) {first second : SharedState}
    (same : dispatchRecord first slot = dispatchRecord second slot) :
    dispatchLog format clientId first slot = dispatchLog format clientId second slot := by
  have driverId : (first.drivers slot).driverId = (second.drivers slot).driverId :=
    congrArg DispatchRecord.driverId same
  have rating : (first.drivers slot).rating = (second.drivers slot).rating :=
    congrArg DispatchRecord.rating same
  have targetLat : (first.drivers slot).targetLat = (second.drivers slot).targetLat :=
    congrArg DispatchRecord.targetLat same
  have targetLon : (first.drivers slot).targetLon = (second.drivers slot).targetLon :=
    congrArg DispatchRecord.targetLon same
  simp only [dispatchLog, driverId, rating, targetLat, targetLon]

/-! ## What a step keeps -/

/-- The dispatch mode is fixed at the start. -/
theorem criticalSection_dispatchMode (step : CriticalSection state event next) :
    next.dispatchMode = state.dispatchMode := by
  cases criticalSection_shared step with
  | unserved | dispatched | ticked | refused | joined | uncounted => rfl
  | counted clientId now blocked slot => exact (recordRequest_frame slot now state).dispatchMode

/-- Where a record's ride leads. -/
def destination (d : Driver) : ℚ × ℚ :=
  (d.targetLat, d.targetLon)

/-- A pass uses a target but never sets one. -/
theorem destination_tickDriver (grid : GridMap) (draws : TickDraws) (d : Driver) :
    destination (tickDriver grid draws d) = destination d := by
  obtain ⟨_, _, _, _, _, _, frame⟩ := tickDriver_frame grid draws d
  rw [frame]
  rfl

/-- Only a dispatch of the driver itself sets its target. -/
theorem criticalSection_destination (wellFormed : WellFormed state)
    (step : CriticalSection state event next) (active : state.Active slot)
    (other : ∀ client, event ≠ .rideRequest client (some slot)) :
    destination (next.drivers slot) = destination (state.drivers slot) := by
  cases criticalSection_record wellFormed step slot with
  | kept _ record _ => rw [record]
  | assigned client _ request _ _ _ _ => exact absurd request (other client)
  | ticked draws _ record _ _ => rw [record, destination_tickDriver]
  | joined _ _ _ was _ => exact absurd active was

/-! ## From the unlock to the report -/

/-- The values that identify a driver to the outside, kept along a path. -/
theorem leads_identity (wellFormed : WellFormed state) (active : state.Active slot)
    {last : SharedState} (path : Leads secureServer state trace last) :
    WellFormed last ∧ last.Active slot ∧
      (last.drivers slot).driverId = (state.drivers slot).driverId ∧
      (last.drivers slot).rating = (state.drivers slot).rating ∧
      last.dispatchMode = state.dispatchMode := by
  apply path.invariant (P := fun last => WellFormed last ∧ last.Active slot ∧
    (last.drivers slot).driverId = (state.drivers slot).driverId ∧
    (last.drivers slot).rating = (state.drivers slot).rating ∧
    last.dispatchMode = state.dispatchMode)
  · exact ⟨wellFormed, active, rfl, rfl, rfl⟩
  · rintro before event after ⟨formed, was, driverId, rating, mode⟩ step
    obtain ⟨stays, sameId, sameRating⟩ := criticalSection_identity formed step was
    exact ⟨criticalSection_wellFormed formed step, stays, sameId.trans driverId,
      sameRating.trans rating, (criticalSection_dispatchMode step).trans mode⟩

/-- Between two dispatches of a driver its target stays. -/
theorem leads_destination (wellFormed : WellFormed state) (active : state.Active slot)
    {last : SharedState} (path : Leads secureServer state trace last)
    (others : ∀ event ∈ trace, ∀ client, event ≠ .rideRequest client (some slot)) :
    destination (last.drivers slot) = destination (state.drivers slot) := by
  induction path with
  | refl => rfl
  | snoc path step ih =>
      obtain ⟨formed, was, _⟩ := leads_identity wellFormed active path
      have before := ih fun event member => others event (List.mem_append_left _ member)
      have other := others _ (List.mem_append_right _ (List.mem_singleton_self _))
      exact (criticalSection_destination formed step was other).trans before

/-- A dispatch can be repeated with any other outcome of its random choices. -/
theorem rideRequest_redraw (step : CriticalSection state (.rideRequest clientId (some slot)) next)
    (draws : TargetDraws) :
    ∃ other, CriticalSection state (.rideRequest clientId (some slot)) other ∧
      other.drivers slot = assignRide draws (state.drivers slot) := by
  obtain ⟨drawn, result, section_, chosen⟩ := step
  rw [rideCriticalSection_eq] at section_
  obtain ⟨best, selected, outcome⟩ := Option.map_eq_some_iff.mp section_
  cases best with
  | none =>
      cases outcome
      cases chosen
  | some found =>
      cases outcome
      cases chosen
      refine ⟨dispatchTo found (isVipClient clientId) draws state,
        ⟨draws, some (found, slotDistance state found), ?_, rfl⟩, dispatchTo_self found _ draws
          state⟩
      rw [rideCriticalSection_eq, selected]
      rfl

/-- Two draws that lead to different rows of the map. -/
theorem targetLat_redraw (d : Driver) :
    (assignRide ⟨0, 0⟩ d).targetLat ≠ (assignRide ⟨1, 0⟩ d).targetLat := by
  simp only [assignRide]
  norm_num

/-- Some outcome of a second dispatch changes the target. -/
theorem exists_redirected (record : DispatchRecord)
    (step : CriticalSection state (.rideRequest clientId (some slot)) next) :
    ∃ other, CriticalSection state (.rideRequest clientId (some slot)) other ∧
      dispatchRecord other slot ≠ record := by
  obtain ⟨first, firstStep, firstRecord⟩ := rideRequest_redraw step ⟨0, 0⟩
  obtain ⟨second, secondStep, secondRecord⟩ := rideRequest_redraw step ⟨1, 0⟩
  by_cases same : dispatchRecord first slot = record
  · refine ⟨second, secondStep, fun again => ?_⟩
    have targets := congrArg DispatchRecord.targetLat (same.trans again.symm)
    rw [dispatchRecord, dispatchRecord] at targets
    simp only [firstRecord, secondRecord] at targets
    exact targetLat_redraw (state.drivers slot) targets
  · exact ⟨first, firstStep, same⟩

/-- What a successful call sets inside its critical section. -/
theorem dispatched_record {unlocked : SharedState}
    (dispatched : rideCriticalSection clientId draws state = some (unlocked, some (slot, dist))) :
    state.Active slot ∧ unlocked.drivers slot = assignRide draws (state.drivers slot) ∧
      dist = baseDistance (state.drivers slot) := by
  rcases rideCriticalSection_cases dispatched with ⟨none_, _⟩ | ⟨found, some_, active, _, rfl⟩
  · cases none_
  · cases some_
    exact ⟨active, dispatchTo_self slot _ draws state, rfl⟩

/-- Whatever happens between the unlock of a successful call and its formatting,
the response shows the driver and the distance of the call's own critical
section, and the log line shows the driver.  The log line shows the target of
the ride when nobody has dispatched the driver again; and whenever somebody does,
some outcome of the second dispatch makes it show another target. -/
theorem reported_as_dispatched (reachable : Reachable secureServer state)
    {unlocked answered logged : SharedState} {first second : List Event}
    (dispatched : rideCriticalSection clientId draws state = some (unlocked, some (slot, dist)))
    (responding : Leads secureServer unlocked first answered)
    (logging : Leads secureServer answered second logged) (format : LogFormat) :
    (unlocked.drivers slot = assignRide draws (state.drivers slot) ∧
      dist = baseDistance (state.drivers slot)) ∧
    (confirmation answered (slot, dist) = confirmation unlocked (slot, dist) ∧
      rideResponse format.toFloatFormat answered (some (slot, dist)) =
        rideResponse format.toFloatFormat unlocked (some (slot, dist))) ∧
    ((dispatchRecord logged slot).driverId = (dispatchRecord unlocked slot).driverId ∧
      (dispatchRecord logged slot).rating = (dispatchRecord unlocked slot).rating) ∧
    ((∀ event ∈ first ++ second, ∀ client, event ≠ .rideRequest client (some slot)) →
      dispatchRecord logged slot = dispatchRecord unlocked slot ∧
        dispatchLog format clientId logged slot = dispatchLog format clientId unlocked slot) ∧
    ∀ client next, secureServer.step logged (.rideRequest client (some slot)) next →
      ∃ other, secureServer.step logged (.rideRequest client (some slot)) other ∧
        dispatchRecord other slot ≠ dispatchRecord unlocked slot := by
  have section_ : CriticalSection state (.rideRequest clientId (some slot)) unlocked :=
    ⟨draws, _, dispatched, rfl⟩
  have wellFormed := criticalSection_wellFormed (reachable_wellFormed reachable) section_
  obtain ⟨was, assigned, measured⟩ := dispatched_record dispatched
  have active := (criticalSection_identity (reachable_wellFormed reachable) section_ was).1
  have path := responding.append logging
  obtain ⟨_, _, answeredId, answeredRating, mode⟩ := leads_identity wellFormed active responding
  obtain ⟨_, _, loggedId, loggedRating, _⟩ := leads_identity wellFormed active path
  have confirmed : confirmation answered (slot, dist) = confirmation unlocked (slot, dist) := by
    rw [confirmation, confirmation]
    simp only [answeredId, answeredRating]
  refine ⟨⟨assigned, measured⟩, ⟨confirmed, rideResponse_congr _ confirmed mode⟩,
    ⟨loggedId, loggedRating⟩, ?_, ?_⟩
  · intro others
    have target := leads_destination wellFormed active path others
    have recorded : dispatchRecord logged slot = dispatchRecord unlocked slot := by
      rw [dispatchRecord, dispatchRecord, loggedId, loggedRating]
      exact congrArg₂ (DispatchRecord.mk _ _) (congrArg Prod.fst target) (congrArg Prod.snd target)
    exact ⟨recorded, dispatchLog_congr format clientId recorded⟩
  · intro client next again
    exact exists_redirected _ again

/-- A format that shows nothing. -/
def blankFormat : LogFormat where
  rating _ := []
  distance _ := []
  coordinate _ := []

/-- The driver that a fresh server with one driver starts with. -/
def firstDriver : Driver :=
  initDriver 0 ⟨0, 0, 0⟩ Driver.zeroed

theorem firstDriver_dispatched (draws : TargetDraws) :
    ∃ unlocked, rideCriticalSection 5 draws baseDriver =
        some (unlocked, some (0, baseDistance firstDriver)) ∧
      Sole (assignRide draws firstDriver) unlocked := by
  have able : eligible firstDriver = true := by decide
  have near : baseDistance firstDriver < 1000000 ^ 2 := by decide +kernel
  exact baseDriver_sole.ride able near 5 draws

/-- A pass between the unlock and the log line changes nothing that it shows. -/
theorem reported_as_dispatched_baseDriver :
    ∃ unlocked logged, Leads secureServer unlocked [.monitorTick] logged ∧
      (dispatchRecord unlocked 0).targetLat = baseLat ∧
      dispatchRecord logged 0 = dispatchRecord unlocked 0 := by
  obtain ⟨unlocked, dispatched, sole⟩ := firstDriver_dispatched ⟨0, 0⟩
  obtain ⟨logged, tick, _⟩ := sole.tick arriveAndStay
  have logging : Leads secureServer unlocked [.monitorTick] logged :=
    Leads.snoc Leads.refl ⟨_, tick⟩
  have reported := reported_as_dispatched (Run.start baseDriver_initial).reachable dispatched
    Leads.refl logging blankFormat
  refine ⟨unlocked, logged, logging, ?_, (reported.2.2.2.1 (by simp)).1⟩
  rw [dispatchRecord, sole.record]
  decide +kernel

/-- The end of the first ride and the dispatch of a second one. -/
def secondRide : List Stage :=
  [.tick arriveAndStay, .ride 6 ⟨1, 1⟩]

/-- When the ride ends and the driver is dispatched again before the log line is
formatted, it shows the target of the second ride. -/
theorem reported_as_dispatched_secondRide :
    ¬ ∀ (clientId : Int) (draws : TargetDraws) (state unlocked logged : SharedState)
      (slot : Fin maxDrivers) (dist : ℚ) (trace : List Event), Reachable secureServer state →
        rideCriticalSection clientId draws state = some (unlocked, some (slot, dist)) →
        Leads secureServer unlocked trace logged →
          dispatchRecord logged slot = dispatchRecord unlocked slot := by
  intro always
  obtain ⟨unlocked, dispatched, sole⟩ := firstDriver_dispatched ⟨0, 0⟩
  have plan : (performAll secondRide (assignRide ⟨0, 0⟩ firstDriver)).map Driver.targetLat =
      some (baseLat + 0.0001) := by decide +kernel
  obtain ⟨last, performed, target⟩ := Option.map_eq_some_iff.mp plan
  obtain ⟨logged, path, after⟩ := sole.leads performed
  have same := always 5 ⟨0, 0⟩ baseDriver unlocked logged 0 _ _
    (Run.start baseDriver_initial).reachable dispatched path
  have targets : (logged.drivers 0).targetLat = (unlocked.drivers 0).targetLat :=
    congrArg DispatchRecord.targetLat same
  rw [after.record, sole.record, target] at targets
  exact absurd targets (by decide +kernel)

end RideHailing.Fleet
