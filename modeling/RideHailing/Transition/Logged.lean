import Mathlib.Data.List.Basic

/-!
# Computations with a log

A computation that lists what it does on the way to its value.  An assertion
about it has two parts, one for everything that is listed and one for the value;
the rules below derive it along the structure of the computation.
-/

namespace RideHailing.Transition

universe u v w

/-- A value with the events that were logged on the way to it. -/
structure Logged (ω : Type u) (α : Type v) where
  events : List ω
  value : α

namespace Logged

variable {ω : Type u} {α : Type v} {β : Type w}

/-- Log nothing. -/
protected def pure (value : α) : Logged ω α :=
  ⟨[], value⟩

/-- Log one event. -/
protected def log (event : ω) (value : α) : Logged ω α :=
  ⟨[event], value⟩

/-- Continue with the value; the log goes on. -/
protected def bind (run : Logged ω α) (next : α → Logged ω β) : Logged ω β :=
  ⟨run.events ++ (next run.value).events, (next run.value).value⟩

/-- Continue with the value of a computation that may fail; a failure ends the
whole computation, and the log keeps what was attempted. -/
protected def attempt (run : Logged ω (Option α)) (next : α → Logged ω (Option β)) :
    Logged ω (Option β) :=
  run.bind fun
    | some value => next value
    | none => .pure none

@[simp]
theorem value_pure (value : α) : (Logged.pure value : Logged ω α).value = value :=
  rfl

@[simp]
theorem value_log (event : ω) (value : α) : (Logged.log event value).value = value :=
  rfl

@[simp]
theorem value_bind (run : Logged ω α) (next : α → Logged ω β) :
    (run.bind next).value = (next run.value).value :=
  rfl

@[simp]
theorem events_pure (value : α) : (Logged.pure value : Logged ω α).events = [] :=
  rfl

@[simp]
theorem events_log (event : ω) (value : α) : (Logged.log event value).events = [event] :=
  rfl

@[simp]
theorem events_bind (run : Logged ω α) (next : α → Logged ω β) :
    (run.bind next).events = run.events ++ (next run.value).events :=
  rfl

/-- Every event meets `P`, and the value meets `Q`. -/
structure Satisfies (P : ω → Prop) (Q : α → Prop) (run : Logged ω α) : Prop where
  events : ∀ event ∈ run.events, P event
  value : Q run.value

variable {P : ω → Prop} {Q : α → Prop} {R : β → Prop}

theorem satisfies_pure {value : α} (holds : Q value) :
    (Logged.pure value : Logged ω α).Satisfies P Q :=
  ⟨nofun, holds⟩

theorem satisfies_log {event : ω} {value : α} (meets : P event) (holds : Q value) :
    (Logged.log event value).Satisfies P Q :=
  ⟨fun _ member => List.mem_singleton.mp member ▸ meets, holds⟩

/-- Sequencing: what follows may assume the assertion about the value. -/
theorem Satisfies.bind {run : Logged ω α} {next : α → Logged ω β} (first : run.Satisfies P Q)
    (second : ∀ value, Q value → (next value).Satisfies P R) : (run.bind next).Satisfies P R := by
  have rest := second run.value first.value
  constructor
  · intro event member
    rcases List.mem_append.mp member with earlier | later
    · exact first.events event earlier
    · exact rest.events event later
  · exact rest.value

/-- Every event meets `P`, and the computation succeeds with a value that meets
`Q`. -/
def Succeeds (P : ω → Prop) (Q : α → Prop) (run : Logged ω (Option α)) : Prop :=
  run.Satisfies P fun result => ∃ value, result = some value ∧ Q value

theorem succeeds_pure {value : α} (holds : Q value) :
    (Logged.pure (some value) : Logged ω (Option α)).Succeeds P Q :=
  satisfies_pure ⟨value, rfl, holds⟩

theorem succeeds_log {event : ω} {value : α} (meets : P event) (holds : Q value) :
    (Logged.log event (some value)).Succeeds P Q :=
  satisfies_log meets ⟨value, rfl, holds⟩

/-- A weaker assertion about the value. -/
theorem Succeeds.weaken {run : Logged ω (Option α)} {S : α → Prop} (holds : run.Succeeds P Q)
    (weaker : ∀ value, Q value → S value) : run.Succeeds P S := by
  obtain ⟨value, result, meets⟩ := holds.value
  exact ⟨holds.events, value, result, weaker value meets⟩

theorem Succeeds.attempt {run : Logged ω (Option α)} {next : α → Logged ω (Option β)}
    (first : run.Succeeds P Q) (second : ∀ value, Q value → (next value).Succeeds P R) :
    (run.attempt next).Succeeds P R := by
  apply Satisfies.bind first
  rintro _ ⟨value, rfl, holds⟩
  exact second value holds

end Logged

end RideHailing.Transition
