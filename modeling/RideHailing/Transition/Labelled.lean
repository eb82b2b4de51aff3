import Mathlib.Data.List.Basic
import Mathlib.Data.List.Induction

/-!
# Labelled transition systems and their runs

A system is a set of initial states together with a labelled step relation.  A
run records the complete trace of its labels, oldest first, so that a property
of a state can speak about the history that led to it.  Every safety theorem
over runs reduces to one initial goal and one step goal.
-/

namespace RideHailing.Transition

universe u v

/-- A labelled transition system over states `σ` and labels `ℓ`. -/
structure System (σ : Type u) (ℓ : Type v) where
  initial : σ → Prop
  step : σ → ℓ → σ → Prop

variable {σ : Type u} {ℓ : Type v}

/-- `Run system trace state`: some initial state leads to `state` by steps
carrying exactly the labels of `trace`, in order. -/
inductive Run (system : System σ ℓ) : List ℓ → σ → Prop
  | start {state : σ} : system.initial state → Run system [] state
  | snoc {trace : List ℓ} {state next : σ} {label : ℓ} :
      Run system trace state → system.step state label next →
        Run system (trace ++ [label]) next

/-- A state occurring at the end of some run. -/
def Reachable (system : System σ ℓ) (state : σ) : Prop :=
  ∃ trace, Run system trace state

/-- A property of trace and state that holds initially and survives every step
holds along every run. -/
theorem Run.invariant {system : System σ ℓ} {P : List ℓ → σ → Prop}
    (initially : ∀ state, system.initial state → P [] state)
    (preserved : ∀ trace state label next, P trace state →
      system.step state label next → P (trace ++ [label]) next)
    {trace : List ℓ} {state : σ} (run : Run system trace state) :
    P trace state := by
  induction run with
  | start starts => exact initially _ starts
  | snoc _ step ih => exact preserved _ _ _ _ ih step

/-- State-only form of `Run.invariant`. -/
theorem Reachable.invariant {system : System σ ℓ} {P : σ → Prop}
    (initially : ∀ state, system.initial state → P state)
    (preserved : ∀ state label next, P state →
      system.step state label next → P next)
    {state : σ} (reachable : Reachable system state) : P state := by
  obtain ⟨trace, run⟩ := reachable
  exact run.invariant (P := fun _ state => P state) initially
    (fun _ state label next holds step => preserved state label next holds step)

theorem Run.reachable {system : System σ ℓ} {trace : List ℓ} {state : σ}
    (run : Run system trace state) : Reachable system state :=
  ⟨trace, run⟩

/-- A step from a reachable state leads to a reachable state. -/
theorem Reachable.snoc {system : System σ ℓ} {state next : σ} {label : ℓ}
    (reachable : Reachable system state) (step : system.step state label next) :
    Reachable system next := by
  obtain ⟨trace, run⟩ := reachable
  exact ⟨trace ++ [label], Run.snoc run step⟩

/-- The runs all of whose steps meet a condition on the state before the step
and its label. -/
def System.restrict (system : System σ ℓ) (condition : σ → ℓ → Prop) :
    System σ ℓ where
  initial := system.initial
  step state label next := system.step state label next ∧ condition state label

/-- Dropping the condition turns a restricted run into a run. -/
theorem Run.of_restrict {system : System σ ℓ} {condition : σ → ℓ → Prop}
    {trace : List ℓ} {state : σ}
    (run : Run (system.restrict condition) trace state) :
    Run system trace state := by
  induction run with
  | start starts => exact Run.start starts
  | snoc _ step ih => exact Run.snoc ih step.1

/-- Every run meets the condition that always holds. -/
theorem Run.restrict_true {system : System σ ℓ} {trace : List ℓ} {state : σ}
    (run : Run system trace state) : Run (system.restrict fun _ _ => True) trace state := by
  induction run with
  | start starts => exact Run.start starts
  | snoc _ step ih => exact Run.snoc ih ⟨step, trivial⟩

/-- A system refines another along a view of its states when every step shows
there as a step with the label's image, or as nothing at all. -/
theorem Run.refines {τ : Type*} {ε : Type*} {source : System σ ℓ} {target : System τ ε}
    (view : σ → τ) (image : ℓ → Option ε)
    (initially : ∀ state, source.initial state → target.initial (view state))
    (silent : ∀ state label next, Reachable source state → source.step state label next →
      image label = none → view next = view state)
    (visible : ∀ state label next shown, Reachable source state →
      source.step state label next → image label = some shown →
        target.step (view state) shown (view next))
    {trace : List ℓ} {state : σ} (run : Run source trace state) :
    Run target (trace.filterMap image) (view state) := by
  induction run with
  | start starts => exact Run.start (initially _ starts)
  | @snoc trace state next label before step ih =>
      rw [List.filterMap_append]
      cases shown : image label with
      | none =>
          rw [silent state label next before.reachable step shown]
          simpa only [List.filterMap_cons, shown, List.filterMap_nil, List.append_nil] using ih
      | some event =>
          have seen := Run.snoc ih (visible state label next event before.reachable step shown)
          simpa only [List.filterMap_cons, shown, List.filterMap_nil] using seen

/-- `Leads system first trace last`: steps carrying the labels of `trace`, in
order, lead from one state to another, whether or not the first is initial. -/
inductive Leads (system : System σ ℓ) (first : σ) : List ℓ → σ → Prop
  | refl : Leads system first [] first
  | snoc {trace : List ℓ} {state next : σ} {label : ℓ} :
      Leads system first trace state → system.step state label next →
        Leads system first (trace ++ [label]) next

/-- A property of a state that every step keeps holds along every path from it. -/
theorem Leads.invariant {system : System σ ℓ} {P : σ → Prop} {first : σ} (initially : P first)
    (preserved : ∀ state label next, P state → system.step state label next → P next)
    {trace : List ℓ} {last : σ} (path : Leads system first trace last) : P last := by
  induction path with
  | refl => exact initially
  | snoc _ step ih => exact preserved _ _ _ ih step

/-- A path shows in the view of its states as a path. -/
theorem Leads.refines {τ : Type*} {ε : Type*} {source : System σ ℓ} {target : System τ ε}
    (view : σ → τ) (image : ℓ → Option ε)
    (silent : ∀ state label next, source.step state label next → image label = none →
      view next = view state)
    (visible : ∀ state label next shown, source.step state label next →
      image label = some shown → target.step (view state) shown (view next))
    {trace : List ℓ} {first last : σ} (path : Leads source first trace last) :
    Leads target (view first) (trace.filterMap image) (view last) := by
  induction path with
  | refl => exact Leads.refl
  | @snoc trace state next label _ step ih =>
      rw [List.filterMap_append]
      cases shown : image label with
      | none =>
          rw [silent state label next step shown]
          simpa only [List.filterMap_cons, shown, List.filterMap_nil, List.append_nil] using ih
      | some event =>
          have seen := Leads.snoc ih (visible state label next event step shown)
          simpa only [List.filterMap_cons, shown, List.filterMap_nil] using seen

/-- Paths compose, and their traces are appended. -/
theorem Leads.append {system : System σ ℓ} {before after : List ℓ} {first middle last : σ}
    (path : Leads system first before middle) (rest : Leads system middle after last) :
    Leads system first (before ++ after) last := by
  induction rest with
  | refl =>
      rw [List.append_nil]
      exact path
  | snoc _ step ih =>
      rw [← List.append_assoc]
      exact Leads.snoc ih step

/-- A path continues a run. -/
theorem Run.append {system : System σ ℓ} {before after : List ℓ} {state last : σ}
    (run : Run system before state) (path : Leads system state after last) :
    Run system (before ++ after) last := by
  induction path with
  | refl =>
      rw [List.append_nil]
      exact run
  | snoc _ step ih =>
      rw [← List.append_assoc]
      exact Run.snoc ih step

/-- The last step of a run. -/
theorem Run.last {system : System σ ℓ} {trace : List ℓ} {label : ℓ} {state : σ}
    (run : Run system (trace ++ [label]) state) :
    ∃ before, Run system trace before ∧ system.step before label state := by
  generalize whole : trace ++ [label] = labels at run
  cases run with
  | start starts => exact absurd whole (by simp)
  | snoc before step =>
      obtain ⟨rfl, rfl⟩ := List.append_inj' whole rfl |>.imp id List.singleton_inj.mp
      exact ⟨_, before, step⟩

/-- A run, cut open at one of its steps. -/
theorem Run.split {system : System σ ℓ} {before after : List ℓ} {label : ℓ} {last : σ}
    (run : Run system (before ++ label :: after) last) :
    ∃ state next, Run system before state ∧ system.step state label next ∧
      Leads system next after last := by
  induction after using List.reverseRecOn generalizing last with
  | nil =>
      obtain ⟨state, earlier, step⟩ := run.last
      exact ⟨state, last, earlier, step, Leads.refl⟩
  | append_singleton after final ih =>
      rw [← List.cons_append, ← List.append_assoc] at run
      obtain ⟨middle, earlier, step⟩ := run.last
      obtain ⟨state, next, start, first, path⟩ := ih earlier
      exact ⟨state, next, start, first, Leads.snoc path step⟩

/-! ## Runs that come to an end -/

/-- A measure that falls with every step bounds the length of every run. -/
theorem Run.length_add_le {system : System σ ℓ} {measure : σ → Nat} {limit : Nat}
    (starts : ∀ state, system.initial state → measure state ≤ limit)
    (falls : ∀ state label next, Reachable system state → system.step state label next →
      measure next < measure state)
    {trace : List ℓ} {state : σ} (run : Run system trace state) :
    trace.length + measure state ≤ limit := by
  induction run with
  | start initial =>
      rw [List.length_nil, Nat.zero_add]
      exact starts _ initial
  | snoc before step ih =>
      have lower := falls _ _ _ before.reachable step
      rw [List.length_append, List.length_singleton]
      omega

/-- Where a measure falls along the steps and every state that is not final has
one, every reachable state leads to a final one. -/
theorem Reachable.leads_to_final {system : System σ ℓ} {measure : σ → Nat} {Final : σ → Prop}
    (continues : ∀ state, Reachable system state →
      Final state ∨ ∃ label next, system.step state label next ∧ measure next < measure state)
    {state : σ} (reachable : Reachable system state) :
    ∃ trace last, Leads system state trace last ∧ Final last := by
  induction size : measure state using Nat.strongRecOn generalizing state with
  | ind bound ih =>
      rcases continues state reachable with final | ⟨label, next, step, lower⟩
      · exact ⟨[], state, Leads.refl, final⟩
      · obtain ⟨trace, last, path, final⟩ :=
          ih (measure next) (size ▸ lower) (reachable.snoc step) rfl
        have first : Leads system state [label] next := Leads.refl.snoc step
        exact ⟨[label] ++ trace, last, first.append path, final⟩

end RideHailing.Transition
