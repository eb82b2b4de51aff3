import RideHailing.Transition.Labelled
import Mathlib.Algebra.BigOperators.Group.Finset.Basic
import Mathlib.Data.Set.Finite.Basic
import Mathlib.Logic.Relation

/-!
# Interleaved processes

Processes that run one program over a shared state, in any order, beside an
environment that changes the shared state on its own.  What holds of one process
follows from its own steps and from what the others may do to the shared state;
what is summed over all processes follows from the one that moves.
-/

namespace RideHailing.Transition

universe u v w x y

/-- A shared state with the private state of every process. -/
@[ext]
structure Global (ι : Type u) (σ : Type v) (π : Type w) where
  shared : σ
  processes : ι → π

/-- A step of one process, or of the environment. -/
inductive Action (ι : Type u) (ℓ : Type x) (κ : Type y)
  | own (process : ι) (label : ℓ)
  | outside (label : κ)

/-- The program of the processes, and the environment. -/
structure Family (ι : Type u) (σ : Type v) (π : Type w) (ℓ : Type x) (κ : Type y) where
  initial : Global ι σ π → Prop
  act : σ → π → ℓ → σ → π → Prop
  outside : σ → κ → σ → Prop

namespace Family

variable {ι : Type u} {σ : Type v} {π : Type w} {ℓ : Type x} {κ : Type y} [DecidableEq ι]
  {family : Family ι σ π ℓ κ}

/-- One process moves and takes the shared state with it, or the environment
does. -/
inductive Step (family : Family ι σ π ℓ κ) (global : Global ι σ π) :
    Action ι ℓ κ → Global ι σ π → Prop
  | own (process : ι) (label : ℓ) (shared : σ) (next : π)
      (acts : family.act global.shared (global.processes process) label shared next) :
      Step family global (.own process label)
        ⟨shared, Function.update global.processes process next⟩
  | outside (label : κ) (shared : σ) (changes : family.outside global.shared label shared) :
      Step family global (.outside label) ⟨shared, global.processes⟩

/-- All interleavings. -/
def system (family : Family ι σ π ℓ κ) : System (Global ι σ π) (Action ι ℓ κ) where
  initial := family.initial
  step := family.Step

/-- What a process must expect between two steps of its own. -/
inductive Interferes (family : Family ι σ π ℓ κ) (process : ι) (shared : σ) :
    Action ι ℓ κ → σ → Prop
  | other (mover : ι) (distinct : process ≠ mover) (label : ℓ) (own next : π) (after : σ)
      (acts : family.act shared own label after next) :
      Interferes family process shared (.own mover label) after
  | outside (label : κ) (after : σ) (changes : family.outside shared label after) :
      Interferes family process shared (.outside label) after

/-- Seen from one process, a step is its own or interference. -/
theorem step_cases {global next : Global ι σ π} {action : Action ι ℓ κ} (process : ι)
    (step : family.Step global action next) :
    (∃ label, action = .own process label ∧
      family.act global.shared (global.processes process) label next.shared
        (next.processes process)) ∨
      family.Interferes process global.shared action next.shared ∧
        next.processes process = global.processes process := by
  cases step with
  | own mover label shared after acts =>
      by_cases same : process = mover
      · subst same
        refine Or.inl ⟨label, rfl, ?_⟩
        simp only [Function.update_self]
        exact acts
      · exact Or.inr ⟨.other mover same label _ after shared acts, Function.update_of_ne same _ _⟩
  | outside label shared changes => exact Or.inr ⟨.outside label shared changes, rfl⟩

/-- A property of the shared state and one process, relative to the history:
the process keeps it, and the others cannot break it. -/
theorem process_invariant (process : ι) {P : List (Action ι ℓ κ) → σ → π → Prop}
    (initially : ∀ global, family.initial global → P [] global.shared (global.processes process))
    (acts : ∀ trace global label shared next, Run family.system trace global →
      P trace global.shared (global.processes process) →
      family.act global.shared (global.processes process) label shared next →
        P (trace ++ [.own process label]) shared next)
    (others : ∀ trace global action shared, Run family.system trace global →
      P trace global.shared (global.processes process) →
      family.Interferes process global.shared action shared →
        P (trace ++ [action]) shared (global.processes process))
    {trace : List (Action ι ℓ κ)} {global : Global ι σ π} (run : Run family.system trace global) :
    P trace global.shared (global.processes process) := by
  induction run with
  | start starts => exact initially _ starts
  | snoc before step ih =>
      rcases step_cases process step with ⟨label, rfl, own⟩ | ⟨interferes, kept⟩
      · exact acts _ _ label _ _ before ih own
      · rw [kept]
        exact others _ _ _ _ before ih interferes

/-- What a process is now, it became in the latest step of its own. -/
theorem exists_latest_step (process : ι) {trace : List (Action ι ℓ κ)} {global : Global ι σ π}
    (run : Run family.system trace global) :
    (∃ start, family.initial start ∧ global.processes process = start.processes process) ∨
      ∃ earlier label since before after, trace = earlier ++ .own process label :: since ∧
        (∀ other, .own process other ∉ since) ∧ Run family.system earlier before ∧
        family.act before.shared (before.processes process) label after.shared
          (global.processes process) ∧
        Leads family.system after since global := by
  induction run with
  | start starts => exact Or.inl ⟨_, starts, rfl⟩
  | @snoc trace state next action run step ih =>
      rcases step_cases process step with ⟨label, rfl, own⟩ | ⟨interferes, kept⟩
      · exact Or.inr ⟨trace, label, [], state, next, rfl, fun _ => List.not_mem_nil, run, own,
          Leads.refl⟩
      · rw [kept]
        rcases ih with unmoved | ⟨earlier, label, since, before, after, split, idle, start, own,
          path⟩
        · exact Or.inl unmoved
        · refine Or.inr ⟨earlier, label, since ++ [action], before, after, ?_, ?_, start, own,
            path.snoc step⟩
          · rw [split, List.append_assoc]
            rfl
          · intro other member
            rcases List.mem_append.mp member with before | latest
            · exact idle other before
            · obtain rfl := List.mem_singleton.mp latest
              cases interferes with
              | other _ distinct _ _ _ _ _ => exact distinct rfl

/-- From a state on, a process stays as it is until its first step. -/
theorem exists_first_step (process : ι) {trace : List (Action ι ℓ κ)} {first last : Global ι σ π}
    (path : Leads family.system first trace last) :
    ((∀ label, .own process label ∉ trace) ∧
        last.processes process = first.processes process) ∨
      ∃ idle label rest before after, trace = idle ++ .own process label :: rest ∧
        (∀ other, .own process other ∉ idle) ∧ Leads family.system first idle before ∧
        family.system.step before (.own process label) after ∧
        family.act before.shared (first.processes process) label after.shared
          (after.processes process) ∧
        Leads family.system after rest last := by
  induction path with
  | refl => exact Or.inl ⟨fun _ => List.not_mem_nil, rfl⟩
  | @snoc trace state next action path step ih =>
      rcases ih with ⟨idle, unmoved⟩ | ⟨idle, label, rest, before, after, split, still, start, own,
        acts, later⟩
      · rcases step_cases process step with ⟨label, rfl, own⟩ | ⟨interferes, kept⟩
        · rw [unmoved] at own
          exact Or.inr ⟨trace, label, [], state, next, rfl, idle, path, step, own, Leads.refl⟩
        · refine Or.inl ⟨fun label member => ?_, kept.trans unmoved⟩
          rcases List.mem_append.mp member with earlier | latest
          · exact idle label earlier
          · obtain rfl := List.mem_singleton.mp latest
            cases interferes with
            | other _ distinct _ _ _ _ _ => exact distinct rfl
      · refine Or.inr ⟨idle, label, rest ++ [action], before, after, ?_, still, start, own, acts,
          later.snoc step⟩
        rw [split, List.append_assoc]
        rfl

/-- A process stands where it stood on a path that holds no step of it. -/
theorem unmoved_of_idle {process : ι} {trace : List (Action ι ℓ κ)} {first last : Global ι σ π}
    (path : Leads family.system first trace last) (idle : ∀ label, .own process label ∉ trace) :
    last.processes process = first.processes process := by
  rcases exists_first_step process path with ⟨_, unmoved⟩ | ⟨before, label, rest, _, _, rfl, _⟩
  · exact unmoved
  · exact absurd (List.mem_append_right _ List.mem_cons_self) (idle label)

/-! ## One process at a time -/

/-- A move, with an allowed label, of one process that is left alone with the
shared state. -/
def Moves (family : Family ι σ π ℓ κ) (allowed : ℓ → Prop) (first second : σ × π) : Prop :=
  ∃ label, allowed label ∧ family.act first.1 first.2 label second.1 second.2

/-- A step of the process that moved last. -/
theorem step_again (family : Family ι σ π ℓ κ) (processes : ι → π) (process : ι)
    {shared next : σ} {own after : π} {label : ℓ}
    (acts : family.act shared own label next after) :
    family.system.step ⟨shared, Function.update processes process own⟩ (.own process label)
      ⟨next, Function.update processes process after⟩ := by
  have again : family.act shared (Function.update processes process own process) label next
      after := by
    rw [Function.update_self]
    exact acts
  have moved : family.Step ⟨shared, Function.update processes process own⟩
      (.own process label) _ := .own process label next after again
  rwa [Function.update_idem] at moved

/-- The moves of one process alone are a path of the whole. -/
theorem leads_of_moves {global : Global ι σ π} (process : ι) {allowed : ℓ → Prop} {last : σ × π}
    (moves : Relation.ReflTransGen (family.Moves allowed)
      (global.shared, global.processes process) last) :
    ∃ trace, Leads family.system global trace
        ⟨last.1, Function.update global.processes process last.2⟩ ∧
      ∀ action ∈ trace, ∃ label, action = .own process label ∧ allowed label := by
  induction moves with
  | refl => exact ⟨[], by rw [Function.update_eq_self]; exact Leads.refl, nofun⟩
  | @tail middle last _ move ih =>
      obtain ⟨trace, path, sole⟩ := ih
      obtain ⟨label, permitted, step⟩ := move
      have moved := step_again family global.processes process step
      refine ⟨trace ++ [.own process label], Leads.snoc path moved, ?_⟩
      intro action member
      rcases List.mem_append.mp member with earlier | latest
      · exact sole action earlier
      · exact ⟨label, List.mem_singleton.mp latest, permitted⟩

/-- Where each process can be brought to something lasting without touching the
private states of the others, all can, one after the other. -/
theorem leads_each [Finite ι] {P : π → Prop} {allowed : Action ι ℓ κ → Prop}
    (each : ∀ process trace global, Run family.system trace global →
      ∃ path last, Leads family.system global path last ∧ P (last.processes process) ∧
        (∀ other, other ≠ process → last.processes other = global.processes other) ∧
        ∀ action ∈ path, allowed action)
    {trace : List (Action ι ℓ κ)} {global : Global ι σ π} (run : Run family.system trace global) :
    ∃ path last, Leads family.system global path last ∧ (∀ process, P (last.processes process)) ∧
      ∀ action ∈ path, allowed action := by
  have brought : ∀ todo : Set ι, todo.Finite → ∃ path last, Leads family.system global path last ∧
      (∀ process ∈ todo, P (last.processes process)) ∧ ∀ action ∈ path, allowed action := by
    intro todo finite
    induction todo, finite using Set.Finite.induction_on with
    | empty => exact ⟨[], global, Leads.refl, nofun, nofun⟩
    | @insert process todo absent _ ih =>
        obtain ⟨before, middle, path, good, quiet⟩ := ih
        obtain ⟨after, last, rest, settled, others, still⟩ :=
          each process _ middle (run.append path)
        refine ⟨before ++ after, last, path.append rest, ?_, ?_⟩
        · rintro other (rfl | earlier)
          · exact settled
          · rw [others other fun same => absent (same ▸ earlier)]
            exact good other earlier
        · intro action member
          rcases List.mem_append.mp member with earlier | later
          · exact quiet action earlier
          · exact still action later
  obtain ⟨path, last, leads, good, quiet⟩ := brought Set.univ Set.finite_univ
  exact ⟨path, last, leads, fun process => good process (Set.mem_univ process), quiet⟩

/-! ## Sums over the processes -/

variable [Fintype ι]

/-- Where one process moves, a sum changes by that process's part alone. -/
theorem sum_update (measure : π → Nat) (processes : ι → π) (mover : ι) (next : π) :
    ∑ process, measure (Function.update processes mover next process) +
        measure (processes mover) =
      ∑ process, measure (processes process) + measure next := by
  rw [← Finset.add_sum_erase _ _ (Finset.mem_univ mover), Function.update_self,
    ← Finset.add_sum_erase _ (fun process => measure (processes process)) (Finset.mem_univ mover)]
  have others : ∑ process ∈ Finset.univ.erase mover,
      measure (Function.update processes mover next process) =
        ∑ process ∈ Finset.univ.erase mover, measure (processes process) := by
    refine Finset.sum_congr rfl fun process member => ?_
    rw [Function.update_of_ne (Finset.ne_of_mem_erase member)]
  rw [others]
  omega

end Family

end RideHailing.Transition
