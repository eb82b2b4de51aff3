import RideHailing.Transition.Labelled
import Mathlib.Data.Option.Defs

/-!
# State that outlives its process

A process saves its state when it stops and starts again from what is stored.  It
may be stopped in the middle of its work, and saving may fail, which leaves the
stored state as it was or spoils it.  Beside the state stands the history that it
remembers, which is stored and restored in the same way; what a single lifetime
keeps of the two, and what of it a stop leaves, holds across all restarts.
-/

namespace RideHailing.Transition

universe u v

variable {σ : Type u} {ℓ : Type v}

/-- What becomes of the stored state when the process stops. -/
inductive Saving
  | kept
  | spoiled
  | saved
  deriving DecidableEq

def Saving.store {α : Type*} (saving : Saving) (current : α) (stored : Option α) : Option α :=
  match saving with
  | .kept => stored
  | .spoiled => none
  | .saved => some current

/-- What is stored stays related when what is current is. -/
theorem Saving.store_related {α β : Type*} {R : α → β → Prop} (saving : Saving) {current : α}
    {current' : β} {stored : Option α} {stored' : Option β} (related : R current current')
    (behind : Option.Rel R stored stored') :
    Option.Rel R (saving.store current stored) (saving.store current' stored') := by
  cases saving with
  | kept => exact behind
  | spoiled => exact .none
  | saved => exact .some related

/-- How a process starts afresh, works, is stopped in the middle of its work, and
starts from a stored state. -/
structure Durable (σ : Type u) (ℓ : Type v) where
  fresh : σ → Prop
  work : σ → ℓ → σ → Prop
  cut : σ → ℓ → σ → Prop
  resume : σ → σ → Prop

/-- Something current beside what is stored of it. -/
structure Lifetime (α : Type u) where
  live : α
  stored : Option α

/-- The process works, or is stopped and started again; the stop may cut some work
short. -/
inductive Turn (ℓ : Type v)
  | worked (label : ℓ)
  | restarted (short : Option ℓ) (saving : Saving)

namespace Durable

variable (durable : Durable σ ℓ)

/-- What a stop leaves of a state. -/
inductive Leaves (state : σ) : Option ℓ → σ → Prop
  | whole : Leaves state none state
  | cut (label : ℓ) (left : σ) (cuts : durable.cut state label left) :
      Leaves state (some label) left

inductive Step (lifetime : Lifetime σ) : Turn ℓ → Lifetime σ → Prop
  | work (label : ℓ) (next : σ) (works : durable.work lifetime.live label next) :
      Step lifetime (.worked label) { lifetime with live := next }
  | resume (short : Option ℓ) (saving : Saving) (left saved next : σ)
      (leaves : durable.Leaves lifetime.live short left)
      (found : saving.store left lifetime.stored = some saved)
      (resumes : durable.resume saved next) :
      Step lifetime (.restarted short saving) ⟨next, some saved⟩
  | fresh (short : Option ℓ) (saving : Saving) (left next : σ)
      (leaves : durable.Leaves lifetime.live short left)
      (missing : saving.store left lifetime.stored = none)
      (starts : durable.fresh next) :
      Step lifetime (.restarted short saving) ⟨next, none⟩

def system : System (Lifetime σ) (Turn ℓ) where
  initial lifetime := durable.fresh lifetime.live ∧ lifetime.stored = none
  step := durable.Step

end Durable

/-! ## What is remembered -/

def remember (memory : Lifetime (List ℓ)) : Turn ℓ → Lifetime (List ℓ)
  | .worked label => { memory with live := memory.live ++ [label] }
  | .restarted short saving =>
      let stored := saving.store (memory.live ++ short.toList) memory.stored
      ⟨stored.getD [], stored⟩

/-- The labels that led to the current state since the last fresh start, and
those that led to the stored one. -/
def remembered (trace : List (Turn ℓ)) : Lifetime (List ℓ) :=
  trace.foldl remember ⟨[], none⟩

theorem remembered_snoc (trace : List (Turn ℓ)) (turn : Turn ℓ) :
    remembered (trace ++ [turn]) = remember (remembered trace) turn := by
  rw [remembered, List.foldl_append]
  rfl

/-- The work of a turn. -/
def Turn.labels : Turn ℓ → List ℓ
  | .worked label => [label]
  | .restarted short _ => short.toList

/-- Where every stop saves, nothing is ever forgotten. -/
theorem remembered_of_saved {trace : List (Turn ℓ)}
    (saves : ∀ short saving, .restarted short saving ∈ trace → saving = .saved) :
    (remembered trace).live = trace.flatMap Turn.labels := by
  induction trace using List.reverseRecOn with
  | nil => rfl
  | append_singleton trace turn ih =>
      have before :=
        ih fun short saving member => saves short saving (List.mem_append_left _ member)
      rw [remembered_snoc, List.flatMap_append, List.flatMap_singleton, ← before]
      cases turn with
      | worked label => rfl
      | restarted short saving =>
          obtain rfl := saves short saving (List.mem_append_right _ (List.mem_singleton_self _))
          rfl

/-- What a stop leaves of a state, beside the history with what was cut short. -/
theorem Durable.Leaves.related {durable : Durable σ ℓ} {P Q : List ℓ → σ → Prop}
    {state left : σ} {short : Option ℓ} {history : List ℓ}
    (leaves : durable.Leaves state short left)
    (whole : ∀ history state, P history state → Q history state)
    (cut : ∀ history state label left, P history state → durable.cut state label left →
      Q (history ++ [label]) left)
    (holds : P history state) : Q (history ++ short.toList) left := by
  cases leaves with
  | whole =>
      rw [Option.toList_none, List.append_nil]
      exact whole _ _ holds
  | cut label _ cuts => exact cut _ _ _ _ holds cuts

/-- A relation between history and state that holds of fresh states, that work keeps
and that resumption regains from what a stop leaves of it, holds across all
restarts. -/
theorem Durable.invariant {durable : Durable σ ℓ} {P Q : List ℓ → σ → Prop}
    (fresh : ∀ state, durable.fresh state → P [] state)
    (work : ∀ history state label next, P history state → durable.work state label next →
      P (history ++ [label]) next)
    (whole : ∀ history state, P history state → Q history state)
    (cut : ∀ history state label left, P history state → durable.cut state label left →
      Q (history ++ [label]) left)
    (resume : ∀ history saved next, Q history saved → durable.resume saved next →
      P history next)
    {trace : List (Turn ℓ)} {lifetime : Lifetime σ} (run : Run durable.system trace lifetime) :
    P (remembered trace).live lifetime.live ∧
      Option.Rel Q (remembered trace).stored lifetime.stored := by
  induction run with
  | start starts =>
      obtain ⟨begins, empty⟩ := starts
      rw [empty]
      exact ⟨fresh _ begins, .none⟩
  | @snoc trace lifetime next turn _ step ih =>
      obtain ⟨current, behind⟩ := ih
      rw [remembered_snoc]
      cases step with
      | work label after works => exact ⟨work _ _ _ _ current works, behind⟩
      | resume short saving left saved after leaves found resumes =>
          have stored := saving.store_related (leaves.related whole cut current) behind
          rw [found] at stored
          rw [remember]
          generalize saving.store ((remembered trace).live ++ short.toList)
            (remembered trace).stored = history at stored
          cases stored with
          | some holds => exact ⟨resume _ _ _ holds resumes, .some holds⟩
      | fresh short saving left after leaves missing starts =>
          have stored := saving.store_related (leaves.related whole cut current) behind
          rw [missing] at stored
          rw [remember]
          generalize saving.store ((remembered trace).live ++ short.toList)
            (remembered trace).stored = history at stored
          cases stored with
          | none => exact ⟨fresh _ starts, .none⟩

end RideHailing.Transition
