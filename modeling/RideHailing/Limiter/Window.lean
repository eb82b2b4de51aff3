import Mathlib.Data.List.Basic
import Mathlib.Data.List.Induction
import Mathlib.Order.Basic

/-!
# Fixed-window counters

A fixed-window counter keeps two words, the latest window and the number of
requests seen in it, and starts over whenever a request comes with another
window.  As long as the windows of the requests never go back, these two words
know the number of earlier requests in the current window for the whole history.
-/

namespace RideHailing.Limiter

universe u

variable {τ : Type u}

/-- The latest window and the number of requests within it. -/
structure Window (τ : Type u) where
  latest : τ
  requests : Nat
  deriving DecidableEq

namespace Window

variable [DecidableEq τ]

/-- Count one more request. -/
def record (window : Window τ) (now : τ) : Window τ :=
  if window.latest = now then { window with requests := window.requests + 1 }
  else { latest := now, requests := 1 }

/-- Count all requests of a history, oldest first. -/
def replay (start : Window τ) (history : List τ) : Window τ :=
  history.foldl record start

theorem replay_snoc (start : Window τ) (history : List τ) (now : τ) :
    start.replay (history ++ [now]) = (start.replay history).record now := by
  rw [replay, List.foldl_append]
  rfl

@[simp]
theorem record_latest (window : Window τ) (now : τ) : (window.record now).latest = now := by
  rw [record]
  split
  next same => exact same
  next => rfl

variable [PartialOrder τ]

/-- The two words account for a history: none of its requests is later than the
latest window, and those of the latest window are counted. -/
structure Tracks (history : List τ) (window : Window τ) : Prop where
  past : ∀ reading ∈ history, reading ≤ window.latest
  seen : history ≠ [] → window.latest ∈ history
  counted : window.requests = history.count window.latest

/-- An empty counter accounts for the empty history. -/
theorem tracks_nil {window : Window τ} (empty : window.requests = 0) : Tracks [] window where
  past := nofun
  seen := absurd rfl
  counted := empty

variable {history : List τ} {window : Window τ} {now : τ}

/-- A window that the history has not reached yet has no requests in it. -/
theorem Tracks.count_of_ne (tracks : Tracks history window)
    (ordered : ∀ reading ∈ history, reading ≤ now) (other : window.latest ≠ now) :
    history.count now = 0 := by
  apply List.count_eq_zero_of_not_mem
  intro member
  have nonempty : history ≠ [] := List.ne_nil_of_mem member
  have before : window.latest ≤ now := ordered _ (tracks.seen nonempty)
  exact other (le_antisymm before (tracks.past now member))

/-- After one more request the count is that of the history and the request
itself. -/
theorem Tracks.requests_record (tracks : Tracks history window)
    (ordered : ∀ reading ∈ history, reading ≤ now) :
    (window.record now).requests = history.count now + 1 := by
  rw [record]
  split
  next same => rw [tracks.counted, same]
  next other => rw [tracks.count_of_ne ordered other]

theorem Tracks.record (tracks : Tracks history window)
    (ordered : ∀ reading ∈ history, reading ≤ now) :
    Tracks (history ++ [now]) (window.record now) := by
  have counted := tracks.requests_record ordered
  constructor
  · intro reading member
    rw [record_latest]
    rcases List.mem_append.mp member with earlier | last
    · exact ordered reading earlier
    · exact le_of_eq (List.mem_singleton.mp last)
  · intro _
    rw [record_latest]
    exact List.mem_append_right _ (List.mem_singleton_self now)
  · rw [counted, record_latest, List.count_append, List.count_singleton_self]

/-- A counter that replays an ordered history accounts for it. -/
theorem tracks_replay (start : Window τ) (empty : start.requests = 0)
    (ordered : history.Pairwise (· ≤ ·)) : Tracks history (start.replay history) := by
  induction history using List.reverseRecOn with
  | nil => exact tracks_nil empty
  | append_singleton history now ih =>
      obtain ⟨before, -, last⟩ := List.pairwise_append.mp ordered
      rw [replay_snoc]
      apply (ih before).record
      intro reading member
      exact last reading member now (List.mem_singleton_self now)

/-- The count after a request at the end of an ordered history. -/
theorem requests_replay_snoc (start : Window τ) (empty : start.requests = 0)
    (ordered : (history ++ [now]).Pairwise (· ≤ ·)) :
    (start.replay (history ++ [now])).requests = history.count now + 1 := by
  obtain ⟨before, -, last⟩ := List.pairwise_append.mp ordered
  rw [replay_snoc]
  apply (tracks_replay start empty before).requests_record
  intro reading member
  exact last reading member now (List.mem_singleton_self now)

end Window

end RideHailing.Limiter
