import Mathlib.Data.List.Basic
import Mathlib.Data.List.Zip

/-!
# Additive stream ciphers

A keystream generator is a state machine with one output symbol per step.  The
cipher combines the message with the generated symbols position by position.
Everything here holds for an arbitrary generator and an arbitrary combining
operation; the two algebraic laws that a proof needs are stated with it.
-/

namespace RideHailing.Cipher

universe u v

variable {σ : Type u} {α : Type v}

/-- The symbol that a generator outputs at a position. -/
def keystreamAt (next : σ → α × σ) : Nat → σ → α
  | 0, state => (next state).1
  | n + 1, state => keystreamAt next n (next state).2

/-- The first symbols of a keystream. -/
def keystream (next : σ → α × σ) : Nat → σ → List α
  | 0, _ => []
  | n + 1, state => (next state).1 :: keystream next n (next state).2

/-- Combine a message with the keystream that starts in a state. -/
def encrypt (combine : α → α → α) (next : σ → α × σ) : σ → List α → List α
  | _, [] => []
  | state, symbol :: message =>
      combine symbol (next state).1 :: encrypt combine next (next state).2 message

@[simp]
theorem length_keystream (next : σ → α × σ) (n : Nat) (state : σ) :
    (keystream next n state).length = n := by
  induction n generalizing state with
  | zero => rfl
  | succ n ih => simp [keystream, ih]

/-- The state of the generator after a number of symbols. -/
def advance (next : σ → α × σ) : Nat → σ → σ
  | 0, state => state
  | n + 1, state => advance next n (next state).2

theorem advance_succ (next : σ → α × σ) (n : Nat) (state : σ) :
    advance next (n + 1) state = (next (advance next n state)).2 := by
  induction n generalizing state with
  | zero => rfl
  | succ n ih => exact ih (next state).2

/-- A longer keystream continues a shorter one. -/
theorem keystream_add (next : σ → α × σ) (m n : Nat) (state : σ) :
    keystream next (m + n) state =
      keystream next m state ++ keystream next n (advance next m state) := by
  induction m generalizing state with
  | zero => rw [Nat.zero_add, keystream, List.nil_append, advance]
  | succ m ih => rw [Nat.succ_add, keystream, ih, keystream, List.cons_append, advance]

theorem keystream_prefix (next : σ → α × σ) {m n : Nat} (shorter : m ≤ n) (state : σ) :
    keystream next m state <+: keystream next n state := by
  obtain ⟨more, rfl⟩ := Nat.exists_eq_add_of_le shorter
  rw [keystream_add]
  exact List.prefix_append _ _

variable (combine : α → α → α) (next : σ → α × σ)

@[simp]
theorem encrypt_nil (state : σ) : encrypt combine next state [] = [] :=
  rfl

/-- The keystream used depends on the length of the message only. -/
theorem encrypt_eq_zipWith (state : σ) (message : List α) :
    encrypt combine next state message =
      List.zipWith combine message (keystream next message.length state) := by
  induction message generalizing state with
  | nil => rfl
  | cons symbol message ih => simp [encrypt, keystream, ih]

@[simp]
theorem length_encrypt (state : σ) (message : List α) :
    (encrypt combine next state message).length = message.length := by
  rw [encrypt_eq_zipWith, List.length_zipWith, length_keystream, Nat.min_self]

/-- The next message symbol is combined with the next keystream symbol. -/
theorem encrypt_snoc (state : σ) (message : List α) (symbol : α) :
    encrypt combine next state (message ++ [symbol]) =
      encrypt combine next state message ++
        [combine symbol (next (advance next message.length state)).1] := by
  induction message generalizing state with
  | nil => rfl
  | cons first message ih =>
      rw [List.cons_append, encrypt, ih, encrypt, List.cons_append, List.length_cons, advance]

/-- The ciphertext symbol at a position is the message symbol there combined
with the keystream symbol of that position. -/
theorem getElem?_encrypt (state : σ) (message : List α) (position : Nat) :
    (encrypt combine next state message)[position]? =
      message[position]?.map fun symbol =>
        combine symbol (keystreamAt next position state) := by
  induction message generalizing state position with
  | nil => rfl
  | cons symbol message ih =>
      cases position with
      | zero => rfl
      | succ position => exact ih (next state).2 position

/-- The ciphertext is the message combined with the keystream from a position
on. -/
def EncryptedFrom (start : σ) (offset : Nat) (message ciphertext : List α) : Prop :=
  ∀ position, ciphertext[position]? = message[position]?.map fun symbol =>
    combine symbol (keystreamAt next (offset + position) start)

/-- Encryption starts at the beginning of the keystream, every time. -/
theorem encryptedFrom_encrypt (state : σ) (message : List α) :
    EncryptedFrom combine next state 0 message (encrypt combine next state message) := by
  intro position
  rw [getElem?_encrypt, Nat.zero_add]

/-- However their positions in a keystream are chosen, two messages have none
in common. -/
def DisjointPositions (start : σ) (first firstCiphertext second secondCiphertext : List α) : Prop :=
  ∀ firstOffset secondOffset,
    EncryptedFrom combine next start firstOffset first firstCiphertext →
    EncryptedFrom combine next start secondOffset second secondCiphertext →
    firstOffset + first.length ≤ secondOffset ∨ secondOffset + second.length ≤ firstOffset

/-- Two nonempty messages that were encrypted from the same state share
positions. -/
theorem not_disjointPositions_encrypt (state : σ) {first second : List α} (some : first ≠ [])
    (other : second ≠ []) :
    ¬ DisjointPositions combine next state first (encrypt combine next state first) second
      (encrypt combine next state second) := by
  intro disjoint
  have firstPositive := List.length_pos_of_ne_nil some
  have secondPositive := List.length_pos_of_ne_nil other
  have apart := disjoint 0 0 (encryptedFrom_encrypt combine next state first)
    (encryptedFrom_encrypt combine next state second)
  omega

/-- Encrypting twice from the same state restores the message when combining
twice with one symbol is the identity. -/
theorem encrypt_encrypt (undo : ∀ symbol key, combine (combine symbol key) key = symbol)
    (state : σ) (message : List α) :
    encrypt combine next state (encrypt combine next state message) = message := by
  induction message generalizing state with
  | nil => rfl
  | cons symbol message ih => simp [encrypt, undo, ih]

/-- Two messages encrypted from the same state: combining the ciphertexts
cancels the keystream and leaves the combination of the messages. -/
theorem zipWith_encrypt_encrypt
    (cancel : ∀ first second key,
      combine (combine first key) (combine second key) = combine first second)
    (state : σ) (first second : List α) :
    List.zipWith combine (encrypt combine next state first)
        (encrypt combine next state second) =
      List.zipWith combine first second := by
  induction first generalizing state second with
  | nil => simp
  | cons symbol first ih =>
      cases second with
      | nil => simp
      | cons other second => simp [encrypt, cancel, ih]

end RideHailing.Cipher
