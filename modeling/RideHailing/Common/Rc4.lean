import RideHailing.Arithmetic.Machine
import RideHailing.Bytes.Region
import RideHailing.Cipher.Keystream
import RideHailing.Common.Crypto
import RideHailing.Loop.Counted
import Mathlib.Data.UInt

/-!
# RC4

`rc4_crypt` schedules its key from scratch on every call and then combines the
data in place with the generated bytes.  Its output loop is an instance of the
generic additive cipher.  The function traps on an empty key, leaves its state
array when a negative key character drives the index below zero, and faults
when it stores into a read-only object.
-/

namespace RideHailing.Common

open RideHailing.Arithmetic
open RideHailing.Bytes
open RideHailing.Cipher
open RideHailing.Loop

/-- The permutation array and the two indices of the output loop. -/
structure Rc4State where
  S : Vector UInt8 256
  i : Fin 256
  j : Fin 256

/-- The value of a plain `char`, which is signed. -/
def signedChar (character : UInt8) : Int :=
  (character.toNat : Int).bmod 256

/-- The assignment to `j` in the key-scheduling loop. -/
def ksaIndex (j : Int) (entry character : UInt8) : Int :=
  (j + entry.toNat + signedChar character).tmod 256

/-- One iteration of the key-scheduling loop over the array and `j`. -/
def ksaStep (key : CString) (i : Nat) (state : Vector UInt8 256 × Int) :
    Option (Vector UInt8 256 × Int) := do
  let row ← checkedIndex 256 i
  -- `i % key_len` divides by zero exactly when the key is empty
  let character ← key[i % key.length]?
  let j := ksaIndex state.2 state.1[row] character
  let column ← checkedIndex 256 j
  return (state.1.swap row column, j)

/-- Key scheduling: the state in which the output loop starts. -/
def keySchedule (key : CString) : Option Rc4State :=
  (countedLoop (ksaStep key) 256 (Vector.ofFn fun i => UInt8.ofNat i.val, 0)).map
    fun result => { S := result.1, i := 0, j := 0 }

/-- One iteration of the output loop: the next keystream byte and state. -/
def prgaStep (state : Rc4State) : UInt8 × Rc4State :=
  let i := state.i + 1
  let j := state.j + Fin.ofNat 256 state.S[i].toNat
  let S := state.S.swap i j
  (S[Fin.ofNat 256 (S[i].toNat + S[j].toNat)], { S, i, j })

/-- The variables of the output loop. -/
structure OutputState (size : Nat) where
  data : Region size
  S : Vector UInt8 256
  i : Int
  j : Int

/-- The same iteration as it is written: with checked indices and the data
transformed in place. -/
def outputStep {size : Nat} (n : Nat) (state : OutputState size) : Option (OutputState size) := do
  let i := (state.i + 1).tmod 256
  let row ← checkedIndex 256 i
  let j := (state.j + state.S[row].toNat).tmod 256
  let column ← checkedIndex 256 j
  let S := state.S.swap row column
  let entry ← checkedIndex 256 (((S[row].toNat : Int) + S[column].toNat).tmod 256)
  let position ← checkedIndex size n
  let byte ← state.data.bytes[position.val]?
  if state.data.writable then
    return { data := state.data.set position (byte ^^^ S[entry]), S, i, j }
  else none

/-- The bytes produced from a scheduled key. -/
def rc4Encrypt (start : Rc4State) (data : List UInt8) : List UInt8 :=
  encrypt (· ^^^ ·) prgaStep start data

/-- `rc4_crypt`: transform the first `len` bytes of an object in place. -/
def rc4Crypt {n : Nat} (data : Region n) (len : Nat) (key : CString) :
    Option (Region n) :=
  (keySchedule key).bind fun start =>
    if len = 0 then some data
    else if data.writable then some (data.write (rc4Encrypt start (data.bytes.take len)))
    else none

/-! ## Keys -/

/-- A key that the scheduling loop can process: nonempty and ASCII. -/
def ValidKey (key : CString) : Prop :=
  key ≠ [] ∧ ∀ character ∈ key, 1 ≤ character.toNat ∧ character.toNat ≤ 127

theorem signedChar_of_le {character : UInt8} (small : character.toNat ≤ 127) :
    signedChar character = character.toNat :=
  Int.bmod_eq_of_le (by omega) (by omega)

theorem ksaIndex_range {j : Int} (nonneg : 0 ≤ j) (entry : UInt8) {character : UInt8}
    (small : character.toNat ≤ 127) :
    0 ≤ ksaIndex j entry character ∧ ksaIndex j entry character < 256 := by
  rw [ksaIndex, signedChar_of_le small]
  exact ⟨Int.tmod_nonneg _ (by omega), Int.tmod_lt_of_pos _ (by norm_num)⟩

/-- On a valid key the index stays inside the array. -/
theorem ksaStep_of_valid {key : CString} (valid : ValidKey key) {i : Nat} (small : i < 256)
    {state : Vector UInt8 256 × Int} (nonneg : 0 ≤ state.2) :
    ∃ next, ksaStep key i state = some next ∧ 0 ≤ next.2 := by
  have nonempty : 0 < key.length := List.length_pos_of_ne_nil valid.1
  have position : i % key.length < key.length := Nat.mod_lt i nonempty
  have range := ksaIndex_range nonneg state.1[i] (valid.2 _ (List.getElem_mem position)).2
  obtain ⟨column, column_eq⟩ := Int.eq_ofNat_of_zero_le range.1
  have inside : column < 256 := by omega
  refine ⟨(state.1.swap i column, column), ?_, Int.natCast_nonneg column⟩
  simp only [ksaStep, checkedIndex_natCast small, List.getElem?_eq_getElem position,
    Option.bind_eq_bind, Option.bind_some, Fin.getElem_fin, column_eq,
    checkedIndex_natCast inside]
  rfl

/-- A valid key can be scheduled. -/
theorem keySchedule_of_valid {key : CString} (valid : ValidKey key) :
    ∃ start, keySchedule key = some start := by
  have loop : ∃ result, countedLoop (ksaStep key) 256
      (Vector.ofFn fun i => UInt8.ofNat i.val, 0) = some result ∧ 0 ≤ result.2 :=
    countedLoop_total (P := fun _ (state : Vector UInt8 256 × Int) => 0 ≤ state.2) (Int.le_refl 0)
      (fun i small state nonneg => ksaStep_of_valid valid small nonneg)
  obtain ⟨result, finished, -⟩ := loop
  exact ⟨_, by rw [keySchedule, finished]; rfl⟩

/-- The empty key traps in the first iteration. -/
theorem keySchedule_nil : keySchedule [] = none := by
  have fails : countedLoop (ksaStep []) 256
      (Vector.ofFn fun i => UInt8.ofNat i.val, 0) = none :=
    countedLoop_eq_none (i := 0) (by norm_num) (fun before => by simp [ksaStep])
  rw [keySchedule, fails]
  rfl

/-- Every derived session key is valid. -/
theorem deriveSessionKey_valid (sharedSecret : Int) :
    ValidKey (deriveSessionKey sharedSecret 64) := by
  have constants : ∀ constant ∈ [ascii "KEY_", ascii "_SECURE"], ∀ character ∈ constant,
      1 ≤ character.toNat ∧ character.toNat ≤ 127 := by
    simp [ascii]
  constructor
  · intro empty
    have nonempty : ascii "KEY_" ≠ [] := by decide
    rcases List.take_eq_nil_iff.mp empty with impossible | noText
    · exact absurd impossible (by decide)
    · rw [List.append_assoc] at noText
      exact nonempty (List.append_eq_nil_iff.mp noText).1
  · intro character member
    rcases List.mem_append.mp (List.mem_of_mem_take member) with start | suffix
    · rcases List.mem_append.mp start with constant | digits
      · exact constants _ (by simp) character constant
      · exact printDecimal_ascii digits
    · exact constants _ (by simp) character suffix

theorem keySchedule_deriveSessionKey (sharedSecret : Int) :
    ∃ start, keySchedule (deriveSessionKey sharedSecret 64) = some start :=
  keySchedule_of_valid (deriveSessionKey_valid sharedSecret)

/-! ## Encryption -/

@[simp]
theorem length_rc4Encrypt (start : Rc4State) (data : List UInt8) :
    (rc4Encrypt start data).length = data.length :=
  length_encrypt _ _ start data

/-- Decryption is encryption. -/
@[simp]
theorem rc4Encrypt_rc4Encrypt (start : Rc4State) (data : List UInt8) :
    rc4Encrypt start (rc4Encrypt start data) = data :=
  encrypt_encrypt _ _ (fun symbol key => by rw [UInt8.xor_assoc, UInt8.xor_self, UInt8.xor_zero])
    start data

/-- Two messages under one key: their ciphertexts differ where they do. -/
theorem zipWith_rc4Encrypt (start : Rc4State) (first second : List UInt8) :
    List.zipWith (· ^^^ ·) (rc4Encrypt start first) (rc4Encrypt start second) =
      List.zipWith (· ^^^ ·) first second := by
  apply zipWith_encrypt_encrypt
  intro one other key
  rw [UInt8.xor_assoc, UInt8.xor_comm other key, ← UInt8.xor_assoc key, UInt8.xor_self,
    UInt8.zero_xor]

/-- In a writable object exactly the first `len` bytes are transformed. -/
theorem rc4Crypt_eq_some {n len : Nat} {data : Region n} {key : CString}
    {start : Rc4State} (scheduled : keySchedule key = some start)
    (writable : data.writable = true) :
    rc4Crypt data len key =
      some (data.write (rc4Encrypt start (data.bytes.take len))) := by
  rw [rc4Crypt, scheduled, Option.bind_some]
  by_cases zero : len = 0
  · simp [zero, rc4Encrypt]
  · rw [if_neg zero, if_pos writable]

/-- A call that returns has scheduled its key and transformed the first `len`
bytes. -/
theorem rc4Crypt_take {n len : Nat} {data result : Region n} {key : CString} (within : len ≤ n)
    (success : rc4Crypt data len key = some result) :
    ∃ start, keySchedule key = some start ∧
      result.bytes.take len = rc4Encrypt start (data.bytes.take len) := by
  rcases Option.bind_eq_some_iff.mp success with ⟨start, scheduled, transformed⟩
  refine ⟨start, scheduled, ?_⟩
  by_cases zero : len = 0
  · rw [zero, List.take_zero, List.take_zero]
    rfl
  · rw [if_neg zero] at transformed
    by_cases writable : data.writable = true
    · rw [if_pos writable] at transformed
      cases transformed
      have size : (rc4Encrypt start (data.bytes.take len)).length = len := by
        rw [length_rc4Encrypt, List.length_take, data.length_eq, Nat.min_eq_left within]
      have stored := data.take_bytes_write (size.le.trans within)
      rwa [size] at stored
    · rw [if_neg writable] at transformed
      cases transformed

/-- Whatever the key, no byte of a read-only object can be encrypted. -/
theorem rc4Crypt_readOnly {n len : Nat} {data : Region n} (positive : len ≠ 0)
    (readOnly : data.writable = false) (key : CString) :
    rc4Crypt data len key = none := by
  rw [rc4Crypt]
  cases keySchedule key with
  | none => rfl
  | some start => simp [positive, readOnly]

end RideHailing.Common
