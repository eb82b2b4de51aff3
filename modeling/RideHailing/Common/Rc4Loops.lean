import RideHailing.Cipher.Permutation
import RideHailing.Common.Rc4

/-!
# The two loops of `rc4_crypt`

The loops as they are written: over `int` indices that are checked at every
access, and with the data transformed in place.  On a valid key no access leaves
its array, the state array lists every byte once after every iteration, and the
output loop is the stream cipher.
-/

namespace RideHailing.Common

open RideHailing.Bytes
open RideHailing.Cipher
open RideHailing.Loop

variable {size len n : Nat} {key : CString} {data : Region size}

/-- The state array before key scheduling. -/
def initialS : Vector UInt8 256 :=
  Vector.ofFn fun i => UInt8.ofNat i.val

/-- The array and the index `j` after the first iterations of key scheduling. -/
def ksaRun (key : CString) (n : Nat) : Option (Vector UInt8 256 × Int) :=
  countedLoop (ksaStep key) n (initialS, 0)

/-- The variables after the first iterations of the output loop. -/
def outputRun (data : Region size) (S : Vector UInt8 256) (n : Nat) :
    Option (OutputState size) :=
  countedLoop outputStep n { data, S, i := 0, j := 0 }

/-- `rc4_crypt`, loop by loop. -/
def rc4Loops (data : Region size) (len : Nat) (key : CString) : Option (Region size) :=
  (ksaRun key 256).bind fun scheduled =>
    (outputRun data scheduled.1 len).map OutputState.data

/-! ## Key scheduling -/

theorem listsOnce_initialS : ListsOnce initialS := by
  apply listsOnce_ofFn
  constructor
  · intro first second same
    have values := congrArg UInt8.toNat same
    rw [UInt8.toNat_ofNat_of_lt' first.isLt, UInt8.toNat_ofNat_of_lt' second.isLt] at values
    exact Fin.ext values
  · intro byte
    exact ⟨⟨byte.toNat, byte.toNat_lt⟩, UInt8.ofNat_toNat⟩

/-- What holds of the array and `j` between two iterations. -/
structure KsaInvariant (state : Vector UInt8 256 × Int) : Prop where
  once : ListsOnce state.1
  nonneg : 0 ≤ state.2
  inside : state.2 < 256

theorem ksaStep_invariant (valid : ValidKey key) {i : Nat} (small : i < 256)
    {state : Vector UInt8 256 × Int} (before : KsaInvariant state) :
    ∃ next, ksaStep key i state = some next ∧ KsaInvariant next := by
  have position : i % key.length < key.length :=
    Nat.mod_lt i (List.length_pos_of_ne_nil valid.1)
  obtain ⟨lower, upper⟩ :=
    ksaIndex_range before.nonneg state.1[i] (valid.2 _ (List.getElem_mem position)).2
  obtain ⟨column, column_eq⟩ := Int.eq_ofNat_of_zero_le lower
  have inside : column < 256 := by omega
  have swapped := before.once.swap ⟨i, small⟩ ⟨column, inside⟩
  refine ⟨(state.1.swap i column, column), ?_, swapped, Int.natCast_nonneg column, ?_⟩
  · simp only [ksaStep, checkedIndex_natCast small, List.getElem?_eq_getElem position,
      Option.bind_eq_bind, Option.bind_some, Fin.getElem_fin, column_eq,
      checkedIndex_natCast inside]
    rfl
  · exact Int.ofNat_lt.mpr inside

/-- Before and after every iteration of key scheduling. -/
theorem ksaRun_invariant (valid : ValidKey key) (within : n ≤ 256) :
    ∃ state, ksaRun key n = some state ∧ KsaInvariant state := by
  apply countedLoop_total (P := fun _ => KsaInvariant)
  · exact ⟨listsOnce_initialS, Int.le_refl 0, by norm_num⟩
  · intro i small before holds
    exact ksaStep_invariant valid (Nat.lt_of_lt_of_le small within) holds

theorem keySchedule_eq (key : CString) :
    keySchedule key = (ksaRun key 256).map fun result => { S := result.1, i := 0, j := 0 } :=
  rfl

/-! ## The output loop -/

/-- C's remainder of a number that is not negative, as an index of the array. -/
theorem natCast_tmod (value : Nat) :
    (value : Int).tmod 256 = ((Fin.ofNat 256 value).val : Int) := by
  rw [Int.tmod_eq_emod_of_nonneg (Int.natCast_nonneg value)]
  rfl

/-- The variables of the output loop that hold a state of the generator. -/
def Rc4State.variables (state : Rc4State) (data : Region size) : OutputState size where
  data := data
  S := state.S
  i := state.i.val
  j := state.j.val

/-- One iteration combines one byte with the next byte of the generator. -/
theorem outputStep_variables (state : Rc4State) {byte : UInt8} (inside : n < size)
    (present : data.bytes[n]? = some byte) (writable : data.writable = true) :
    outputStep n (state.variables data) =
      some ((prgaStep state).2.variables (data.set n (byte ^^^ (prgaStep state).1))) := by
  have row : ((state.i.val : Int) + 1).tmod 256 = ((state.i + 1).val : Int) := by
    have successor : (state.i.val : Int) + 1 = ((state.i.val + 1 : Nat) : Int) := rfl
    rw [successor, natCast_tmod]
    rfl
  have column : ∀ value : Nat, ((state.j.val : Int) + (value : Int)).tmod 256 =
      ((state.j + Fin.ofNat 256 value).val : Int) := by
    intro value
    rw [← Int.natCast_add, natCast_tmod, Fin.val_add, Fin.val_ofNat, Fin.val_ofNat,
      Nat.add_mod_mod]
  have entry : ∀ first second : UInt8, ((first.toNat : Int) + (second.toNat : Int)).tmod 256 =
      ((Fin.ofNat 256 (first.toNat + second.toNat)).val : Int) := by
    intro first second
    rw [← Int.natCast_add, natCast_tmod]
  simp only [outputStep, Rc4State.variables, row, checkedIndex_fin, Option.bind_eq_bind,
    Option.bind_some, column, entry, checkedIndex_natCast inside, present, if_pos writable]
  rfl

/-- The output loop is the stream cipher, in place. -/
theorem outputRun_eq (start : Rc4State) (row : start.i = 0) (column : start.j = 0)
    (writable : data.writable = true) (within : n ≤ size) :
    outputRun data start.S n = some ((advance prgaStep n start).variables
      (data.write (rc4Encrypt start (data.bytes.take n)))) := by
  induction n with
  | zero =>
      have empty : rc4Encrypt start (data.bytes.take 0) = [] := rfl
      rw [empty, Region.write_nil, advance, Rc4State.variables, row, column]
      rfl
  | succ n ih =>
      have inside : n < data.bytes.length := data.length_eq.symm ▸ within
      have taken : (rc4Encrypt start (data.bytes.take n)).length = n := by
        rw [length_rc4Encrypt, List.length_take, Nat.min_eq_left (Nat.le_of_lt inside)]
      have size_ : (data.bytes.take n).length = n := by
        rw [List.length_take, Nat.min_eq_left (Nat.le_of_lt inside)]
      have present : (data.write (rc4Encrypt start (data.bytes.take n))).bytes[n]? =
          some data.bytes[n] := by
        have behind := data.getElem?_bytes_write (taken.le.trans (Nat.le_of_succ_le within))
        rw [taken] at behind
        rw [behind, List.getElem?_eq_getElem inside]
      have extended := data.set_write (taken.trans_lt within)
        (data.bytes[n] ^^^ (prgaStep (advance prgaStep n start)).1)
      have longer : rc4Encrypt start (data.bytes.take (n + 1)) =
          rc4Encrypt start (data.bytes.take n) ++
            [data.bytes[n] ^^^ (prgaStep (advance prgaStep n start)).1] := by
        rw [List.take_succ_eq_append_getElem inside, rc4Encrypt, encrypt_snoc, size_]
        rfl
      rw [taken, ← longer] at extended
      have step := outputStep_variables (advance prgaStep n start) within present writable
      rw [extended, ← advance_succ] at step
      rw [outputRun, countedLoop_succ, ← outputRun, ih (Nat.le_of_succ_le within),
        Option.bind_some]
      exact step

/-- `rc4_crypt` of the model is the function as it is written. -/
theorem rc4Loops_eq (within : len ≤ size) (writable : data.writable = true) (key : CString) :
    rc4Loops data len key = rc4Crypt data len key := by
  rw [rc4Loops]
  cases scheduled : ksaRun key 256 with
  | none => rw [rc4Crypt, keySchedule_eq, scheduled]; rfl
  | some result =>
      have start : keySchedule key = some { S := result.1, i := 0, j := 0 } := by
        rw [keySchedule_eq, scheduled]
        rfl
      rw [rc4Crypt_eq_some start writable, Option.bind_some,
        outputRun_eq { S := result.1, i := 0, j := 0 } rfl rfl writable within]
      rfl

/-- What holds of the variables between two iterations of the output loop. -/
structure OutputInvariant (state : OutputState size) : Prop where
  once : ListsOnce state.S
  row : 0 ≤ state.i ∧ state.i < 256
  column : 0 ≤ state.j ∧ state.j < 256

theorem listsOnce_advance {start : Rc4State} (once : ListsOnce start.S) (n : Nat) :
    ListsOnce (advance prgaStep n start).S := by
  induction n with
  | zero => exact once
  | succ n ih =>
      rw [advance_succ]
      exact ih.swap _ _

theorem outputInvariant_variables {state : Rc4State} (once : ListsOnce state.S)
    (data : Region size) : OutputInvariant (state.variables data) where
  once := once
  row := ⟨Int.natCast_nonneg _, Int.ofNat_lt.mpr state.i.isLt⟩
  column := ⟨Int.natCast_nonneg _, Int.ofNat_lt.mpr state.j.isLt⟩

/-! ## The discipline -/

/-- The loops of `rc4_crypt` on a valid key and data of any length: in both of
them the indices stay in the array and the array lists every byte once, in every
iteration; the keystream is the same for all data, and that of a short message
is a prefix of that of a longer one; and a second call restores the data. -/
theorem rc4Crypt_discipline (valid : ValidKey key) :
    (∀ n ≤ 256, ∃ state, ksaRun key n = some state ∧ KsaInvariant state) ∧
    ∃ (scheduled : Vector UInt8 256 × Int) (stream : Nat → List UInt8),
      ksaRun key 256 = some scheduled ∧
      (∀ len, (stream len).length = len) ∧
      (∀ shorter longer, shorter ≤ longer → stream shorter <+: stream longer) ∧
      ∀ (size len : Nat) (data : Region size), len ≤ size → data.writable = true →
        (∀ n ≤ len, ∃ state, outputRun data scheduled.1 n = some state ∧
          OutputInvariant state) ∧
        ∃ result, rc4Loops data len key = some result ∧ rc4Crypt data len key = some result ∧
          result.bytes = List.zipWith (· ^^^ ·) (data.bytes.take len) (stream len) ++
            data.bytes.drop len ∧
          rc4Crypt result len key = some data := by
  refine ⟨fun n within => ksaRun_invariant valid within, ?_⟩
  obtain ⟨scheduled, finished, invariant⟩ := ksaRun_invariant valid (Nat.le_refl 256)
  let start : Rc4State := { S := scheduled.1, i := 0, j := 0 }
  have key_eq : keySchedule key = some start := by
    rw [keySchedule_eq, finished]
    rfl
  refine ⟨scheduled, fun len => keystream prgaStep len start, finished,
    fun len => length_keystream prgaStep len start,
    fun _ _ shorter => keystream_prefix prgaStep shorter start, ?_⟩
  intro size len data within writable
  constructor
  · intro n small
    refine ⟨_, outputRun_eq start rfl rfl writable (small.trans within), ?_⟩
    exact outputInvariant_variables (listsOnce_advance invariant.once n) _
  · have taken : (data.bytes.take len).length = len := by
      rw [List.length_take, data.length_eq, Nat.min_eq_left within]
    have encrypted : (rc4Encrypt start (data.bytes.take len)).length = len := by
      rw [length_rc4Encrypt, taken]
    have fits := encrypted.le.trans within
    refine ⟨data.write (rc4Encrypt start (data.bytes.take len)), ?_,
      rc4Crypt_eq_some key_eq writable, ?_, ?_⟩
    · rw [rc4Loops_eq within writable, rc4Crypt_eq_some key_eq writable]
    · rw [data.bytes_write fits, encrypted, rc4Encrypt, encrypt_eq_zipWith, taken]
    · have stored := data.take_bytes_write fits
      rw [encrypted] at stored
      have still : (data.write (rc4Encrypt start (data.bytes.take len))).writable = true :=
        writable
      rw [rc4Crypt_eq_some key_eq still, stored, rc4Encrypt_rc4Encrypt,
        data.write_write (taken.trans encrypted.symm), data.write_take within]

theorem rc4Crypt_discipline_oneLetter :
    ∃ result, rc4Crypt (Region.zero 4) 4 (ascii "K") = some result ∧
      rc4Crypt result 4 (ascii "K") = some (Region.zero 4) := by
  have valid : ValidKey (ascii "K") := by
    constructor
    · decide
    · simp [ascii]
  obtain ⟨_, _, _, _, _, _, transforms⟩ := rc4Crypt_discipline valid
  obtain ⟨_, result, _, first, _, second⟩ := transforms 4 4 (Region.zero 4) (Nat.le_refl 4) rfl
  exact ⟨result, first, second⟩

end RideHailing.Common
