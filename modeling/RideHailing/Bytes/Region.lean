import Mathlib.Data.List.Basic

/-!
# Fixed-size memory objects and C strings

A `Region n` is an object of exactly `n` bytes together with the permission to
write it; string literals are the read-only ones.  Writing past the end is cut
off, so that a region can never change its size.
-/

namespace RideHailing.Bytes

/-- An object of `n` bytes. -/
@[ext]
structure Region (n : Nat) where
  bytes : List UInt8
  length_eq : bytes.length = n
  writable : Bool := true
  deriving DecidableEq

/-- The characters of a C string, without its terminator. -/
abbrev CString := List UInt8

/-- The characters of a string constant. -/
def ascii (text : String) : CString :=
  text.toList.map fun character => UInt8.ofNat character.toNat

namespace Region

variable {n : Nat}

/-- The zero-initialised object. -/
def zero (n : Nat) : Region n where
  bytes := List.replicate n 0
  length_eq := List.length_replicate

/-- A local array with whatever it holds before its first use. -/
def ofVector (contents : Vector UInt8 n) : Region n where
  bytes := contents.toList
  length_eq := contents.length_toList

@[simp]
theorem writable_ofVector (contents : Vector UInt8 n) : (ofVector contents).writable = true :=
  rfl

/-- Overwrite the first bytes of an object. -/
def write (region : Region n) (data : List UInt8) : Region n where
  bytes := data.take n ++ region.bytes.drop data.length
  length_eq := by
    rw [List.length_append, List.length_take, List.length_drop, region.length_eq]
    omega
  writable := region.writable

/-- Store one byte. -/
def set (region : Region n) (index : Nat) (value : UInt8) : Region n where
  bytes := region.bytes.set index value
  length_eq := by rw [List.length_set, region.length_eq]
  writable := region.writable

theorem bytes_write (region : Region n) {data : List UInt8}
    (fits : data.length ≤ n) :
    (region.write data).bytes = data ++ region.bytes.drop data.length := by
  simp [write, List.take_of_length_le fits]

@[simp]
theorem write_nil (region : Region n) : region.write [] = region := by
  ext1
  · simp [write]
  · rfl

/-- Reading back the bytes just written. -/
theorem take_bytes_write (region : Region n) {data : List UInt8}
    (fits : data.length ≤ n) :
    (region.write data).bytes.take data.length = data := by
  rw [bytes_write region fits, List.take_left]

/-- Bytes read from within the written prefix do not depend on the old
contents. -/
theorem take_bytes_write_of_le (region : Region n) {data : List UInt8} {k : Nat}
    (fits : data.length ≤ n) (within : k ≤ data.length) :
    (region.write data).bytes.take k = data.take k := by
  rw [bytes_write region fits, List.take_append_of_le_length within]

/-- A write that covers the object replaces it. -/
theorem bytes_write_of_length_eq (region : Region n) {data : List UInt8}
    (covers : data.length = n) : (region.write data).bytes = data := by
  rw [bytes_write region (Nat.le_of_eq covers), covers,
    List.drop_of_length_le (Nat.le_of_eq region.length_eq), List.append_nil]

/-- An object is determined by its bytes and its permission. -/
theorem write_bytes_write (region : Region n) (data : List UInt8) :
    region.write (region.write data).bytes = region.write data := by
  ext1
  · exact bytes_write_of_length_eq region (region.write data).length_eq
  · rfl

/-- The second of two writes of one size wins. -/
theorem write_write (region : Region n) {first second : List UInt8}
    (size : second.length = first.length) :
    (region.write first).write second = region.write second := by
  have dropped : (first.take n ++ region.bytes.drop first.length).drop first.length =
      region.bytes.drop first.length := by
    by_cases fits : first.length ≤ n
    · rw [List.take_of_length_le fits, List.drop_left]
    · have beyond : region.bytes.length ≤ first.length := by
        rw [region.length_eq]
        exact Nat.le_of_not_le fits
      rw [List.drop_of_length_le beyond, List.append_nil]
      apply List.drop_of_length_le
      rw [List.length_take]
      exact Nat.min_le_right _ _
  ext1
  · simp only [write, size, dropped]
  · rfl

/-- The string stored at the start of an object. -/
def cString (region : Region n) : CString :=
  region.bytes.takeWhile (· != 0)

/-- `snprintf` with an already formatted text: at most `size - 1` characters
and a terminator. -/
def snprintf (region : Region n) (size : Nat) (text : CString) : Region n :=
  region.write (text.take (size - 1) ++ [0])

theorem bytes_snprintf (region : Region n) {size : Nat} {text : CString}
    (fits : text.length < size) (within : size ≤ n) :
    (region.snprintf size text).bytes =
      text ++ 0 :: region.bytes.drop (text.length + 1) := by
  have short : text.take (size - 1) = text :=
    List.take_of_length_le (Nat.le_sub_one_of_lt fits)
  have room : (text ++ [0]).length ≤ n := by
    rw [List.length_append, List.length_singleton]
    omega
  rw [snprintf, short, bytes_write region room]
  simp

theorem takeWhile_terminated {text : CString} (noTerminator : 0 ∉ text) (rest : List UInt8) :
    (text ++ 0 :: rest).takeWhile (· != 0) = text := by
  have nonzero : ∀ byte ∈ text, (byte != 0) = true := by
    intro byte member
    exact bne_iff_ne.mpr fun isZero => noTerminator (isZero ▸ member)
  rw [List.takeWhile_append_of_pos nonzero]
  simp

/-- A text written with a terminator is the string of the object. -/
theorem cString_write_terminated (region : Region n) {text : CString} (fits : text.length < n)
    (noTerminator : 0 ∉ text) : (region.write (text ++ [0])).cString = text := by
  have room : (text ++ [0]).length ≤ n := by
    rw [List.length_append, List.length_singleton]
    exact fits
  rw [cString, bytes_write region room, List.append_assoc, List.singleton_append,
    takeWhile_terminated noTerminator]

/-- A text without terminator that fits is stored exactly. -/
theorem cString_snprintf (region : Region n) {size : Nat} {text : CString}
    (fits : text.length < size) (within : size ≤ n) (noTerminator : 0 ∉ text) :
    (region.snprintf size text).cString = text := by
  rw [cString, bytes_snprintf region fits within, takeWhile_terminated noTerminator]

theorem take_bytes_set (region : Region n) (index : Nat) (value : UInt8) :
    (region.set index value).bytes.take index = region.bytes.take index :=
  List.take_set_of_le (Nat.le_refl index)

theorem drop_bytes_set (region : Region n) {index : Nat} (inside : index < n) (value : UInt8) :
    (region.set index value).bytes.drop index = value :: region.bytes.drop (index + 1) := by
  have within : index < region.bytes.length := region.length_eq.symm ▸ inside
  have before : (region.bytes.take index).length = index := by
    rw [List.length_take]
    exact Nat.min_eq_left (Nat.le_of_lt within)
  have split : (region.set index value).bytes =
      region.bytes.take index ++ value :: region.bytes.drop (index + 1) :=
    List.set_eq_take_append_cons_drop.trans (if_pos within)
  rw [split]
  exact List.drop_left' before

/-- Storing the byte behind a written prefix extends the prefix. -/
theorem set_write (region : Region n) {data : List UInt8} (inside : data.length < n)
    (value : UInt8) :
    (region.write data).set data.length value = region.write (data ++ [value]) := by
  have room : (data ++ [value]).length ≤ n := by
    rw [List.length_append, List.length_singleton]
    exact inside
  have within : data.length < region.bytes.length := region.length_eq.symm ▸ inside
  ext1
  · rw [bytes_write region room]
    simp only [set, bytes_write region (Nat.le_of_lt inside)]
    rw [List.set_append_right _ _ (Nat.le_refl _), Nat.sub_self,
      List.drop_eq_getElem_cons within, List.set_cons_zero, List.length_append,
      List.length_singleton, List.append_assoc, List.singleton_append]
  · rfl

/-- Behind a written prefix the old bytes are still there. -/
theorem getElem?_bytes_write (region : Region n) {data : List UInt8} (fits : data.length ≤ n) :
    (region.write data).bytes[data.length]? = region.bytes[data.length]? := by
  rw [bytes_write region fits, List.getElem?_append_right (Nat.le_refl _), Nat.sub_self,
    List.getElem?_drop, Nat.add_zero]

/-- Writing what is there changes nothing. -/
theorem write_take (region : Region n) {k : Nat} (within : k ≤ n) :
    region.write (region.bytes.take k) = region := by
  have size : (region.bytes.take k).length = k := by
    rw [List.length_take, region.length_eq, Nat.min_eq_left within]
  ext1
  · rw [bytes_write region (Nat.le_trans (Nat.le_of_eq size) within), size, List.take_append_drop]
  · rfl

/-- A text written in front of a terminator is the string of the object. -/
theorem cString_write (region : Region n) {text rest : List UInt8} (fits : text.length ≤ n)
    (noTerminator : 0 ∉ text) (terminated : region.bytes.drop text.length = 0 :: rest) :
    (region.write text).cString = text := by
  rw [cString, bytes_write region fits, terminated, takeWhile_terminated noTerminator]

end Region

end RideHailing.Bytes
