import Mathlib.Tactic.Ring
import Mathlib.Data.Nat.Basic

/-!
# Little-endian integers as byte lists

The two directions of the fixed-width little-endian codec over natural
numbers.  Decoding is total on byte lists of any length; encoding keeps the low
bytes.
-/

namespace RideHailing.Bytes

/-- The `width` low bytes of a number, least significant first. -/
def toLittleEndian : Nat → Nat → List UInt8
  | 0, _ => []
  | width + 1, value => UInt8.ofNat value :: toLittleEndian width (value / 256)

/-- The number denoted by a byte list, least significant byte first. -/
def ofLittleEndian : List UInt8 → Nat
  | [] => 0
  | byte :: bytes => byte.toNat + 256 * ofLittleEndian bytes

@[simp]
theorem ofLittleEndian_nil : ofLittleEndian [] = 0 :=
  rfl

theorem ofLittleEndian_cons (byte : UInt8) (bytes : List UInt8) :
    ofLittleEndian (byte :: bytes) = byte.toNat + 256 * ofLittleEndian bytes :=
  rfl

@[simp]
theorem length_toLittleEndian (width value : Nat) :
    (toLittleEndian width value).length = width := by
  induction width generalizing value with
  | zero => rfl
  | succ width ih => simp [toLittleEndian, ih]

/-- Decoding an encoding keeps the value up to the width. -/
theorem ofLittleEndian_toLittleEndian (width value : Nat) :
    ofLittleEndian (toLittleEndian width value) = value % 256 ^ width := by
  induction width generalizing value with
  | zero => simp [toLittleEndian, Nat.mod_one]
  | succ width ih =>
      rw [toLittleEndian, ofLittleEndian_cons, ih, Nat.pow_succ, Nat.mul_comm,
        Nat.mul_comm (256 ^ width), Nat.mod_mul]
      simp [Nat.mul_comm]

/-- A value that fits is decoded exactly. -/
theorem ofLittleEndian_toLittleEndian_of_lt {width value : Nat}
    (fits : value < 256 ^ width) :
    ofLittleEndian (toLittleEndian width value) = value := by
  rw [ofLittleEndian_toLittleEndian, Nat.mod_eq_of_lt fits]

theorem ofLittleEndian_lt (bytes : List UInt8) :
    ofLittleEndian bytes < 256 ^ bytes.length := by
  induction bytes with
  | nil => simp
  | cons byte bytes ih =>
      have small := byte.toNat_lt
      rw [ofLittleEndian_cons, List.length_cons, Nat.pow_succ]
      omega

/-- Every byte list is the encoding of the number it denotes. -/
theorem toLittleEndian_ofLittleEndian (bytes : List UInt8) :
    toLittleEndian bytes.length (ofLittleEndian bytes) = bytes := by
  induction bytes with
  | nil => rfl
  | cons byte bytes ih =>
      have small := byte.toNat_lt
      have head : UInt8.ofNat (ofLittleEndian (byte :: bytes)) = byte := by
        apply UInt8.toNat_inj.mp
        rw [ofLittleEndian_cons, UInt8.toNat_ofNat']
        omega
      have tail : ofLittleEndian (byte :: bytes) / 256 = ofLittleEndian bytes := by
        rw [ofLittleEndian_cons]
        omega
      rw [List.length_cons, toLittleEndian, head, tail, ih]

/-- A trailing block contributes at its place value. -/
theorem ofLittleEndian_append (low high : List UInt8) :
    ofLittleEndian (low ++ high) =
      ofLittleEndian low + 256 ^ low.length * ofLittleEndian high := by
  induction low with
  | nil => simp
  | cons byte low ih =>
      rw [List.cons_append, ofLittleEndian_cons, ofLittleEndian_cons, ih,
        List.length_cons, Nat.pow_succ]
      ring

end RideHailing.Bytes
