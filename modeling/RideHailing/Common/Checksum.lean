import RideHailing.Arithmetic.EndAround
import RideHailing.Cipher.Change
import RideHailing.Common.Protocol

/-!
# What the checksum detects

`calculate_checksum` is the complement of the byte sum, folded into 16 bits with
end-around carry.  A change of one byte changes the sum by less than 256, which
is never a multiple of 65535, so that the checksum always changes with it.
-/

namespace RideHailing.Common

open RideHailing.Arithmetic
open RideHailing.Cipher

/-- The sum of the bytes, without a width. -/
def total (data : List UInt8) : Nat :=
  (data.map UInt8.toNat).sum

variable {data first second : List UInt8}

@[simp]
theorem total_nil : total [] = 0 :=
  rfl

@[simp]
theorem total_cons (byte : UInt8) (data : List UInt8) :
    total (byte :: data) = byte.toNat + total data :=
  rfl

theorem total_le (data : List UInt8) : total data ≤ 255 * data.length := by
  induction data with
  | nil => exact Nat.le_refl 0
  | cons byte data ih =>
      have small : byte.toNat < 256 := byte.toNat_lt
      rw [total_cons, List.length_cons]
      omega

/-- The 32-bit sum is the sum modulo its width. -/
theorem byteSum_eq (data : List UInt8) : byteSum data = total data % 2 ^ 32 := by
  have loop : ∀ sum, sum < 2 ^ 32 →
      data.foldl (fun sum byte => (sum + byte.toNat) % 2 ^ 32) sum =
        (sum + total data) % 2 ^ 32 := by
    induction data with
    | nil =>
        intro sum small
        exact (Nat.mod_eq_of_lt small).symm
    | cons byte data ih =>
        intro sum _
        rw [List.foldl_cons, ih _ (Nat.mod_lt _ (by norm_num)), total_cons, Nat.mod_add_mod,
          Nat.add_assoc]
  rw [byteSum, loop 0 (by norm_num), Nat.zero_add]

/-- The folding loop computes the representative of the sum modulo 65535. -/
theorem foldCarry_eq {fuel sum : Nat} (enough : sum ≤ fuel) :
    foldCarry fuel sum = representative 65535 sum := by
  induction fuel generalizing sum with
  | zero =>
      have zero : sum = 0 := Nat.le_zero.mp enough
      rw [foldCarry, zero, representative_zero]
  | succ fuel ih =>
      have high : sum >>> 16 = sum / 65536 := Nat.shiftRight_eq_div_pow sum 16
      have low : sum &&& 0xFFFF = sum % 65536 := Nat.and_two_pow_sub_one_eq_mod sum 16
      rw [foldCarry, high, low]
      by_cases folded : sum / 65536 = 0
      · rw [if_pos folded, representative_of_le (by omega)]
      · rw [if_neg folded, ih (by omega)]
        exact representative_carry 65535 sum

/-- The checksum determines the representative of the sum. -/
theorem calculateChecksum_eq_iff {firstLen secondLen : Nat} :
    calculateChecksum first firstLen = calculateChecksum second secondLen ↔
      representative 65535 (byteSum (first.take firstLen)) =
        representative 65535 (byteSum (second.take secondLen)) := by
  have fits : ∀ sum, representative 65535 sum < 2 ^ 16 := by
    intro sum
    have small := representative_le (by norm_num : 0 < 65535) sum
    omega
  rw [calculateChecksum, calculateChecksum]
  simp only [foldCarry_eq (Nat.le_refl _)]
  constructor
  · intro same
    have folded := congrArg UInt16.toNat (UInt16.not_inj.mp same)
    rwa [UInt16.toNat_ofNat_of_lt' (fits _), UInt16.toNat_ofNat_of_lt' (fits _)] at folded
  · intro same
    rw [same]

/-- A change of one byte changes the sum, by less than 256. -/
theorem total_of_oneChange (change : OneChange first second) :
    ∃ distance, 0 < distance ∧ distance < 256 ∧
      (total second = total first + distance ∨ total first = total second + distance) := by
  induction change with
  | @head old new different rest =>
      have values : old.toNat ≠ new.toNat := fun same => different (UInt8.toNat_inj.mp same)
      have oldSmall : old.toNat < 256 := old.toNat_lt
      have newSmall : new.toNat < 256 := new.toNat_lt
      rcases Nat.lt_or_gt_of_ne values with grows | shrinks
      · refine ⟨new.toNat - old.toNat, by omega, by omega, Or.inl ?_⟩
        rw [total_cons, total_cons]
        omega
      · refine ⟨old.toNat - new.toNat, by omega, by omega, Or.inr ?_⟩
        rw [total_cons, total_cons]
        omega
  | @tail symbol first second later ih =>
      rcases ih with ⟨distance, positive, small, grows | shrinks⟩
      · refine ⟨distance, positive, small, Or.inl ?_⟩
        rw [total_cons, total_cons, grows, Nat.add_assoc]
      · refine ⟨distance, positive, small, Or.inr ?_⟩
        rw [total_cons, total_cons, shrinks, Nat.add_assoc]

/-- As long as the byte sum fits 32 bits, two messages that differ in one byte
have different checksums. -/
theorem calculateChecksum_oneChange (change : OneChange first second)
    (short : 255 * first.length < 2 ^ 32) :
    calculateChecksum first first.length ≠ calculateChecksum second first.length := by
  have exact_ : ∀ data : List UInt8, data.length = first.length →
      byteSum (data.take first.length) = total data := by
    intro data size
    have bound := total_le data
    rw [List.take_of_length_le (Nat.le_of_eq size), byteSum_eq, Nat.mod_eq_of_lt (by omega)]
  rw [ne_eq, calculateChecksum_eq_iff, exact_ first rfl, exact_ second change.length_eq.symm]
  obtain ⟨distance, positive, small, grows | shrinks⟩ := total_of_oneChange change
  · rw [grows]
    exact representative_ne positive (by omega)
  · rw [shrinks]
    exact (representative_ne positive (by omega)).symm

end RideHailing.Common
