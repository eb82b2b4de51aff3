import RideHailing.Arithmetic.Machine
import RideHailing.Arithmetic.SquareMultiply
import RideHailing.Bytes.Region
import Mathlib.Data.Nat.Digits.Lemmas
import Mathlib.NumberTheory.LucasLehmer

/-!
# Diffie–Hellman key agreement

The exchange works modulo the Mersenne prime `2^31 - 1`.  `powerMod` keeps C's
truncating remainder, so a negative base coming from the network can make the
result negative; for the public keys that an honest side computes every residue
is canonical and both sides obtain the same secret.
-/

namespace RideHailing.Common

open RideHailing.Arithmetic
open RideHailing.Bytes

/-- `DH_PRIME`. -/
def dhPrime : Int := 2147483647

/-- `DH_GENERATOR`. -/
def dhGenerator : Int := 16807

/-- `power_mod`. -/
def powerMod (base exp modulus : Int) : Int :=
  squareMultiply (fun first second => (wrap64 (first * second)).tmod modulus) exp.toNat
    1 (base.tmod modulus) exp.toNat

/-- `generate_private_key`, on a generator of `rand()` outcomes. -/
def generatePrivateKey {γ : Type*} (rand : γ → Nat × γ) (random : γ) : Int × γ :=
  ((((rand random).1 % 100000 + 1 : Nat) : Int), (rand random).2)

/-- `calculate_public_key`. -/
def calculatePublicKey (privateKey : Int) : Int :=
  powerMod dhGenerator privateKey dhPrime

/-- `calculate_shared_secret`. -/
def calculateSharedSecret (otherPublicKey myPrivateKey : Int) : Int :=
  powerMod otherPublicKey myPrivateKey dhPrime

/-- The `%lld` conversion. -/
def printDecimal (value : Int) : CString :=
  let digits := (Nat.digits 10 value.natAbs).reverse.map fun digit => UInt8.ofNat (48 + digit)
  let text := if value = 0 then ascii "0" else digits
  if value < 0 then ascii "-" ++ text else text

/-- `derive_session_key` into a buffer of `len` bytes. -/
def deriveSessionKey (sharedSecret : Int) (len : Nat) : CString :=
  (ascii "KEY_" ++ printDecimal sharedSecret ++ ascii "_SECURE").take (len - 1)

/-! ## Modular exponentiation -/

/-- `power_mod` is congruent to the power and stays strictly between the
modulus and its negative. -/
theorem powerMod_modEq (base exp : Int) {modulus : Int} (two_le : 2 ≤ modulus)
    (fits : (modulus - 1) ^ 2 < 2 ^ 63) :
    |powerMod base exp modulus| < modulus ∧
      powerMod base exp modulus ≡ base ^ exp.toNat [ZMOD modulus] := by
  have respects : ∀ first second a b : Int, |first| < modulus ∧ first ≡ a [ZMOD modulus] →
      |second| < modulus ∧ second ≡ b [ZMOD modulus] →
      |(wrap64 (first * second)).tmod modulus| < modulus ∧
        (wrap64 (first * second)).tmod modulus ≡ a * b [ZMOD modulus] := by
    rintro first second a b ⟨firstSmall, firstEq⟩ ⟨secondSmall, secondEq⟩
    rw [wrap64_mul firstSmall secondSmall fits]
    exact ⟨abs_tmod_lt _ (by omega), (tmod_modEq _ _).trans (firstEq.mul secondEq)⟩
  have one : |(1 : Int)| < modulus ∧ (1 : Int) ≡ 1 [ZMOD modulus] :=
    ⟨by rw [abs_one]; omega, Int.ModEq.refl 1⟩
  have reduced : |base.tmod modulus| < modulus ∧ base.tmod modulus ≡ base [ZMOD modulus] :=
    ⟨abs_tmod_lt _ (by omega), tmod_modEq _ _⟩
  have refined := squareMultiply_refines
    (R := fun value power : Int => |value| < modulus ∧ value ≡ power [ZMOD modulus])
    respects (Nat.le_refl exp.toNat) one reduced
  simpa [powerMod] using refined

/-- For a nonnegative base every intermediate residue is canonical. -/
theorem powerMod_nonneg {base : Int} (exp : Int) {modulus : Int} (two_le : 2 ≤ modulus)
    (fits : (modulus - 1) ^ 2 < 2 ^ 63) (nonneg : 0 ≤ base) :
    0 ≤ powerMod base exp modulus := by
  have respects : ∀ first second _a _b : Int, 0 ≤ first ∧ first < modulus →
      0 ≤ second ∧ second < modulus →
      0 ≤ (wrap64 (first * second)).tmod modulus ∧
        (wrap64 (first * second)).tmod modulus < modulus := by
    rintro first second - - ⟨firstNonneg, firstSmall⟩ ⟨secondNonneg, secondSmall⟩
    have product := Int.mul_nonneg firstNonneg secondNonneg
    rw [wrap64_mul (by rwa [abs_of_nonneg firstNonneg])
      (by rwa [abs_of_nonneg secondNonneg]) fits]
    exact ⟨Int.tmod_nonneg _ product, Int.tmod_lt_of_pos _ (by omega)⟩
  have one : 0 ≤ (1 : Int) ∧ 1 < modulus := ⟨by decide, by omega⟩
  have reduced : 0 ≤ base.tmod modulus ∧ base.tmod modulus < modulus :=
    ⟨Int.tmod_nonneg _ nonneg, Int.tmod_lt_of_pos _ (by omega)⟩
  have refined := squareMultiply_refines (M := Int) (r := 1) (b := 1)
    (R := fun value _ => 0 ≤ value ∧ value < modulus)
    respects (Nat.le_refl exp.toNat) one reduced
  exact refined.1

/-- For a nonnegative base the result is the canonical residue. -/
theorem powerMod_eq_emod {base : Int} (exp : Int) {modulus : Int} (two_le : 2 ≤ modulus)
    (fits : (modulus - 1) ^ 2 < 2 ^ 63) (nonneg : 0 ≤ base) :
    powerMod base exp modulus = base ^ exp.toNat % modulus := by
  obtain ⟨small, congruent⟩ := powerMod_modEq base exp two_le fits
  have lower := powerMod_nonneg exp two_le fits nonneg
  rw [← Int.emod_eq_of_lt lower (abs_lt.mp small).2]
  exact congruent

/-! ## Agreement -/

theorem calculatePublicKey_eq (privateKey : Int) :
    calculatePublicKey privateKey = dhGenerator ^ privateKey.toNat % dhPrime :=
  powerMod_eq_emod privateKey (by decide) (by decide) (by decide)

theorem calculatePublicKey_bounds (privateKey : Int) :
    0 ≤ calculatePublicKey privateKey ∧ calculatePublicKey privateKey < dhPrime := by
  rw [calculatePublicKey_eq]
  exact ⟨Int.emod_nonneg _ (by decide), Int.emod_lt_of_pos _ (by decide)⟩

/-- The secret computed from an honest public key is the generator raised to
the product of the exponents. -/
theorem calculateSharedSecret_calculatePublicKey (theirs mine : Int) :
    calculateSharedSecret (calculatePublicKey theirs) mine =
      dhGenerator ^ (theirs.toNat * mine.toNat) % dhPrime := by
  rw [calculateSharedSecret,
    powerMod_eq_emod mine (by decide) (by decide) (calculatePublicKey_bounds theirs).1,
    calculatePublicKey_eq, pow_mul]
  exact (Int.mod_modEq _ _).pow _

/-- Both sides of an honest exchange compute the same secret. -/
theorem sharedSecret_comm (first second : Int) :
    calculateSharedSecret (calculatePublicKey first) second =
      calculateSharedSecret (calculatePublicKey second) first := by
  rw [calculateSharedSecret_calculatePublicKey, calculateSharedSecret_calculatePublicKey,
    Nat.mul_comm]

/-! ## Session keys -/

theorem printDecimal_ascii {value : Int} {character : UInt8}
    (member : character ∈ printDecimal value) :
    1 ≤ character.toNat ∧ character.toNat ≤ 127 := by
  have digitRange : ∀ digit ∈ (Nat.digits 10 value.natAbs).reverse.map
      (fun digit => UInt8.ofNat (48 + digit)), 1 ≤ digit.toNat ∧ digit.toNat ≤ 127 := by
    intro digit digitMem
    obtain ⟨number, numberMem, rfl⟩ := List.mem_map.mp digitMem
    have small := Nat.digits_lt_base (by decide) (List.mem_reverse.mp numberMem)
    rw [UInt8.toNat_ofNat']
    omega
  have constants : ∀ constant ∈ [ascii "0", ascii "-"], ∀ digit ∈ constant,
      1 ≤ digit.toNat ∧ digit.toNat ≤ 127 := by
    simp [ascii]
  have textRange : ∀ digit ∈ (if value = 0 then ascii "0"
      else (Nat.digits 10 value.natAbs).reverse.map fun digit => UInt8.ofNat (48 + digit)),
      1 ≤ digit.toNat ∧ digit.toNat ≤ 127 := by
    intro digit digitMem
    split at digitMem
    · exact constants _ (by simp) digit digitMem
    · exact digitRange digit digitMem
  rw [printDecimal] at member
  split at member
  · rcases List.mem_append.mp member with sign | text
    · exact constants _ (by simp) character sign
    · exact textRange character text
  · exact textRange character member

/-- Read the digits of a printed number back. -/
def readDecimal (text : CString) : Nat :=
  Nat.ofDigits 10 (text.reverse.map fun character => character.toNat - 48)

theorem readDecimal_digits (number : Nat) :
    readDecimal ((Nat.digits 10 number).reverse.map fun digit => UInt8.ofNat (48 + digit)) =
      number := by
  have each : ∀ digit ∈ Nat.digits 10 number, (UInt8.ofNat (48 + digit)).toNat - 48 = digit := by
    intro digit member
    have small := Nat.digits_lt_base (by decide) member
    rw [UInt8.toNat_ofNat']
    omega
  have restored : (Nat.digits 10 number).map
      ((fun character => character.toNat - 48) ∘ fun digit => UInt8.ofNat (48 + digit)) =
        Nat.digits 10 number :=
    (List.map_congr_left each).trans (List.map_id' _)
  rw [readDecimal, ← List.map_reverse, List.reverse_reverse, List.map_map, restored,
    Nat.ofDigits_digits]

/-- Printing loses nothing. -/
theorem readDecimal_printDecimal {value : Int} (nonneg : 0 ≤ value) :
    readDecimal (printDecimal value) = value.toNat := by
  rw [printDecimal, if_neg (Int.not_lt.mpr nonneg)]
  by_cases zero : value = 0
  · rw [if_pos zero, zero]
    rfl
  · rw [if_neg zero, readDecimal_digits]
    omega

theorem printDecimal_of_neg {value : Int} (negative : value < 0) :
    printDecimal value = ascii "-" ++ printDecimal (-value) := by
  have nonzero : ¬ value = 0 := by omega
  have opposite : ¬ -value = 0 := by omega
  have positive : ¬ -value < 0 := by omega
  simp only [printDecimal, if_pos negative, if_neg nonzero, if_neg opposite, if_neg positive,
    Int.natAbs_neg]

/-- A number that is not negative is printed without a sign. -/
theorem minus_notMem_printDecimal {value : Int} (nonneg : 0 ≤ value) :
    45 ∉ printDecimal value := by
  intro member
  rw [printDecimal, if_neg (Int.not_lt.mpr nonneg)] at member
  by_cases zero : value = 0
  · rw [if_pos zero] at member
    exact absurd member (by decide)
  · rw [if_neg zero] at member
    obtain ⟨digit, digitMem, code⟩ := List.mem_map.mp member
    have small := Nat.digits_lt_base (by decide) (List.mem_reverse.mp digitMem)
    have number := congrArg UInt8.toNat code
    have minus : (45 : UInt8).toNat = 45 := rfl
    rw [UInt8.toNat_ofNat', minus] at number
    omega

theorem printDecimal_injective_of_nonneg {first second : Int} (firstNonneg : 0 ≤ first)
    (secondNonneg : 0 ≤ second) (same : printDecimal first = printDecimal second) :
    first = second := by
  have number := congrArg readDecimal same
  rw [readDecimal_printDecimal firstNonneg, readDecimal_printDecimal secondNonneg] at number
  omega

/-- Numbers are printed differently, whatever their signs. -/
theorem printDecimal_injective : Function.Injective printDecimal := by
  have signed : ∀ {first second : Int}, first < 0 → 0 ≤ second →
      printDecimal first ≠ printDecimal second := by
    intro first second negative nonneg same
    apply minus_notMem_printDecimal nonneg
    rw [← same, printDecimal_of_neg negative]
    exact List.mem_append_left _ (by decide)
  intro first second same
  rcases Int.lt_or_le first 0 with firstNeg | firstNonneg
  · rcases Int.lt_or_le second 0 with secondNeg | secondNonneg
    · rw [printDecimal_of_neg firstNeg, printDecimal_of_neg secondNeg] at same
      have opposite := printDecimal_injective_of_nonneg (by omega) (by omega)
        (List.append_cancel_left same)
      omega
    · exact absurd same (signed firstNeg secondNonneg)
  · rcases Int.lt_or_le second 0 with secondNeg | secondNonneg
    · exact absurd same.symm (signed secondNeg firstNonneg)
    · exact printDecimal_injective_of_nonneg firstNonneg secondNonneg same

/-- Ten digits and a sign. -/
theorem length_printDecimal_le {value : Int} (small : |value| < 10 ^ 10) :
    (printDecimal value).length ≤ 11 := by
  have magnitude : ∀ {number : Int}, 0 ≤ number → number < 10 ^ 10 →
      (printDecimal number).length ≤ 10 := by
    intro number nonneg below
    rw [printDecimal, if_neg (Int.not_lt.mpr nonneg)]
    by_cases zero : number = 0
    · rw [if_pos zero]
      decide
    · rw [if_neg zero, List.length_map, List.length_reverse]
      apply (Nat.digits_length_le_iff (by decide) _).mpr
      omega
  obtain ⟨lower, upper⟩ := abs_lt.mp small
  rcases Int.lt_or_le value 0 with negative | nonneg
  · have digits := magnitude (Int.neg_nonneg_of_nonpos (Int.le_of_lt negative)) (by omega)
    have sign : (ascii "-").length = 1 := by decide
    rw [printDecimal_of_neg negative, List.length_append, sign]
    omega
  · exact Nat.le_succ_of_le (magnitude nonneg upper)

theorem length_printDecimal {value : Int} (small : |value| < dhPrime) :
    (printDecimal value).length ≤ 11 := by
  have prime : dhPrime = 2147483647 := rfl
  exact length_printDecimal_le (small.trans (by rw [prime]; norm_num))

/-- A session key holds its secret in full. -/
theorem deriveSessionKey_eq {secret : Int} (small : |secret| < dhPrime) :
    deriveSessionKey secret 64 = ascii "KEY_" ++ printDecimal secret ++ ascii "_SECURE" := by
  have digits := length_printDecimal small
  have start : (ascii "KEY_").length = 4 := by decide
  have finish : (ascii "_SECURE").length = 7 := by decide
  apply List.take_of_length_le
  rw [List.length_append, List.length_append]
  omega

/-- Different secrets below the prime give different session keys. -/
theorem deriveSessionKey_inj {first second : Int} (firstSmall : |first| < dhPrime)
    (secondSmall : |second| < dhPrime)
    (same : deriveSessionKey first 64 = deriveSessionKey second 64) : first = second := by
  rw [deriveSessionKey_eq firstSmall, deriveSessionKey_eq secondSmall] at same
  exact printDecimal_injective (List.append_cancel_left (List.append_cancel_right same))

/-- Different canonical secrets give different session keys. -/
theorem deriveSessionKey_injective {first second : Int}
    (firstNonneg : 0 ≤ first) (firstSmall : first < dhPrime)
    (secondNonneg : 0 ≤ second) (secondSmall : second < dhPrime)
    (same : deriveSessionKey first 64 = deriveSessionKey second 64) : first = second := by
  apply deriveSessionKey_inj _ _ same
  · rwa [abs_of_nonneg firstNonneg]
  · rwa [abs_of_nonneg secondNonneg]

/-! ## Degenerate public keys -/

theorem dhPrime_prime : Prime dhPrime := by
  have mersennePrime : (mersenne 31).Prime :=
      lucas_lehmer_sufficiency 31 (by norm_num) (by norm_num)
  have value : dhPrime = (mersenne 31 : Nat) := by
    rw [mersenne]
    rfl
  rw [value]
  exact Nat.prime_iff_prime_int.mp mersennePrime

/-- The power depends on the reduced base only. -/
theorem powerMod_tmod (base exp modulus : Int) :
    powerMod (base.tmod modulus) exp modulus = powerMod base exp modulus := by
  rw [powerMod, powerMod, Int.tmod_tmod]

theorem powerMod_exp_one (base : Int) {modulus : Int} (two_le : 2 ≤ modulus)
    (fits : (modulus - 1) ^ 2 < 2 ^ 63) : powerMod base 1 modulus = base.tmod modulus := by
  have one : |(1 : Int)| < modulus := by
    rw [abs_one]
    omega
  have product := wrap64_mul one (abs_tmod_lt base (by omega : 0 < modulus)) fits
  rw [one_mul] at product
  simp [powerMod, squareMultiply, product]

theorem powerMod_exp_two (base : Int) {modulus : Int} (two_le : 2 ≤ modulus)
    (fits : (modulus - 1) ^ 2 < 2 ^ 63) :
    powerMod base 2 modulus = (base.tmod modulus * base.tmod modulus).tmod modulus := by
  have reduced := abs_tmod_lt base (by omega : 0 < modulus)
  have one : |(1 : Int)| < modulus := by
    rw [abs_one]
    omega
  have square := wrap64_mul reduced reduced fits
  have product := wrap64_mul one
    (abs_tmod_lt (base.tmod modulus * base.tmod modulus) (by omega : 0 < modulus)) fits
  rw [one_mul] at product
  simp [powerMod, squareMultiply, square, product]

/-- A public key whose remainder is 0 or 1. -/
def DegenerateKey (publicKey : Int) : Prop :=
  publicKey.tmod dhPrime = 0 ∨ publicKey.tmod dhPrime = 1

instance (publicKey : Int) : Decidable (DegenerateKey publicKey) :=
  inferInstanceAs (Decidable (_ ∨ _))

/-- The powers of a degenerate key are all the same. -/
theorem calculateSharedSecret_degenerate {publicKey : Int} (degenerate : DegenerateKey publicKey)
    {privateKey : Int} (positive : 1 ≤ privateKey) :
    calculateSharedSecret publicKey privateKey = publicKey.tmod dhPrime := by
  have exponent : privateKey.toNat ≠ 0 := by omega
  rw [calculateSharedSecret, ← powerMod_tmod]
  rcases degenerate with zero | one
  · rw [zero, powerMod_eq_emod privateKey (by decide) (by decide) (by decide), zero_pow exponent]
    rfl
  · rw [one, powerMod_eq_emod privateKey (by decide) (by decide) (by decide), one_pow]
    rfl

/-- A key whose first two powers agree is degenerate: it is idempotent modulo a
prime. -/
theorem degenerate_of_same {publicKey : Int}
    (same : deriveSessionKey (calculateSharedSecret publicKey 1) 64 =
      deriveSessionKey (calculateSharedSecret publicKey 2) 64) : DegenerateKey publicKey := by
  have positive : 0 < dhPrime := by decide
  have secrets := deriveSessionKey_inj
    (powerMod_modEq publicKey 1 (by decide) (by decide)).1
    (powerMod_modEq publicKey 2 (by decide) (by decide)).1 same
  rw [powerMod_exp_one publicKey (by decide) (by decide),
    powerMod_exp_two publicKey (by decide) (by decide)] at secrets
  have small := (abs_lt.mp (abs_tmod_lt publicKey positive)).2
  rw [DegenerateKey]
  generalize publicKey.tmod dhPrime = base at secrets small ⊢
  have square : 0 ≤ base * base := mul_self_nonneg base
  rw [Int.tmod_eq_emod_of_nonneg square] at secrets
  have nonneg : 0 ≤ base := by
    rw [secrets]
    exact Int.emod_nonneg _ positive.ne'
  have divides : dhPrime ∣ base * (base - 1) := by
    have multiple := Int.dvd_sub_self_of_emod_eq secrets.symm
    have factored : base * (base - 1) = base * base - base := by ring
    rw [factored]
    exact (dvd_sub_comm).mp multiple
  rcases dhPrime_prime.dvd_or_dvd divides with whole | shifted
  · exact Or.inl (Int.eq_zero_of_dvd_of_nonneg_of_lt nonneg small whole)
  · right
    by_cases zero : base = 0
    · rw [zero] at shifted
      exact absurd shifted (by decide)
    · have difference := Int.eq_zero_of_dvd_of_nonneg_of_lt (by omega) (by omega) shifted
      omega

end RideHailing.Common
