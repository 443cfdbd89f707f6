import Mathlib.Data.List.Basic
import Defun.Proofs.Text.Ascii

/-!
# Values of numerals

The canonical numeral of a number is read as that number, and zeros in front
of digits do not count.
-/

namespace Defun

namespace Decimal

theorem toNat_octet {char : Char} (small : char.toNat < 0x100) :
    (Bytes.octet char).toNat = char.toNat := by
  rw [Bytes.octet, Nat.toUInt8, UInt8.toNat_ofNat', Nat.mod_eq_of_lt small]

theorem isDigit_of_mem_ofNat {number : Nat} {octet : UInt8}
    (member : octet ∈ ofNat number) : isDigit octet = true := by
  obtain ⟨char, charMem, rfl⟩ := List.mem_map.mp member
  have isDigitChar : 0x30 ≤ char.toNat ∧ char.toNat ≤ 0x39 :=
    Defun.isDigit_iff.mp
      (Nat.isDigit_of_mem_toDigits (by decide) (by decide) charMem)
  rw [isDigit_iff, toNat_octet (by omega)]
  exact isDigitChar

@[simp]
theorem ofNat_ne_nil (number : Nat) : ofNat number ≠ [] := by
  rw [ofNat, Ne, List.map_eq_nil_iff]
  exact Nat.toDigits_ne_nil

@[simp]
theorem value_ofNat (number : Nat) : value (ofNat number) = number := by
  have sameDigits (total : Nat) (char : Char)
      (member : char ∈ Nat.toDigits 10 number) :
      total * 10 + ((Bytes.octet char).toNat - 0x30) =
        10 * total + (char.toNat - '0'.toNat) := by
    have isDigitChar := Defun.isDigit_iff.mp
      (Nat.isDigit_of_mem_toDigits (by decide) (by decide) member)
    rw [toNat_octet (by omega), Nat.mul_comm]
    rfl
  rw [value, ofNat, List.foldl_map, List.foldl_ext _ _ _ sameDigits,
    ← Nat.ofDigitChars_eq_foldl]
  exact Nat.ofDigitChars_toDigits (by decide) (by decide)

@[simp]
theorem value_zeros_append (zeros : Nat) (digits : Bytes) :
    value (List.replicate zeros 0x30 ++ digits) = value digits := by
  induction zeros with
  | zero => rfl
  | succ zeros ih =>
      rw [List.replicate_succ, List.cons_append, ← ih]
      rfl

theorem toInt?_of_digits {digits : Bytes} (digitsNe : digits ≠ [])
    (areDigits : ∀ octet ∈ digits, isDigit octet = true) :
    toInt? digits = some (value digits : Int) := by
  cases digits with
  | nil => exact absurd rfl digitsNe
  | cons first rest =>
      have firstDigit := isDigit_iff.mp (areDigits first List.mem_cons_self)
      have notMinus : first ≠ Bytes.octet '-' := by
        rintro rfl
        exact absurd firstDigit.1 (by decide)
      have notPlus : first ≠ Bytes.octet '+' := by
        rintro rfl
        exact absurd firstDigit.1 (by decide)
      rw [toInt?, if_neg notMinus, if_neg notPlus, toNat?,
        List.all_eq_true.mpr areDigits]
      rfl

/-- The numeral of an integer is read as that integer. -/
@[simp]
theorem toInt?_ofInt (number : Int) : toInt? (ofInt number) = some number := by
  have read : toInt? (ofNat number.natAbs) = some (number.natAbs : Int) := by
    simp [toInt?_of_digits (ofNat_ne_nil _) fun _ => isDigit_of_mem_ofNat]
  rw [ofInt]
  split
  case isFalse notNegative =>
      rw [read]
      exact congrArg some (Int.natAbs_of_nonneg (by omega))
  case isTrue negative =>
      have areDigits : (ofNat number.natAbs).all isDigit = true :=
        List.all_eq_true.mpr fun _ => isDigit_of_mem_ofNat
      rw [toInt?, if_pos rfl, toNat?, areDigits, value_ofNat]
      simp only [List.isEmpty_eq_false_iff.mpr (ofNat_ne_nil _)]
      have negated : -(number.natAbs : Int) = number := by omega
      exact congrArg some negated

/-- Only the numeral of zero begins with a zero. -/
theorem head?_ofNat_ne_zero {number : Nat} (positive : 0 < number) :
    (ofNat number).head? ≠ some (Bytes.octet '0') := by
  induction number using Nat.strongRecOn with
  | ind number ih =>
      by_cases small : number < 10
      · have digits : ∀ digit < 10, 0 < digit →
            Bytes.octet digit.digitChar ≠ Bytes.octet '0' := by decide
        rw [ofNat, Nat.toDigits_of_lt_base small]
        intro isZero
        exact digits number small positive (Option.some.inj isZero)
      · have split : Nat.toDigits 10 number =
            Nat.toDigits 10 (number / 10) ++ [(number % 10).digitChar] :=
          Nat.toDigits_of_base_le (by decide) (by omega)
        have shorter := ih (number / 10) (by omega) (by omega)
        rw [ofNat, split, List.map_append, List.head?_append_of_ne_nil]
        · exact shorter
        · exact ofNat_ne_nil (number / 10)

end Decimal

end Defun
