import Defun.Proofs.Text.Rune
import Defun.Text.Decimal

/-!
# ASCII classes

Letters and digits as characters and as octets.
-/

namespace Defun

theorem isDigit_iff {char : Char} :
    char.isDigit = true ↔ 0x30 ≤ char.toNat ∧ char.toNat ≤ 0x39 := by
  simp [Char.isDigit, UInt32.le_iff_toNat_le]

theorem isAlpha_iff {char : Char} :
    char.isAlpha = true ↔
      (0x41 ≤ char.toNat ∧ char.toNat ≤ 0x5A) ∨
        (0x61 ≤ char.toNat ∧ char.toNat ≤ 0x7A) := by
  change (decide ('A'.val ≤ char.val ∧ char.val ≤ 'Z'.val) ||
    decide ('a'.val ≤ char.val) && decide (char.val ≤ 'z'.val)) = true ↔ _
  simp [UInt32.le_iff_toNat_le]

/-- The octets of the letters of ASCII. -/
def Bytes.isLetter (octet : UInt8) : Bool :=
  (0x41 ≤ octet && octet ≤ 0x5A) || (0x61 ≤ octet && octet ≤ 0x7A)

theorem Bytes.isLetter_iff {octet : UInt8} :
    Bytes.isLetter octet = true ↔
      (0x41 ≤ octet.toNat ∧ octet.toNat ≤ 0x5A) ∨
        (0x61 ≤ octet.toNat ∧ octet.toNat ≤ 0x7A) := by
  simp [Bytes.isLetter, UInt8.le_iff_toNat_le]

theorem Decimal.isDigit_iff {octet : UInt8} :
    Decimal.isDigit octet = true ↔
      0x30 ≤ octet.toNat ∧ octet.toNat ≤ 0x39 := by
  simp [Decimal.isDigit, UInt8.le_iff_toNat_le]

namespace Rune

@[simp]
theorem ascii_isAlpha (octet : UInt8) :
    (ascii octet).char.isAlpha = Bytes.isLetter octet := by
  rw [Bool.eq_iff_iff, isAlpha_iff, Bytes.isLetter_iff, ascii_char_toNat]

@[simp]
theorem ascii_isDigit (octet : UInt8) :
    (ascii octet).char.isDigit = Decimal.isDigit octet := by
  rw [Bool.eq_iff_iff, isDigit_iff, Decimal.isDigit_iff, ascii_char_toNat]

end Rune

end Defun
