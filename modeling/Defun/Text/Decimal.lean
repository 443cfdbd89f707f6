import Defun.Text.Bytes

/-!
# Decimal numerals

Integers are written in base ten without superfluous zeros and with a minus
sign in front of negative values.  Reading accepts any number of leading
zeros and one optional sign.
-/

namespace Defun

namespace Decimal

def ofNat (value : Nat) : Bytes :=
  (Nat.toDigits 10 value).map Bytes.octet

/-- The numeral of a natural number with at least so many digits. -/
def padded (width value : Nat) : Bytes :=
  let digits := ofNat value
  List.replicate (width - digits.length) (Bytes.octet '0') ++ digits

def ofInt (value : Int) : Bytes :=
  if value < 0 then Bytes.octet '-' :: ofNat value.natAbs
  else ofNat value.natAbs

def isDigit (octet : UInt8) : Bool :=
  0x30 ≤ octet && octet ≤ 0x39

/-- The value of a string of digits, the most significant first. -/
def value (digits : Bytes) : Nat :=
  digits.foldl (fun total digit => total * 10 + (digit.toNat - 0x30)) 0

/-- The natural number that a non-empty string of digits denotes. -/
def toNat? (text : Bytes) : Option Nat :=
  if !text.isEmpty && text.all isDigit then some (value text) else none

/-- The integer denoted by digits behind an optional sign. -/
def toInt? : Bytes → Option Int
  | [] => none
  | first :: rest =>
      if first = Bytes.octet '-' then (toNat? rest).map fun value => -value
      else if first = Bytes.octet '+' then (toNat? rest).map Int.ofNat
      else (toNat? (first :: rest)).map Int.ofNat

/-- The integers that fit in a signed word of 32 bits. -/
def FitsWord (value : Int) : Prop :=
  -2147483648 ≤ value ∧ value ≤ 2147483647

instance (value : Int) : Decidable (FitsWord value) :=
  inferInstanceAs (Decidable (_ ∧ _))

/-- The 32-bit integer that a numeral denotes, if it denotes one. -/
def toWord? (text : Bytes) : Option Int :=
  (toInt? text).filter fun value => decide (FitsWord value)

end Decimal

end Defun
