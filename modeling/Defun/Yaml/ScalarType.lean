import Defun.Text.Decimal

/-!
# Types of plain scalars

A plain scalar without a tag has a type that its spelling shows: a null, a
boolean, an integer, a float, a time or else a text.  Each type has a tag.
-/

namespace Defun

namespace Yaml

inductive ScalarType where
  | null
  | boolean
  | integer
  | float
  | timestamp
  | text
deriving DecidableEq, Repr

namespace ScalarType

def tag : ScalarType → Bytes
  | null => "!!null"
  | boolean => "!!bool"
  | integer => "!!int"
  | float => "!!float"
  | timestamp => "!!timestamp"
  | text => "!!str"

def all : List ScalarType := [null, boolean, integer, float, timestamp, text]

def ofTag? (tag : Bytes) : Option ScalarType :=
  all.find? fun type => type.tag == tag

end ScalarType

def nulls : List Bytes := ["", "~", "null", "Null", "NULL"]

def truths : List Bytes := ["true", "True", "TRUE"]

def falsehoods : List Bytes := ["false", "False", "FALSE"]

/-- The spellings of floats that are not written with digits. -/
def namedFloats : List Bytes :=
  [".nan", ".NaN", ".NAN", ".inf", ".Inf", ".INF", "+.inf", "+.Inf", "+.INF",
   "-.inf", "-.Inf", "-.INF"]

def digitValue? (base : Nat) (octet : UInt8) : Option Nat :=
  let value? : Option Nat :=
    if 48 ≤ octet && octet ≤ 57 then some (octet.toNat - 48)
    else if 97 ≤ octet && octet ≤ 102 then some (octet.toNat - 87)
    else if 65 ≤ octet && octet ≤ 70 then some (octet.toNat - 55)
    else none
  value?.filter (· < base)

def digitsValue? (base : Nat) (digits : Bytes) : Option Nat :=
  digits.foldlM (fun value digit =>
    (digitValue? base digit).map (value * base + ·)) 0

/-- The value of a number whose base its first octets show: `0x`, `0b` and `0o`
in either case, or a leading zero for base eight. -/
def prefixedValue? : Bytes → Option Nat
  | [] => none
  | 48 :: mark :: digit :: digits =>
      let letter := mark ||| 32
      if letter == 120 then digitsValue? 16 (digit :: digits)
      else if letter == 98 then digitsValue? 2 (digit :: digits)
      else if letter == 111 then digitsValue? 8 (digit :: digits)
      else digitsValue? 8 (mark :: digit :: digits)
  | 48 :: digits => digitsValue? 8 digits
  | digits => digitsValue? 10 digits

/-- Whether a number with an optional sign fits 64 bits, a positive number also
without a sign bit. -/
def isInteger (value? : Bytes → Option Nat) (text : Bytes) : Bool :=
  match text with
  | 45 :: digits => (value? digits).any (· ≤ Nat.pow 2 63)
  | 43 :: digits => (value? digits).any (· < Nat.pow 2 63)
  | digits => (value? digits).any (· < Nat.pow 2 64)

/-- The value of digits of which there is at least one. -/
def someDigitsValue? (base : Nat) (digits : Bytes) : Option Nat :=
  if digits.isEmpty then none else digitsValue? base digits

/-- Whether a text is an integer behind one of the marks of a base.  A sign may
stand in front of the mark, or behind it if none is in front. -/
def isMarkedInteger (mark : Bytes) (base : Nat) (text : Bytes) : Bool :=
  match mark.isPrefixOf text, (45 :: mark).isPrefixOf text with
  | true, _ => isInteger (someDigitsValue? base) (text.drop mark.length)
  | false, true =>
      isInteger (someDigitsValue? base) (45 :: text.drop (mark.length + 1))
  | false, false => false

/-- A decimal number without its sign: all digits as one number, how many of
them stand behind the point, and the exponent. -/
structure DecimalFloat where
  digits : Nat
  places : Nat
  exponent : Int

/-- The number below which a float does not overflow. -/
def floatBound : Nat := Nat.pow 2 1024 - Nat.pow 2 970

/-- Whether a number is in the range of 64-bit floats. -/
def DecimalFloat.isFinite (number : DecimalFloat) : Bool :=
  let power := number.exponent - number.places
  if number.digits = 0 then true
  else if power > 400 then false
  else if power ≥ 0 then
    number.digits * Nat.pow 10 power.toNat < floatBound
  else number.digits < floatBound * Nat.pow 10 (-power).toNat

/-- Whether an underscore stands between two digits wherever there is one. -/
def separatesDigits (text : Bytes) : Bool :=
  let isDigit? : Option UInt8 → Bool := fun octet => octet.any Decimal.isDigit
  (List.range text.length).all fun place =>
    text[place]? != some 95 ||
      (place ≠ 0 && isDigit? text[place - 1]? && isDigit? text[place + 1]?)

/-- The exponent behind the letter `e`.  Exponents are cut off beyond 10000. -/
def exponent? (text : Bytes) : Option Int :=
  let read (digits : Bytes) : Option Int :=
    if digits.isEmpty || !digits.all Decimal.isDigit then none
    else some (min (Decimal.value digits) 99999 : Nat)
  match text with
  | 43 :: digits => read digits
  | 45 :: digits => (read digits).map (- ·)
  | digits => read digits

/-- Reads a decimal number without a sign. -/
def DecimalFloat.ofText? (text : Bytes) : Option DecimalFloat := do
  let (mantissa, tail) := text.span fun octet => octet != 101 && octet != 69
  let exponent ← if tail.isEmpty then some 0 else exponent? (tail.drop 1)
  let (whole, fraction) := mantissa.span (· != 46)
  let digits := whole ++ fraction.drop 1
  if digits.isEmpty || !digits.all Decimal.isDigit then none
  else some ⟨Decimal.value digits, (fraction.drop 1).length, exponent⟩

/-- Whether a text that begins with a point is a float.  Underscores may
separate its digits. -/
def isPointFloat (text : Bytes) : Bool :=
  separatesDigits text &&
    ((DecimalFloat.ofText? (text.filter (· != 95))).any (·.isFinite))

/-- Whether a text that begins with a digit or a sign is a float. -/
def isSignedFloat (text : Bytes) : Bool :=
  let number :=
    match text with
    | 43 :: rest => rest
    | 45 :: rest => rest
    | text => text
  (DecimalFloat.ofText? number).any (·.isFinite)

def daysIn (year month : Nat) : Nat :=
  if month = 2 then
    if year % 4 = 0 && (year % 100 ≠ 0 || year % 400 = 0) then 29 else 28
  else if month ∈ [4, 6, 9, 11] then 30
  else 31

/-- One or two digits, and what is behind them. -/
def shortNumber? : Bytes → Option (Nat × Bytes)
  | first :: second :: rest =>
      if !Decimal.isDigit first then none
      else if Decimal.isDigit second then
        some (Decimal.value [first, second], rest)
      else some (Decimal.value [first], second :: rest)
  | [first] => if Decimal.isDigit first then some (Decimal.value [first], []) else none
  | [] => none

/-- What is behind an octet. -/
def behind? (octet : UInt8) : Bytes → Option Bytes
  | first :: rest => if first == octet then some rest else none
  | [] => none

/-- What is behind the date at the front of a text: a year of four digits, a
month and a day. -/
def behindDate? (text : Bytes) : Option Bytes := do
  let (year, rest) := text.span Decimal.isDigit
  if year.length ≠ 4 then none
  let (month, rest) ← shortNumber? (← behind? 45 rest)
  let (day, rest) ← shortNumber? (← behind? 45 rest)
  if 1 ≤ month && month ≤ 12 && 1 ≤ day &&
      day ≤ daysIn (Decimal.value year) month then
    some rest
  else none

/-- What is behind the digits of a fraction of a second, if there are any. -/
def behindFraction (text : Bytes) : Bytes :=
  match text with
  | mark :: digit :: rest =>
      if (mark == 46 || mark == 44) && Decimal.isDigit digit then
        rest.dropWhile Decimal.isDigit
      else text
  | text => text

/-- What is behind the time of day at the front of a text. -/
def behindTime? (text : Bytes) : Option Bytes := do
  let (hour, rest) ← shortNumber? text
  let (minute, rest) ← shortNumber? (← behind? 58 rest)
  let (second, rest) ← shortNumber? (← behind? 58 rest)
  if hour < 24 && minute < 60 && second < 60 then some (behindFraction rest)
  else none

/-- Whether a text is a time zone: `Z`, or a sign with hours and minutes. -/
def isZone : Bytes → Bool
  | [90] => true
  | [sign, hour, hour', 58, minute, minute'] =>
      (sign == 43 || sign == 45) &&
        [hour, hour', minute, minute'].all Decimal.isDigit &&
        Decimal.value [hour, hour'] ≤ 24 && Decimal.value [minute, minute'] ≤ 60
  | _ => false

/-- Whether a text is a date, alone, with a time of day behind a blank, or with
a time of day and a zone behind the letter `T`. -/
def isTimestamp (text : Bytes) : Bool :=
  match behindDate? text with
  | none => false
  | some [] => true
  | some (mark :: rest) =>
      if mark == 84 || mark == 116 then (behindTime? rest).any isZone
      else if mark == 32 then
        (behindTime? (rest.dropWhile (· == 32))).any List.isEmpty
      else false

/-- The type that the spelling of a plain scalar shows. -/
def ScalarType.ofPlain (text : Bytes) : ScalarType :=
  if nulls.contains text then .null
  else if truths.contains text || falsehoods.contains text then .boolean
  else if namedFloats.contains text then .float
  else
    match text with
    | 46 :: _ => if isPointFloat text then .float else .text
    | first :: _ =>
        if first == 43 || first == 45 || Decimal.isDigit first then
          let plain := text.filter (· != 95)
          if isTimestamp text then .timestamp
          else if isInteger prefixedValue? plain then .integer
          else if isSignedFloat plain then .float
          else if isMarkedInteger "0b" 2 plain || isMarkedInteger "0o" 8 plain
          then .integer
          else .text
        else .text
    | [] => .null

end Yaml

end Defun
