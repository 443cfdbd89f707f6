import Defun.Text.Printable
import Defun.Text.Rune

/-!
# Quoted texts

A quoted text stands between double quotes.  Printable characters are kept,
quotes and backslashes are escaped, and everything else is written as an
escape: a letter for the common control characters, two hexadecimal digits for
other control characters and for malformed octets, and four or eight digits
for other code points.
-/

namespace Defun

namespace Quoted

def hexDigit (value : Nat) : UInt8 :=
  if value < 10 then (0x30 + value).toUInt8 else (0x57 + value).toUInt8

/-- The lowest hexadecimal digits of a value, the most significant first. -/
def hexDigits (value : Nat) : (count : Nat) → Bytes
  | 0 => []
  | count + 1 => hexDigits (value / 16) count ++ [hexDigit (value % 16)]

/-- The control characters that have a letter of their own. -/
def letterEscapes : List (Nat × Char) :=
  [(7, 'a'), (8, 'b'), (12, 'f'), (10, 'n'), (13, 'r'), (9, 't'), (11, 'v')]

/-- The written form of a character that is not printable. -/
def escapeCode (code : Nat) : Bytes :=
  match letterEscapes.lookup code with
  | some letter => "\\" ++ [Bytes.octet letter]
  | none =>
      if code < 0x20 || code = 0x7F then "\\x" ++ hexDigits code 2
      else if code < 0x10000 then "\\u" ++ hexDigits code 4
      else "\\U" ++ hexDigits code 8

def escapeRune (rune : Rune) : Bytes :=
  if rune.isMalformed then
    "\\x" ++ rune.octets.flatMap fun octet => hexDigits octet.toNat 2
  else if rune.char == '"' || rune.char == '\\' then "\\" ++ rune.octets
  else if Printable.isPrintable rune.char then rune.octets
  else escapeCode rune.char.toNat

/-- A text between double quotes. -/
def quote (text : Bytes) : Bytes :=
  "\"" ++ (Rune.read text).flatMap escapeRune ++ "\""

/-- Whether a rune may stand between back quotes unchanged. -/
def isRawRune (rune : Rune) : Bool :=
  let code := rune.char.toNat
  if rune.width > 1 then code != 0xFEFF
  else !rune.isMalformed && (code ≥ 0x20 || code = 9) && code != 0x60 &&
    code != 0x7F

/-- A text between back quotes if it can stand there unchanged, and a quoted
text otherwise. -/
def quoteRaw (text : Bytes) : Bytes :=
  if (Rune.read text).all isRawRune then "`" ++ text ++ "`" else quote text

end Quoted

end Defun
