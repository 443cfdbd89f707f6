import Defun.Encoding.Jis0208
import Defun.Encoding.Jis0212

/-!
# Japanese encodings

Shift_JIS, EUC-JP and ISO-2022-JP write the characters of JIS X 0208, and the
last two those of JIS X 0212, each in its own arrangement of octets.
-/

namespace Defun

namespace Encoding

/-- The half-width katakana at a distance from the first one. -/
def katakana (distance : Nat) : Char := Char.ofNat (0xFF61 + distance)

/-- The character of two octets of Shift_JIS.  A lead octet covers two rows of
94 characters. -/
def shiftJisPair (lead trail : UInt8) : Decoded :=
  let row := 2 * (lead.toNat - if lead ≤ 0x9F then 0x81 else 0xC1)
  if trail < 0x40 || trail = 0x7F then .malformed
  else if trail < 0x7F then
    .one (jis0208.find (row * 94 + (trail.toNat - 0x40))) 1
  else if trail < 0x9F then
    .one (jis0208.find (row * 94 + (trail.toNat - 0x41))) 1
  else if trail < 0xFD then
    .one (jis0208.find ((row + 1) * 94 + (trail.toNat - 0x9F))) 1
  else .malformedPair

def shiftJisPiece (octet : UInt8) (rest : Bytes) : Decoded :=
  if octet ≤ 0x80 then .one (ascii octet) 0
  else if 0xA1 ≤ octet && octet < 0xE0 then .one (katakana (octet.toNat - 0xA1)) 0
  else if octet < 0xA0 || (0xE0 ≤ octet && octet < 0xFD) then
    match rest with
    | trail :: _ => shiftJisPair octet trail
    | [] => .malformed
  else .malformed

def shiftJisChars (text : Bytes) : List Char := decodeWith shiftJisPiece text

/-- The octets of characters in the upper half. -/
def isUpper (octet : UInt8) : Bool := 0xA1 ≤ octet && octet ≤ 0xFE

/-- The index of two octets in a table of 94 columns whose first octet is
`base`. -/
def gridIndex (base first second : UInt8) : Nat :=
  (first - base).toNat * 94 + (second - base).toNat

/-- Decodes a piece of EUC-JP behind the octet that announces katakana. -/
def eucKatakana : Bytes → Decoded
  | [] => .malformed
  | second :: _ =>
      if second < 0xA1 || second = 0xFF then .malformed
      else if second > 0xDF then .malformedPair
      else .one (katakana (second.toNat - 0xA1)) 1

/-- Decodes a piece of EUC-JP behind the octet that announces JIS X 0212. -/
def eucSupplement : Bytes → Decoded
  | [] => .malformed
  | [second] =>
      if 0xA1 ≤ second && second < 0xFE then .malformedPair else .malformed
  | second :: third :: _ =>
      if !isUpper second then .malformed
      else if !isUpper third then .malformedPair
      else .one (jis0212.find (gridIndex 0xA1 second third)) 2

def eucJpPiece (octet : UInt8) (rest : Bytes) : Decoded :=
  if octet < 0x80 then .one (ascii octet) 0
  else if octet = 0x8E then eucKatakana rest
  else if octet = 0x8F then eucSupplement rest
  else if isUpper octet then
    match rest with
    | second :: _ =>
        if isUpper second then
          .one (jis0208.find (gridIndex 0xA1 octet second)) 1
        else .malformed
    | [] => .malformed
  else .malformed

def eucJpChars (text : Bytes) : List Char := decodeWith eucJpPiece text

/-- The character set that is in force in ISO-2022-JP. -/
inductive Designation where
  | ascii
  | katakana
  | jis0208
  | jis0212
deriving DecidableEq, Repr

/-- The character set that an escape sequence designates, and the number of its
octets behind the escape. -/
def designation? : Bytes → Option (Designation × Nat)
  | 0x24 :: 0x40 :: _ => some (.jis0208, 2)
  | 0x24 :: 0x42 :: _ => some (.jis0208, 2)
  | 0x24 :: 0x28 :: 0x44 :: _ => some (.jis0212, 3)
  | 0x28 :: 0x42 :: _ => some (.ascii, 2)
  | 0x28 :: 0x4A :: _ => some (.ascii, 2)
  | 0x28 :: 0x49 :: _ => some (.katakana, 2)
  | _ => none

/-- Decodes a piece of ISO-2022-JP in a table of two octets for each character.
A line feed goes back to ASCII. -/
def isoPair (current : Designation) (table : CodeTable) (octet : UInt8)
    (rest : Bytes) : Designation × Decoded :=
  if octet = 0x0A then (.ascii, .one '\n' 0)
  else
    match rest with
    | second :: _ =>
        (current, .one (table.find (gridIndex 0x21 octet second)) 1)
    | [] => (current, .malformed)

def isoPiece (current : Designation) (octet : UInt8) (rest : Bytes) :
    Designation × Decoded :=
  if octet ≥ 0x80 then (current, .malformed)
  else if octet = 0x1B then
    match designation? rest with
    | some (next, following) => (next, ⟨[], following⟩)
    | none => (current, .malformed)
  else
    match current with
    | .ascii => (current, .one (Encoding.ascii octet) 0)
    | .katakana =>
        if octet < 0x21 || octet ≥ 0x60 then (current, .malformed)
        else (current, .one (Encoding.katakana (octet.toNat - 0x21)) 0)
    | .jis0208 => isoPair current Encoding.jis0208 octet rest
    | .jis0212 => isoPair current Encoding.jis0212 octet rest

/-- Decodes ISO-2022-JP with a character set in force. -/
def iso2022JpFrom (current : Designation) : Bytes → List Char
  | [] => []
  | octet :: rest =>
      let (next, piece) := isoPiece current octet rest
      piece.chars ++ iso2022JpFrom next (rest.drop piece.following)
termination_by text => text.length
decreasing_by
  simp only [List.length_drop, List.length_cons]
  omega

def iso2022JpChars (text : Bytes) : List Char := iso2022JpFrom .ascii text

end Encoding

end Defun
