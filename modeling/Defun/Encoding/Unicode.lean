import Defun.Encoding.CodeTable

/-!
# Encodings of Unicode

Malformed UTF-8 reads as one U+FFFD for each longest piece that could have begun
a well-formed sequence, and for each octet that could not.  In UTF-16, a
surrogate that has no partner reads as U+FFFD, and so does a single octet at the
end.  A byte order mark is a character like any other.
-/

namespace Defun

namespace Encoding

/-- The number of octets at the front of a text that can follow a lead octet. -/
def followers (lead : Lead) : Bytes → Nat
  | [] => 0
  | second :: rest =>
      if second < lead.lower || lead.upper < second then 0
      else 1 + ((rest.take (lead.following - 1)).takeWhile isContinuation).length

def utf8Piece (octet : UInt8) (rest : Bytes) : Decoded :=
  if octet < 0x80 then .one (ascii octet) 0
  else
    match Rune.sequence? octet rest, Lead.of? octet with
    | some rune, _ => .one rune.char (rune.width - 1)
    | none, some lead => .one replacement (followers lead rest)
    | none, none => .malformed

def utf8Chars (text : Bytes) : List Char := decodeWith utf8Piece text

/-- The order of the octets in a 16-bit unit. -/
inductive ByteOrder where
  | bigEndian
  | littleEndian
deriving DecidableEq, Repr

def ByteOrder.unit : ByteOrder → UInt8 → UInt8 → Nat
  | bigEndian, first, second => first.toNat * 256 + second.toNat
  | littleEndian, first, second => second.toNat * 256 + first.toNat

/-- Whether a unit is one of the pair of surrogates that encodes a character. -/
def isSurrogate (unit : Nat) : Bool := 0xD800 ≤ unit && unit ≤ 0xDFFF

/-- Whether a unit can be the second one of a pair. -/
def isTrailingSurrogate (unit : Nat) : Bool := 0xDC00 ≤ unit && unit ≤ 0xDFFF

/-- The character of a pair of surrogates.  The first of them may be out of
place. -/
def surrogatePair (first second : Nat) : Char :=
  if isTrailingSurrogate first then replacement
  else Char.ofNat (0x10000 + (first - 0xD800) * 1024 + (second - 0xDC00))

def utf16Piece (order : ByteOrder) (octet : UInt8) (rest : Bytes) : Decoded :=
  match rest with
  | [] => .malformed
  | second :: rest =>
      let unit := order.unit octet second
      if !isSurrogate unit then .one (Char.ofNat unit) 1
      else
        match rest with
        | third :: fourth :: _ =>
            let next := order.unit third fourth
            if isTrailingSurrogate next then .one (surrogatePair unit next) 3
            else .malformedPair
        | _ => .malformedPair

def utf16Chars (order : ByteOrder) (text : Bytes) : List Char :=
  decodeWith (utf16Piece order) text

end Encoding

end Defun
