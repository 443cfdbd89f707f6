import Defun.Encoding.UnifiedHangul

/-!
# EUC-KR

Korean text is written in the unified Hangul code, one or two octets for each
character.
-/

namespace Defun

namespace Encoding

/-- The column of a trail octet behind a lead octet below C7. -/
def hangulColumn? (trail : UInt8) : Option Nat :=
  if 0x41 ≤ trail && trail ≤ 0x5A then some (trail.toNat - 0x41)
  else if 0x61 ≤ trail && trail ≤ 0x7A then some (trail.toNat - 0x61 + 26)
  else if 0x81 ≤ trail && trail ≤ 0xFE then some (trail.toNat - 0x81 + 52)
  else none

/-- The character of two octets, or U+FFFD. -/
def hangulPair (lead trail : UInt8) : Char :=
  if lead < 0xC7 then
    match hangulColumn? trail with
    | some column =>
        unifiedHangulLow.find ((lead.toNat - 0x81) * 178 + column)
    | none => replacement
  else if 0xA1 ≤ trail && trail ≤ 0xFE then
    unifiedHangulHigh.find ((lead.toNat - 0xC7) * 94 + (trail.toNat - 0xA1))
  else replacement

/-- Decodes a piece of EUC-KR.  A trail octet of ASCII is not lost when the pair
has no character. -/
def eucKrPiece (octet : UInt8) (rest : Bytes) : Decoded :=
  if octet < 0x80 then .one (ascii octet) 0
  else if 0x81 ≤ octet && octet ≤ 0xFE then
    match rest with
    | [] => .malformed
    | trail :: _ =>
        let char := hangulPair octet trail
        if char != replacement then .one char 1
        else if trail < 0x80 then .malformed
        else .malformedPair
  else .malformed

def eucKrChars (text : Bytes) : List Char := decodeWith eucKrPiece text

end Encoding

end Defun
