import Defun.Text.Bytes

/-!
# Characters of a text

A text is read as a sequence of runes.  A rune is either one well-formed
UTF-8 sequence or a single octet that does not begin one; the latter reads as
the replacement character U+FFFD.  Nothing is lost: the octets of the runes,
one after the other, are the text.
-/

namespace Defun

/-- What a lead octet announces: how many octets follow it, the bounds of the
first of them, and the bits that the lead octet contributes.  The bounds rule
out overlong forms, surrogates and values above U+10FFFF. -/
structure Lead where
  following : Nat
  lower : UInt8
  upper : UInt8
  bits : Nat

/-- The announcement of a lead octet of a multi-octet sequence. -/
def Lead.of? (octet : UInt8) : Option Lead :=
  if octet < 0xC2 then none
  else if octet < 0xE0 then some ⟨1, 0x80, 0xBF, octet.toNat - 0xC0⟩
  else if octet < 0xF0 then
    some ⟨2, if octet = 0xE0 then 0xA0 else 0x80,
      if octet = 0xED then 0x9F else 0xBF, octet.toNat - 0xE0⟩
  else if octet < 0xF5 then
    some ⟨3, if octet = 0xF0 then 0x90 else 0x80,
      if octet = 0xF4 then 0x8F else 0xBF, octet.toNat - 0xF0⟩
  else none

/-- Continuation octets carry six bits each. -/
def isContinuation (octet : UInt8) : Bool :=
  0x80 ≤ octet && octet ≤ 0xBF

/-- The replacement character, which stands for an octet that belongs to no
well-formed sequence. -/
def replacement : Char := '\uFFFD'

/-- A character together with the octets that it was read from. -/
structure Rune where
  char : Char
  octets : Bytes
deriving DecidableEq

namespace Rune

/-- The well-formed multi-octet sequence that begins with `lead` and goes on
with `rest`. -/
def sequence? (lead : UInt8) (rest : Bytes) : Option Rune :=
  match Lead.of? lead, rest with
  | some announced, second :: rest =>
      if second < announced.lower || announced.upper < second then none
      else
        let value := announced.bits * 64 + (second.toNat - 0x80)
        match announced.following, rest with
        | 1, _ => some ⟨Char.ofNat value, [lead, second]⟩
        | 2, third :: _ =>
            if isContinuation third then
              some ⟨Char.ofNat (value * 64 + (third.toNat - 0x80)),
                [lead, second, third]⟩
            else none
        | 3, third :: fourth :: _ =>
            if isContinuation third && isContinuation fourth then
              some ⟨Char.ofNat ((value * 64 + (third.toNat - 0x80)) * 64 +
                (fourth.toNat - 0x80)), [lead, second, third, fourth]⟩
            else none
        | _, _ => none
  | _, _ => none

/-- The first rune of the text `octet :: rest`. -/
def first (octet : UInt8) (rest : Bytes) : Rune :=
  if octet < 0x80 then ⟨Char.ofNat octet.toNat, [octet]⟩
  else (sequence? octet rest).getD ⟨replacement, [octet]⟩

/-- Whether a rune stands for an octet that begins no well-formed sequence. -/
def isMalformed (rune : Rune) : Bool :=
  rune.char == replacement && rune.octets.length == 1

def width (rune : Rune) : Nat :=
  rune.octets.length

/-- The runes of a text of which the first `pending` octets were already read
as part of an earlier rune. -/
def readFrom (pending : Nat) : Bytes → List Rune
  | [] => []
  | octet :: rest =>
      match pending with
      | left + 1 => readFrom left rest
      | 0 =>
          let rune := first octet rest
          rune :: readFrom (rune.width - 1) rest

def read (text : Bytes) : List Rune :=
  readFrom 0 text

def octetsOf (runes : List Rune) : Bytes :=
  runes.flatMap Rune.octets

/-- The rune of a character in well-formed text. -/
def ofChar (char : Char) : Rune :=
  ⟨char, String.utf8EncodeChar char⟩

end Rune

namespace Bytes

/-- The UTF-8 octets of a character. -/
def ofChar (char : Char) : Bytes :=
  String.utf8EncodeChar char

def ofChars (chars : List Char) : Bytes :=
  chars.flatMap ofChar

/-- The characters of a text; each malformed octet reads as U+FFFD. -/
def chars (text : Bytes) : List Char :=
  (Rune.read text).map Rune.char

def isWellFormed (text : Bytes) : Bool :=
  (Rune.read text).all fun rune => !rune.isMalformed

end Bytes

end Defun
