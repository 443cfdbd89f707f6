import Defun.Text.Rune

/-!
# Reading places in YAML texts

A YAML text is a sequence of characters, decoded from UTF-8 or, behind a byte
order mark, from UTF-16.  A cursor is a place in such a text with the characters
behind it.
-/

namespace Defun

namespace Yaml

/-- Why a YAML text has no tree.  The reason is not kept. -/
structure Malformed where
deriving DecidableEq, Repr

/-- The characters that may occur in a YAML text. -/
def isAllowed (code : Nat) : Bool :=
  code = 0x09 || code = 0x0A || code = 0x0D || (0x20 ≤ code && code ≤ 0x7E) ||
    code = 0x85 || (0xA0 ≤ code && code ≤ 0xD7FF) ||
    (0xE000 ≤ code && code ≤ 0xFFFD) || (0x10000 ≤ code && code ≤ 0x10FFFF)

def utf8Chars (text : Bytes) : Option (List Char) :=
  let runes := Rune.read text
  if runes.any Rune.isMalformed then none else some (runes.map Rune.char)

/-- What octets of a text are. -/
inductive Piece where
  | char (char : Char) (width : Nat)
  /-- No character that may occur in a YAML text. -/
  | unfit (width : Nat)
  /-- The beginning of a character at the end of the text. -/
  | unfinished

def Piece.of (char : Char) (width : Nat) : Piece :=
  if isAllowed char.toNat then .char char width else .unfit width

/-- Whether a text ends within the character that it begins with. -/
def isUnfinished (text : Bytes) : Bool :=
  match text with
  | [] => false
  | lead :: rest =>
      (Lead.of? lead).any fun announced => rest.length < announced.following

/-- The pieces of the text of some runes, up to the first malformed one. -/
def utf8Pieces : List Rune → List Piece
  | [] => []
  | rune :: rest =>
      if !rune.isMalformed then .of rune.char rune.width :: utf8Pieces rest
      else if isUnfinished (Rune.octetsOf (rune :: rest)) then [.unfinished]
      else [.unfit rune.width]

def unit (bigEndian : Bool) (first second : UInt8) : Nat :=
  if bigEndian then first.toNat * 256 + second.toNat
  else second.toNat * 256 + first.toNat

/-- The pieces of a text in UTF-16 up to the first one that is no character. -/
def utf16Pieces (bigEndian : Bool) : Bytes → List Piece
  | [] => []
  | [_] => [.unfinished]
  | first :: second :: rest =>
      let code := unit bigEndian first second
      if code < 0xD800 || 0xDFFF < code then
        .of (Char.ofNat code) 2 :: utf16Pieces bigEndian rest
      else if code ≥ 0xDC00 then [.unfit 2]
      else
        match rest with
        | third :: fourth :: rest =>
            let low := unit bigEndian third fourth
            if 0xDC00 ≤ low && low ≤ 0xDFFF then
              .of (Char.ofNat (0x10000 + (code - 0xD800) * 1024 +
                (low - 0xDC00))) 4 :: utf16Pieces bigEndian rest
            else [.unfit 2]
        | _ => [.unfinished]

/-- A text is decoded in blocks of this many octets. -/
def blockSize : Nat := 512

/-- The characters in front of the first block with a piece that is unfit, and
whether something behind them cannot be decoded.  `room` is what is left of the
current block, whose characters so far are `block`; `before` are those of the
blocks before it, the last ones first. -/
def decodable : (room : Nat) → (block before : List Char) → List Piece →
    List Char × Bool
  | _, block, before, [] => ((block ++ before).reverse, false)
  | _, block, before, .unfinished :: _ => ((block ++ before).reverse, true)
  | room, block, before, .unfit width :: _ =>
      if width ≤ room then (before.reverse, true)
      else ((block ++ before).reverse, true)
  | room, block, before, .char char width :: rest =>
      if width ≤ room then decodable (room - width) (char :: block) before rest
      else decodable (blockSize - width) [char] (block ++ before) rest

/-- The characters of a YAML file that can be decoded, without a byte order mark
at its front, and whether something behind them cannot be decoded. -/
def characters (text : Bytes) : List Char × Bool :=
  match text with
  | 0xFF :: 0xFE :: rest => decodable (blockSize - 2) [] [] (utf16Pieces false rest)
  | 0xFE :: 0xFF :: rest => decodable (blockSize - 2) [] [] (utf16Pieces true rest)
  | 0xEF :: 0xBB :: 0xBF :: rest =>
      decodable (blockSize - 3) [] [] (utf8Pieces (Rune.read rest))
  | text => decodable blockSize [] [] (utf8Pieces (Rune.read text))

def isBlank (char : Char) : Bool :=
  char == ' ' || char == '\t'

/-- Line breaks: line feed, carriage return, next line, line separator and
paragraph separator. -/
def isBreak (char : Char) : Bool :=
  char == '\n' || char == '\r' || char == '\u0085' || char == '\u2028' ||
    char == '\u2029'

/-- The characters of names of anchors and of handles of tags. -/
def isWord (char : Char) : Bool :=
  char.isAlphanum || char == '_' || char == '-'

/-- A place in a text of `size` characters: the characters behind it, how many
stand before it, and its line and column, counted from zero. -/
structure Cursor where
  size : Nat
  rest : List Char
  index : Nat
  line : Nat
  column : Nat

namespace Cursor

def start (text : List Char) : Cursor := ⟨text.length, text, 0, 0, 0⟩

def remaining (cursor : Cursor) : Nat := cursor.size - cursor.index

def peek? (cursor : Cursor) : Option Char := cursor.rest.head?

/-- The character `distance` places ahead. -/
def peekAt? (cursor : Cursor) (distance : Nat) : Option Char :=
  (cursor.rest.drop distance).head?

def sees (cursor : Cursor) (char : Char) : Bool :=
  cursor.peek? == some char

/-- Whether a blank, a line break or the end of the text is `distance` places
ahead. -/
def endsAt (cursor : Cursor) (distance : Nat) : Bool :=
  match cursor.peekAt? distance with
  | none => true
  | some char => isBlank char || isBreak char

def atLineEnd (cursor : Cursor) : Bool :=
  match cursor.peek? with
  | none => true
  | some char => isBreak char

/-- The place behind the next character, which is no line break. -/
def skip (cursor : Cursor) : Cursor :=
  match cursor.rest with
  | [] => cursor
  | _ :: rest =>
      { cursor with rest, index := cursor.index + 1, column := cursor.column + 1 }

def skipBy (cursor : Cursor) : (count : Nat) → Cursor
  | 0 => cursor
  | count + 1 => cursor.skip.skipBy count

/-- The beginning of the next line, behind a line break of `width`
characters. -/
def nextLine (cursor : Cursor) (width : Nat) : Cursor :=
  { cursor with
    rest := cursor.rest.drop width
    index := cursor.index + width
    line := cursor.line + 1
    column := 0 }

/-- The line break that is next, in its plain form, and the place behind it.  A
carriage return and a line feed are one break. -/
def readBreak (cursor : Cursor) : List Char × Cursor :=
  match cursor.rest with
  | '\r' :: '\n' :: _ => (['\n'], cursor.nextLine 2)
  | char :: _ =>
      if char == '\n' || char == '\r' || char == '\u0085' then
        (['\n'], cursor.nextLine 1)
      else if isBreak char then ([char], cursor.nextLine 1)
      else ([], cursor)
  | [] => ([], cursor)

/-- The place behind the characters of a class. -/
def skipWhile (cursor : Cursor) (accept : Char → Bool) : Cursor :=
  cursor.skipBy (cursor.rest.takeWhile accept).length

/-- The characters of a class that are next, and the place behind them. -/
def readWhile (cursor : Cursor) (accept : Char → Bool) : List Char × Cursor :=
  (cursor.rest.takeWhile accept, cursor.skipWhile accept)

def skipToLineEnd (cursor : Cursor) : Cursor :=
  cursor.skipWhile fun char => !isBreak char

/-- Whether three equal characters stand alone at the beginning of a line. -/
def isMarker (cursor : Cursor) (char : Char) : Bool :=
  cursor.column = 0 && cursor.rest.take 3 == [char, char, char] &&
    cursor.endsAt 3

/-- Whether the mark of the start or the end of a document is next. -/
def atDocumentMarker (cursor : Cursor) : Bool :=
  cursor.isMarker '-' || cursor.isMarker '.'

end Cursor

end Yaml

end Defun
