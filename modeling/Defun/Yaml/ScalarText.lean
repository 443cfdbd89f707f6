import Defun.Unicode.CharSet
import Defun.Yaml.Cursor

/-!
# The text of scalars

How the characters of a scalar are read in each of the five styles: plain, in
single or double quotes, literal and folded.  Lines are folded: a single line
break between words is a space, and further breaks stay.
-/

namespace Defun

namespace Yaml

/-- The white space between two words: blanks up to the first line break, the
first line break, and the line breaks behind it. -/
structure Gap where
  blanks : List Char
  first : Option (List Char)
  more : List Char

namespace Gap

def none : Gap := ⟨[], .none, []⟩

/-- What a gap stands for. -/
def text (gap : Gap) : List Char :=
  match gap.first with
  | .none => gap.blanks
  | some ['\n'] => if gap.more.isEmpty then [' '] else gap.more
  | some first => first ++ gap.more

/-- Reads white space.  Behind a line break, a tab in front of the column
`margin` is refused. -/
def read (margin : Option Nat) :
    (fuel : Nat) → Gap → Cursor → Except Malformed (Gap × Cursor)
  | 0, gap, cursor => .ok (gap, cursor)
  | fuel + 1, gap, cursor =>
      match cursor.peek? with
      | .none => .ok (gap, cursor)
      | some char =>
          if isBlank char then
            if gap.first.isSome && char == '\t' &&
                margin.any (cursor.column < ·) then
              .error ⟨⟩
            else if gap.first.isSome then read margin fuel gap cursor.skip
            else
              read margin fuel { gap with blanks := gap.blanks ++ [char] }
                cursor.skip
          else if isBreak char then
            let (text, next) := cursor.readBreak
            if gap.first.isSome then
              read margin fuel { gap with more := gap.more ++ text } next
            else read margin fuel { gap with first := some text } next
          else .ok (gap, cursor)

end Gap

/-- Whether a plain scalar ends here although no white space is next. -/
def endsPlain (inFlow : Bool) (cursor : Cursor) : Bool :=
  (cursor.sees ':' && cursor.endsAt 1) ||
    (inFlow && (cursor.peek?.any fun char => char ∈ [',', '?', '[', ']', '\x7b', '\x7d']))

/-- The characters of a plain scalar up to white space or its end. -/
def plainWord (inFlow : Bool) :
    (fuel : Nat) → Cursor → List Char × Cursor
  | 0, cursor => ([], cursor)
  | fuel + 1, cursor =>
      match cursor.peek? with
      | none => ([], cursor)
      | some char =>
          if isBlank char || isBreak char || endsPlain inFlow cursor then
            ([], cursor)
          else
            let (word, next) := plainWord inFlow fuel cursor.skip
            (char :: word, next)

/-- The text of a plain scalar from a gap on, whether it ended behind a line
break, and the place where it ended.  In the block context its lines are
indented beyond `indent`.  A gap belongs to it only if a word follows. -/
def plainText (inFlow : Bool) (indent : Int) :
    (fuel : Nat) → Gap → Cursor →
      Except Malformed (List Char × Bool × Cursor)
  | 0, gap, cursor => .ok ([], gap.first.isSome, cursor)
  | fuel + 1, gap, cursor =>
      if cursor.atDocumentMarker || cursor.sees '#' then
        .ok ([], gap.first.isSome, cursor)
      else do
        let (word, behind) := plainWord inFlow (cursor.remaining + 1) cursor
        let text := if word.isEmpty then [] else gap.text ++ word
        let gap := if word.isEmpty then gap else Gap.none
        if (behind.peek?.any fun char => isBlank char || isBreak char) then
          let margin := (indent + 1).toNat
          let (gap, next) ←
            Gap.read (some margin) (behind.remaining + 1) gap behind
          if !inFlow && (next.column : Int) < indent + 1 then
            return (text, gap.first.isSome, next)
          else
            let (more, isBroken, last) ← plainText inFlow indent fuel gap next
            return (text ++ more, isBroken, last)
        else return (text, gap.first.isSome, behind)

def escapes : List (Char × Nat) :=
  [('0', 0), ('a', 7), ('b', 8), ('t', 9), ('\t', 9), ('n', 10), ('v', 11),
   ('f', 12), ('r', 13), ('e', 27), (' ', 32), ('"', 34), ('\'', 39),
   ('\\', 92), ('N', 0x85), ('_', 0xA0), ('L', 0x2028), ('P', 0x2029)]

/-- The letters behind a backslash that begin a hexadecimal code, and the
number of its digits. -/
def codeEscapes : List (Char × Nat) :=
  [('x', 2), ('u', 4), ('U', 8)]

def hexValue? (digits : List Char) : Option Nat :=
  digits.foldlM (fun value digit =>
    (CharSet.hexDigit? digit).map (value * 16 + ·)) 0

/-- The character of an escape at a backslash, and the place behind it. -/
def escape (cursor : Cursor) : Except Malformed (Char × Cursor) :=
  match cursor.peekAt? 1 with
  | none => .error ⟨⟩
  | some letter =>
      match escapes.lookup letter, codeEscapes.lookup letter with
      | some code, _ => .ok (Char.ofNat code, cursor.skipBy 2)
      | none, some count =>
          let digits := (cursor.rest.drop 2).take count
          match hexValue? digits with
          | some value =>
              if digits.length < count || (0xD800 ≤ value && value ≤ 0xDFFF) ||
                  value > 0x10FFFF then
                .error ⟨⟩
              else .ok (Char.ofNat value, cursor.skipBy (2 + count))
          | none => .error ⟨⟩
      | none, none => .error ⟨⟩

/-- The characters of a quoted scalar up to white space or its end, whether an
escaped line break follows them, and the place behind. -/
def quotedWord (single : Bool) :
    (fuel : Nat) → Cursor → Except Malformed (List Char × Bool × Cursor)
  | 0, cursor => .ok ([], false, cursor)
  | fuel + 1, cursor =>
      match cursor.peek? with
      | none => .ok ([], false, cursor)
      | some char =>
          if isBlank char || isBreak char then .ok ([], false, cursor)
          else if single && char == '\'' then
            if cursor.peekAt? 1 == some '\'' then do
              let (word, isBroken, next) ← quotedWord single fuel (cursor.skipBy 2)
              return ('\'' :: word, isBroken, next)
            else .ok ([], false, cursor)
          else if !single && char == '"' then .ok ([], false, cursor)
          else if !single && char == '\\' then
            if (cursor.peekAt? 1).any isBreak then
              .ok ([], true, cursor.skip.readBreak.2)
            else do
              let (escaped, next) ← escape cursor
              let (word, isBroken, next) ← quotedWord single fuel next
              return (escaped :: word, isBroken, next)
          else do
            let (word, isBroken, next) ← quotedWord single fuel cursor.skip
            return (char :: word, isBroken, next)

/-- The text of a quoted scalar up to the closing quote, and the place behind
that quote. -/
def quotedText (single : Bool) :
    (fuel : Nat) → Cursor → Except Malformed (List Char × Cursor)
  | 0, _ => .error ⟨⟩
  | fuel + 1, cursor =>
      if cursor.atDocumentMarker || cursor.rest.isEmpty then .error ⟨⟩
      else do
        let (word, isBroken, behind) ←
          quotedWord single (cursor.remaining + 1) cursor
        if behind.sees (if single then '\'' else '"') then
          return (word, behind.skip)
        else
          let gap : Gap := if isBroken then ⟨[], some [], []⟩ else Gap.none
          let (gap, next) ←
            Gap.read none (behind.remaining + 1) gap behind
          let (more, last) ← quotedText single fuel next
          return (word ++ gap.text ++ more, last)

/-- The line breaks at the end of a block scalar that are kept. -/
inductive Chomping where
  | strip
  | clip
  | keep
deriving DecidableEq, Repr

/-- The chomping sign that is next, if one is. -/
def chompingSign? (cursor : Cursor) : Option (Chomping × Cursor) :=
  if cursor.sees '+' then some (.keep, cursor.skip)
  else if cursor.sees '-' then some (.strip, cursor.skip)
  else none

/-- The digit of an indentation that is next, if one is. -/
def indentDigit? (cursor : Cursor) : Option (Nat × Cursor) :=
  match cursor.peek? with
  | some digit =>
      if digit.isDigit then some (digit.toNat - '0'.toNat, cursor.skip) else none
  | none => none

/-- The signs behind the indicator of a block scalar: how to chomp it and by
how much it is indented, in either order. -/
def blockHeader (cursor : Cursor) :
    Except Malformed (Chomping × Option Nat × Cursor) :=
  match chompingSign? cursor, indentDigit? cursor with
  | some (chomping, next), _ =>
      match indentDigit? next with
      | some (0, _) => .error ⟨⟩
      | some (digit, next) => .ok (chomping, some digit, next)
      | none => .ok (chomping, none, next)
  | none, some (0, _) => .error ⟨⟩
  | none, some (digit, next) =>
      match chompingSign? next with
      | some (chomping, next) => .ok (chomping, some digit, next)
      | none => .ok (.clip, some digit, next)
  | none, none => .ok (.clip, none, cursor)

/-- Empty lines in front of a line of a block scalar: the line breaks, the
largest column seen, and the place of the first other character.  Spaces are
skipped up to the column `indent`, or all of them if it is not known. -/
def blockBreaks (indent : Option Nat) :
    (fuel : Nat) → (breaks : List Char) → (widest : Nat) → Cursor →
      Except Malformed (List Char × Nat × Cursor)
  | 0, breaks, widest, cursor => .ok (breaks, widest, cursor)
  | fuel + 1, breaks, widest, cursor =>
      let spaces := (cursor.rest.takeWhile (· == ' ')).length
      let skipped :=
        match indent with
        | some indent => min spaces (indent - cursor.column)
        | none => spaces
      let next := cursor.skipBy skipped
      let widest := max widest next.column
      if next.sees '\t' && indent.all (next.column < ·) then .error ⟨⟩
      else if next.peek?.any isBreak then
        let (text, behind) := next.readBreak
        blockBreaks indent fuel (breaks ++ text) widest behind
      else .ok (breaks, widest, next)

/-- The further lines of a block scalar, the line break behind the last of them
and the empty lines behind that.  `leading` is the line break behind the line
before, `trailing` the empty lines behind that, and `wasIndented` says whether
that line began with a blank. -/
def blockLines (isFolded : Bool) (indent : Nat) :
    (fuel : Nat) → (leading trailing : List Char) →
      (wasIndented : Bool) → Cursor →
      Except Malformed (List Char × List Char × List Char × Cursor)
  | 0, leading, trailing, _, cursor => .ok ([], leading, trailing, cursor)
  | fuel + 1, leading, trailing, wasIndented, cursor =>
      if cursor.column != indent || cursor.rest.isEmpty then
        .ok ([], leading, trailing, cursor)
      else do
        let isIndented := cursor.peek?.any isBlank
        let glue :=
          if isFolded && !wasIndented && !isIndented && leading == ['\n'] then
            if trailing.isEmpty then [' '] else []
          else leading
        let (line, atEnd) := cursor.readWhile fun char => !isBreak char
        let (leading, behind) := atEnd.readBreak
        let (breaks, _, next) ←
          blockBreaks (some indent) (behind.remaining + 1) [] 0 behind
        let (more, leading, breaks, last) ←
          blockLines isFolded indent fuel leading breaks isIndented next
        return (glue ++ trailing ++ line ++ more, leading, breaks, last)

/-- The text of a block scalar at its indicator, in a block of the given
indentation, and the place behind it. -/
def blockText (isFolded : Bool) (blockIndent : Int) (cursor : Cursor) :
    Except Malformed (List Char × Cursor) := do
  let (chomping, digit, next) ← blockHeader cursor.skip
  let next := next.skipWhile isBlank
  let next := if next.sees '#' then next.skipToLineEnd else next
  if !next.atLineEnd then throw ⟨⟩
  let next := next.readBreak.2
  let known := digit.map fun digit => (max blockIndent 0).toNat + digit
  let (trailing, widest, next) ←
    blockBreaks known (next.remaining + 1) [] 0 next
  let indent := known.getD (max widest (max (blockIndent + 1).toNat 1))
  let (text, leading, trailing, next) ←
    blockLines isFolded indent (next.remaining + 1) [] trailing false next
  let ending :=
    match chomping with
    | .strip => []
    | .clip => leading
    | .keep => leading ++ trailing
  return (text ++ ending, next)

end Yaml

end Defun
