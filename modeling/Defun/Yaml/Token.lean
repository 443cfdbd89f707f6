import Defun.Yaml.ScalarText

/-!
# Tokens of YAML texts

A text is cut into tokens.  Indentation shows as tokens that open and close
blocks.  A key need not be marked: when a colon follows a scalar or a collection
on its line, a key token is put in front of it afterwards.
-/

namespace Defun

namespace Yaml

inductive ScalarStyle where
  | plain
  | quoted
  | block
deriving DecidableEq, Repr

inductive TokenKind where
  | streamStart
  | streamEnd
  | version (major minor : Nat)
  | tagDirective (handle expansion : List Char)
  | documentStart
  | documentEnd
  | blockSequenceStart
  | blockMappingStart
  | blockEnd
  | flowSequenceStart
  | flowSequenceEnd
  | flowMappingStart
  | flowMappingEnd
  | blockEntry
  | flowEntry
  | key
  | value
  | reference (name : List Char)
  | anchor (name : List Char)
  | tag (handle suffix : List Char)
  | scalar (text : List Char) (style : ScalarStyle)
deriving DecidableEq, Repr

/-- A token and the line on which it begins, counted from one. -/
structure Token where
  kind : TokenKind
  line : Nat
deriving DecidableEq, Repr

/-- A place where a key may have begun. -/
structure KeyCandidate where
  /-- The number of tokens in front of it. -/
  token : Nat
  index : Nat
  line : Nat
  column : Nat
  /-- Whether nothing but a key may stand there. -/
  isRequired : Bool

/-- A text that has been read in part. -/
structure Scanner where
  cursor : Cursor
  /-- The tokens that were found, the last one first. -/
  tokens : List Token
  /-- The number of these tokens. -/
  count : Nat
  /-- The column of the innermost block, or -1 outside of all blocks. -/
  indent : Int
  /-- The columns of the blocks around it. -/
  outer : List Int
  /-- Whether a key may begin here. -/
  allowsKey : Bool
  /-- The last place where a key may have begun, at the innermost level. -/
  candidate : Option KeyCandidate
  /-- The same for each flow collection around it. -/
  suspended : List (Option KeyCandidate)

namespace Scanner

def start (text : List Char) : Scanner :=
  ⟨Cursor.start text, [⟨.streamStart, 1⟩], 1, -1, [], true, none, []⟩

def inFlow (scanner : Scanner) : Bool := !scanner.suspended.isEmpty

/-- Adds a token that begins at the place. -/
def push (scanner : Scanner) (kind : TokenKind) : Scanner :=
  { scanner with
    tokens := ⟨kind, scanner.cursor.line + 1⟩ :: scanner.tokens
    count := scanner.count + 1 }

def goTo (scanner : Scanner) (cursor : Cursor) : Scanner :=
  { scanner with cursor }

/-- Adds a token and passes over its characters. -/
def pushOver (scanner : Scanner) (kind : TokenKind) (width : Nat) : Scanner :=
  (scanner.push kind).goTo (scanner.cursor.skipBy width)

/-- Puts a token behind the first `index` tokens. -/
def insert (scanner : Scanner) (index : Nat) (token : Token) : Scanner :=
  let later := scanner.count - index
  { scanner with
    tokens := scanner.tokens.take later ++ token :: scanner.tokens.drop later
    count := scanner.count + 1 }

def allowKey (scanner : Scanner) (allowsKey : Bool) : Scanner :=
  { scanner with allowsKey }

/-- Closes the given blocks that are indented beyond a column. -/
def closeBlocks (column : Int) (scanner : Scanner) : List Int → Scanner
  | [] => scanner
  | outer :: rest =>
      if scanner.indent > column then
        closeBlocks column
          { scanner.push .blockEnd with indent := outer, outer := rest } rest
      else scanner

/-- Closes the blocks that are indented beyond a column.  Indentation has no
meaning inside of a flow collection. -/
def unindent (scanner : Scanner) (column : Int) : Scanner :=
  if scanner.inFlow then scanner else closeBlocks column scanner scanner.outer

/-- Opens a block at a column, with a token at the given index, unless the
column belongs to the innermost block or to one around it. -/
def openBlock (scanner : Scanner) (column index line : Nat)
    (kind : TokenKind) : Scanner :=
  if !scanner.inFlow && scanner.indent < (column : Int) then
    { scanner.insert index ⟨kind, line + 1⟩ with
      indent := column, outer := scanner.indent :: scanner.outer }
  else scanner

def openBlockHere (scanner : Scanner) (kind : TokenKind) : Scanner :=
  scanner.openBlock scanner.cursor.column scanner.count scanner.cursor.line kind

/-- Gives up the place where a key may have begun.  It is an error if nothing
but a key may stand there. -/
def dropCandidate (scanner : Scanner) : Except Malformed Scanner :=
  if scanner.candidate.any (·.isRequired) then .error ⟨⟩
  else .ok { scanner with candidate := none }

/-- Notes that a key may begin at the place. -/
def noteCandidate (scanner : Scanner) : Except Malformed Scanner :=
  if scanner.allowsKey then do
    let scanner ← scanner.dropCandidate
    let cursor := scanner.cursor
    return { scanner with
      candidate := some
        { token := scanner.count
          index := cursor.index
          line := cursor.line
          column := cursor.column
          isRequired := !scanner.inFlow &&
            scanner.indent == (cursor.column : Int) } }
  else .ok scanner

/-- The key that a colon at the place belongs to: it began on the same line, at
most 1024 characters before. -/
def key? (scanner : Scanner) : Except Malformed (Option KeyCandidate) :=
  match scanner.candidate with
  | none => .ok none
  | some candidate =>
      if candidate.line < scanner.cursor.line ||
          candidate.index + 1024 < scanner.cursor.index then
        if candidate.isRequired then .error ⟨⟩ else .ok none
      else .ok (some candidate)

/-- Passes over white space and comments up to the next token.  Tabs do not
count as white space where a block could begin. -/
def skipSpace : (fuel : Nat) → Scanner → Scanner
  | 0, scanner => scanner
  | fuel + 1, scanner =>
      let cursor := scanner.cursor
      let cursor :=
        if cursor.column = 0 && cursor.sees '\ufeff' then cursor.skip else cursor
      let cursor := cursor.skipWhile fun char =>
        char == ' ' ||
          (char == '\t' && (scanner.inFlow || !scanner.allowsKey))
      let cursor := if cursor.sees '#' then cursor.skipToLineEnd else cursor
      if cursor.peek?.any isBreak then
        skipSpace fuel
          { scanner with
            cursor := cursor.readBreak.2
            allowsKey := scanner.allowsKey || !scanner.inFlow }
      else scanner.goTo cursor

/-- Passes over a comment behind a token on its line. -/
def skipLineComment (scanner : Scanner) : Scanner :=
  let cursor := scanner.cursor.skipWhile isBlank
  if scanner.cursor.column != 0 && cursor.sees '#' then
    scanner.goTo cursor.skipToLineEnd
  else scanner

def finish (scanner : Scanner) : Except Malformed Scanner := do
  let cursor := scanner.cursor
  let cursor :=
    if cursor.column != 0 then { cursor with line := cursor.line + 1, column := 0 }
    else cursor
  let scanner ← ((scanner.goTo cursor).unindent (-1)).dropCandidate
  return (scanner.allowKey false).push .streamEnd

/-- The beginning or the end of a document. -/
def documentMarker (scanner : Scanner) (kind : TokenKind) :
    Except Malformed Scanner := do
  let scanner ← (scanner.unindent (-1)).dropCandidate
  return (scanner.allowKey false).pushOver kind 3

def openFlow (scanner : Scanner) (kind : TokenKind) :
    Except Malformed Scanner := do
  let scanner ← scanner.noteCandidate
  let scanner :=
    { scanner with
      candidate := none, suspended := scanner.candidate :: scanner.suspended }
  return (scanner.allowKey true).pushOver kind 1

def closeFlow (scanner : Scanner) (kind : TokenKind) :
    Except Malformed Scanner := do
  let scanner ← scanner.dropCandidate
  let scanner :=
    match scanner.suspended with
    | candidate :: suspended => { scanner with candidate, suspended }
    | [] => scanner
  return (scanner.allowKey false).pushOver kind 1

/-- A comma in a flow collection. -/
def flowEntry (scanner : Scanner) : Except Malformed Scanner := do
  let scanner ← scanner.dropCandidate
  return (scanner.allowKey true).pushOver .flowEntry 1

/-- A dash in front of an entry of a block sequence. -/
def blockEntry (scanner : Scanner) : Except Malformed Scanner := do
  if !scanner.inFlow && !scanner.allowsKey then throw ⟨⟩
  let scanner ← (scanner.openBlockHere .blockSequenceStart).dropCandidate
  return (scanner.allowKey true).pushOver .blockEntry 1

/-- A question mark in front of a key. -/
def markedKey (scanner : Scanner) : Except Malformed Scanner := do
  if !scanner.inFlow && !scanner.allowsKey then throw ⟨⟩
  let scanner ← (scanner.openBlockHere .blockMappingStart).dropCandidate
  return (scanner.allowKey !scanner.inFlow).pushOver .key 1

/-- A colon in front of a value. -/
def value (scanner : Scanner) : Except Malformed Scanner := do
  match ← scanner.key? with
  | some candidate =>
      let scanner := scanner.insert candidate.token ⟨.key, candidate.line + 1⟩
      let scanner := scanner.openBlock candidate.column candidate.token
        candidate.line .blockMappingStart
      return ({ scanner with candidate := none }.allowKey false).pushOver
        .value 1
  | none =>
      if !scanner.inFlow && !scanner.allowsKey then throw ⟨⟩
      let scanner := scanner.openBlockHere .blockMappingStart
      return ({ scanner with candidate := none }.allowKey
        !scanner.inFlow).pushOver .value 1

/-- The characters that may stand behind the name of an anchor without white
space. -/
def anchorEnds : List Char := ['?', ':', ',', ']', '\x7d', '%', '@', '\x60']

/-- An anchor or an alias, at its sign. -/
def anchor (scanner : Scanner) (kind : List Char → TokenKind) :
    Except Malformed Scanner := do
  let scanner ← scanner.noteCandidate
  let (name, next) := scanner.cursor.skip.readWhile isWord
  if name.isEmpty ||
      !(next.endsAt 0 || next.peek?.any (anchorEnds.contains ·)) then
    throw ⟨⟩
  return ((scanner.allowKey false).push (kind name)).goTo next

/-- The characters of the text of a tag, escapes apart. -/
def isTagChar (char : Char) : Bool :=
  isWord char ||
    [';', '/', '?', ':', '@', '&', '=', '+', '$', ',', '.', '!', '~', '*',
     '\'', '(', ')', '[', ']'].contains char

/-- The octets that begin with percent signs at the place, and the place behind
them. -/
def tagOctets : (fuel : Nat) → Cursor → Except Malformed (Bytes × Cursor)
  | 0, cursor => .ok ([], cursor)
  | fuel + 1, cursor =>
      if cursor.sees '%' then
        match cursor.peekAt? 1, cursor.peekAt? 2 with
        | some high, some low =>
            match hexValue? [high, low] with
            | some octet => do
                let (octets, next) ← tagOctets fuel (cursor.skipBy 3)
                return (UInt8.ofNat octet :: octets, next)
            | none => .error ⟨⟩
        | _, _ => .error ⟨⟩
      else .ok ([], cursor)

/-- The text of a tag, with its escapes read as UTF-8, and the place behind
it. -/
def tagText : (fuel : Nat) → Cursor → Except Malformed (List Char × Cursor)
  | 0, cursor => .ok ([], cursor)
  | fuel + 1, cursor =>
      match cursor.peek? with
      | none => .ok ([], cursor)
      | some char =>
          if char == '%' then do
            let (octets, next) ← tagOctets (cursor.remaining + 1) cursor
            match utf8Chars octets with
            | some chars =>
                let (text, next) ← tagText fuel next
                return (chars ++ text, next)
            | none => throw ⟨⟩
          else if isTagChar char then do
            let (text, next) ← tagText fuel cursor.skip
            return (char :: text, next)
          else .ok ([], cursor)

/-- The handle of a tag at an exclamation mark, and the place behind it.  It
ends with a second exclamation mark, if there is one behind word characters. -/
def tagHandle (cursor : Cursor) : List Char × Cursor :=
  let (word, next) := cursor.skip.readWhile isWord
  if next.sees '!' then ('!' :: word ++ ['!'], next.skip)
  else ('!' :: word, next)

/-- The handle and the suffix of a tag, and the place behind it. -/
def tagParts (cursor : Cursor) :
    Except Malformed (List Char × List Char × Cursor) := do
  let fuel := cursor.remaining + 1
  if cursor.peekAt? 1 == some '<' then
    let (suffix, next) ← tagText fuel (cursor.skipBy 2)
    if suffix.isEmpty || !next.sees '>' then throw ⟨⟩
    return ([], suffix, next.skip)
  else
    let (handle, next) := tagHandle cursor
    if handle.length > 1 && handle.getLast? == some '!' then
      let (suffix, next) ← tagText fuel next
      if suffix.isEmpty then throw ⟨⟩
      return (handle, suffix, next)
    else
      let (more, next) ← tagText fuel next
      let suffix := handle.drop 1 ++ more
      if suffix.isEmpty then return ([], ['!'], next)
      else return (['!'], suffix, next)

def tag (scanner : Scanner) : Except Malformed Scanner := do
  let scanner ← scanner.noteCandidate
  let (handle, suffix, next) ← tagParts scanner.cursor
  if !next.endsAt 0 then throw ⟨⟩
  return ((scanner.allowKey false).push (.tag handle suffix)).goTo next

/-- A literal or folded scalar. -/
def blockScalar (scanner : Scanner) (isFolded : Bool) :
    Except Malformed Scanner := do
  let scanner ← scanner.dropCandidate
  let (text, next) ← blockText isFolded scanner.indent scanner.cursor
  return ((scanner.allowKey true).push (.scalar text .block)).goTo next

def quotedScalar (scanner : Scanner) (single : Bool) :
    Except Malformed Scanner := do
  let scanner ← scanner.noteCandidate
  let cursor := scanner.cursor
  let (text, next) ← quotedText single (cursor.remaining + 1) cursor.skip
  return ((scanner.allowKey false).push (.scalar text .quoted)).goTo next

/-- A plain scalar.  A key may begin behind it if it ended at a line break. -/
def plainScalar (scanner : Scanner) : Except Malformed Scanner := do
  let scanner ← scanner.noteCandidate
  let cursor := scanner.cursor
  let (text, isBroken, next) ← plainText scanner.inFlow scanner.indent
    (cursor.remaining + 1) Gap.none cursor
  return ((scanner.allowKey isBroken).push (.scalar text .plain)).goTo next

/-- The number of a version, of at most two digits, and the place behind it. -/
def versionNumber (cursor : Cursor) : Except Malformed (Nat × Cursor) :=
  let (digits, next) := cursor.readWhile Char.isDigit
  if digits.isEmpty || digits.length > 2 then .error ⟨⟩
  else
    .ok (digits.foldl (fun value digit => value * 10 + (digit.toNat - 48)) 0,
      next)

/-- What a directive says, and the place behind it. -/
def directiveParts (name : List Char) (cursor : Cursor) :
    Except Malformed (TokenKind × Cursor) := do
  let cursor := cursor.skipWhile isBlank
  if name == "YAML".toList then
    let (major, next) ← versionNumber cursor
    if !next.sees '.' then throw ⟨⟩
    let (minor, next) ← versionNumber next.skip
    return (.version major minor, next)
  else if name == "TAG".toList then
    if !cursor.sees '!' then throw ⟨⟩
    let (handle, next) := tagHandle cursor
    if handle != ['!'] && (handle.length < 2 || handle.getLast? != some '!') then
      throw ⟨⟩
    if !next.peek?.any isBlank then throw ⟨⟩
    let next := next.skipWhile isBlank
    let (expansion, next) ← tagText (next.remaining + 1) next
    if expansion.isEmpty || !next.endsAt 0 then throw ⟨⟩
    return (.tagDirective handle expansion, next)
  else throw ⟨⟩

def directive (scanner : Scanner) : Except Malformed Scanner := do
  let scanner ← (scanner.unindent (-1)).dropCandidate
  let (name, next) := scanner.cursor.skip.readWhile isWord
  if name.isEmpty || !next.endsAt 0 then throw ⟨⟩
  let (kind, next) ← directiveParts name next
  let next := next.skipWhile isBlank
  let next := if next.sees '#' then next.skipToLineEnd else next
  if !next.atLineEnd then throw ⟨⟩
  return ((scanner.allowKey false).push kind).goTo next.readBreak.2

/-- The characters that do not begin a plain scalar. -/
def indicators : List Char :=
  ['-', '?', ':', ',', '[', ']', '\x7b', '\x7d', '#', '&', '*', '!', '|', '>',
   '\'', '"', '%', '@', '\x60']

/-- Whether a plain scalar may begin at the place. -/
def beginsPlain (scanner : Scanner) : Bool :=
  let cursor := scanner.cursor
  match cursor.peek? with
  | none => false
  | some char =>
      !(indicators.contains char || isBlank char || isBreak char) ||
        (char == '-' && !(cursor.peekAt? 1).any isBlank) ||
        (!scanner.inFlow && (char == '?' || char == ':') && !cursor.endsAt 1)

/-- A token at one of the signs of the language, or a plain scalar. -/
def sign (scanner : Scanner) (char : Char) : Except Malformed Scanner :=
  let inFlow := scanner.inFlow
  let standsAlone := scanner.cursor.endsAt 1
  if char == '[' then scanner.openFlow .flowSequenceStart
  else if char == '\x7b' then scanner.openFlow .flowMappingStart
  else if char == ']' then scanner.closeFlow .flowSequenceEnd
  else if char == '\x7d' then scanner.closeFlow .flowMappingEnd
  else if char == ',' then scanner.flowEntry
  else if char == '-' && standsAlone then scanner.blockEntry
  else if char == '?' && (inFlow || standsAlone) then scanner.markedKey
  else if char == ':' && (inFlow || standsAlone) then scanner.value
  else if char == '*' then scanner.anchor .reference
  else if char == '&' then scanner.anchor .anchor
  else if char == '!' then scanner.tag
  else if char == '|' && !inFlow then scanner.blockScalar false
  else if char == '>' && !inFlow then scanner.blockScalar true
  else if char == '\'' then scanner.quotedScalar true
  else if char == '"' then scanner.quotedScalar false
  else if scanner.beginsPlain then scanner.plainScalar
  else .error ⟨⟩

/-- Reads the next token, with the tokens that indentation puts in front of it.
The second component says whether the text has ended.  A text that is cut has no
end: four characters have to be known where a token begins. -/
def step (isCut : Bool) (scanner : Scanner) :
    Except Malformed (Scanner × Bool) := do
  let scanner := scanner.skipSpace (scanner.cursor.remaining + 1)
  let scanner := scanner.unindent scanner.cursor.column
  let cursor := scanner.cursor
  if isCut && cursor.remaining < 4 then throw ⟨⟩
  match cursor.peek? with
  | none => return (← scanner.finish, true)
  | some char =>
      if cursor.column = 0 && char == '%' then
        return (← scanner.directive, false)
      else if cursor.isMarker '-' then
        return (← scanner.documentMarker .documentStart, false)
      else if cursor.isMarker '.' then
        return (← scanner.documentMarker .documentEnd, false)
      else
        let next ← scanner.sign char
        let isEntry := char == '-' && cursor.endsAt 1
        return (if isEntry then next else next.skipLineComment, false)

/-- The tokens that can be read ahead of a fault: two of those that were found
are still waiting for their successors when it is met. -/
def settled (scanner : Scanner) : List Token :=
  (scanner.tokens.drop 2).reverse

/-- Reads tokens to the end of the text or to a fault.  In a text that is cut, a
token has to be followed by something. -/
def run (isCut : Bool) : (fuel : Nat) → Scanner → List Token
  | 0, scanner => scanner.settled
  | fuel + 1, scanner =>
      match scanner.step isCut with
      | .error _ => scanner.settled
      | .ok (next, true) => next.tokens.reverse
      | .ok (next, false) =>
          if isCut && next.cursor.remaining = 0 then scanner.settled
          else run isCut fuel next

end Scanner

/-- The tokens of a text, which may be cut.  The list ends with the end of the
stream unless a fault or the cut ends it before. -/
def Token.scan (text : List Char) (isCut : Bool) : List Token :=
  (Scanner.start text).run isCut (text.length + 2)

end Yaml

end Defun
