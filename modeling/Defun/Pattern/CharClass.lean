import Defun.Pattern.Fault
import Defun.Text.Rune
import Defun.Unicode.CaseVariants
import Defun.Unicode.GeneralCategory
import Defun.Unicode.Script

/-!
# Classes of characters in patterns

The notation for sets of characters: escapes for single characters, the classes
`\d`, `\s` and `\w`, named classes such as `[:alpha:]`, Unicode properties such
as `\p{Greek}`, and bracketed lists of all of these.
-/

namespace Defun

namespace CharClass

/-- The next code point of a pattern.  Behind the end there is only U+FFFD. -/
def nextCode : Bytes → Except PatternError (Nat × Bytes)
  | [] => .ok (0xFFFD, [])
  | octet :: rest =>
      let rune := Rune.first octet rest
      if rune.isMalformed then .error ⟨.malformedText, octet :: rest⟩
      else .ok (rune.char.toNat, (octet :: rest).drop rune.width)

/-- Complains about the first malformed octet of a text. -/
def checkText (text : Bytes) : Except PatternError Unit :=
  let bad := (Rune.read text).dropWhile fun rune => !rune.isMalformed
  if bad.isEmpty then .ok ()
  else .error ⟨.malformedText, Rune.octetsOf bad⟩

/-- The text between two places of a pattern, given what follows each. -/
def textBetween (start stop : Bytes) : Bytes :=
  start.take (start.length - stop.length)

/-- The octets of letters and digits. -/
def isAlphanumeric (code : Nat) : Bool :=
  (0x30 ≤ code && code ≤ 0x39) || (0x41 ≤ code && code ≤ 0x5A) ||
    (0x61 ≤ code && code ≤ 0x7A)

def hexValue? (code : Nat) : Option Nat :=
  if code < 0x80 then CharSet.hexDigit? (Char.ofNat code) else none

def octalDigits (value : Nat) : (count : Nat) → Bytes → Nat × Bytes
  | 0, text => (value, text)
  | _, [] => (value, [])
  | count + 1, digit :: rest =>
      if 0x30 ≤ digit && digit ≤ 0x37 then
        octalDigits (value * 8 + (digit.toNat - 0x30)) count rest
      else (value, digit :: rest)

/-- The digits of a braced code point up to the closing brace, if they are
digits, there is at least one, and the value is a code point.  Otherwise the
text behind the octets that were looked at. -/
def bracedDigits : (fuel : Nat) → (value digits : Nat) → Bytes →
    Except PatternError (Option Nat × Bytes)
  | 0, _, _, text => .ok (none, text)
  | _, _, _, [] => .ok (none, [])
  | fuel + 1, value, digits, text => do
      let (code, rest) ← nextCode text
      if code = 0x7D then
        return (if digits = 0 then none else some value, rest)
      match hexValue? code with
      | none => return (none, rest)
      | some digit =>
          if value * 16 + digit > CharSet.maximum then return (none, rest)
          else bracedDigits fuel (value * 16 + digit) (digits + 1) rest

/-- The code point that the escape at the beginning of a text denotes. -/
def escape (text : Bytes) : Except PatternError (Nat × Bytes) := do
  let inner := text.drop 1
  if inner.isEmpty then throw ⟨.trailingBackslash, []⟩
  let (code, rest) ← nextCode inner
  let refuse {α : Type} (rest : Bytes) : Except PatternError α :=
    .error ⟨.escape, textBetween text rest⟩
  if 0x31 ≤ code && code ≤ 0x37 then
    match rest with
    | digit :: _ =>
        if 0x30 ≤ digit && digit ≤ 0x37 then
          return octalDigits (code - 0x30) 2 rest
        else refuse rest
    | [] => refuse rest
  else if code = 0x30 then return octalDigits 0 2 rest
  else if code = 'x'.toNat then
    if rest.isEmpty then refuse rest
    else
      let (high, afterHigh) ← nextCode rest
      if high = 0x7B then
        match ← bracedDigits (afterHigh.length + 1) 0 0 afterHigh with
        | (some value, rest) => return (value, rest)
        | (none, rest) => refuse rest
      else
        let (low, afterLow) ← nextCode afterHigh
        match hexValue? high, hexValue? low with
        | some high, some low => return (high * 16 + low, afterLow)
        | _, _ => refuse afterLow
  else if code = 'a'.toNat then return (7, rest)
  else if code = 'f'.toNat then return (12, rest)
  else if code = 'n'.toNat then return (10, rest)
  else if code = 'r'.toNat then return (13, rest)
  else if code = 't'.toNat then return (9, rest)
  else if code = 'v'.toNat then return (11, rest)
  else if code < 0x80 && !isAlphanumeric code then return (code, rest)
  else refuse rest

def digits : CharSet := .range 0x30 0x39

def blanks : CharSet := ⟨[(9, 10), (12, 13), (32, 32)]⟩

/-- Letters, digits and the underscore. -/
def words : CharSet := ⟨[(0x30, 0x39), (0x41, 0x5A), (0x5F, 0x5F), (0x61, 0x7A)]⟩

/-- The classes of the form `[:name:]`. -/
def named : List (String × CharSet) :=
  [("alnum", ⟨[(0x30, 0x39), (0x41, 0x5A), (0x61, 0x7A)]⟩),
   ("alpha", ⟨[(0x41, 0x5A), (0x61, 0x7A)]⟩),
   ("ascii", .range 0 0x7F),
   ("blank", ⟨[(9, 9), (32, 32)]⟩),
   ("cntrl", ⟨[(0, 0x1F), (0x7F, 0x7F)]⟩),
   ("digit", digits),
   ("graph", .range 0x21 0x7E),
   ("lower", .range 0x61 0x7A),
   ("print", .range 0x20 0x7E),
   ("punct", ⟨[(0x21, 0x2F), (0x3A, 0x40), (0x5B, 0x60), (0x7B, 0x7E)]⟩),
   ("space", ⟨[(9, 13), (32, 32)]⟩),
   ("upper", .range 0x41 0x5A),
   ("word", words),
   ("xdigit", ⟨[(0x30, 0x39), (0x41, 0x46), (0x61, 0x66)]⟩)]

/-- A set, closed under case variants if case does not matter, and
complemented if it is negated. -/
def finishSet (anyCase negated : Bool) (set : CharSet) : CharSet :=
  let closed := if anyCase then CaseVariants.closure set else set
  if negated then closed.complement else closed

/-- The class of a backslash and one letter at the beginning of a text. -/
def letterClass? (anyCase : Bool) : Bytes → Option (CharSet × Bytes)
  | backslash :: letter :: rest =>
      if backslash != Bytes.octet '\\' then none
      else
        match Char.ofNat letter.toNat with
        | 'd' => some (finishSet anyCase false digits, rest)
        | 'D' => some (finishSet anyCase true digits, rest)
        | 's' => some (finishSet anyCase false blanks, rest)
        | 'S' => some (finishSet anyCase true blanks, rest)
        | 'w' => some (finishSet anyCase false words, rest)
        | 'W' => some (finishSet anyCase true words, rest)
        | _ => none
  | _ => none

/-- The class of the form `[:name:]` at the beginning of a text, if a text of
that form stands there. -/
def namedClass? (anyCase : Bool) (text : Bytes) :
    Except PatternError (Option (CharSet × Bytes)) :=
  match Bytes.cut? ":]" (text.drop 2) with
  | none => .ok none
  | some (name, rest) =>
      let negated := name.head? == some (Bytes.octet '^')
      let plain := if negated then name.drop 1 else name
      match (Bytes.toString? plain).bind fun name => named.lookup name with
      | some set => .ok (some (finishSet anyCase negated set, rest))
      | none => .error ⟨.classRange, textBetween text rest⟩

/-- The set of a Unicode property: a general category or a script. -/
def property? (name : Bytes) : Option CharSet := do
  let name ← Bytes.toString? name
  if name = "Any" then some .full
  else (GeneralCategory.ofName? name).or (Script.ofName? name)

/-- The class of a Unicode property at the beginning of a text, if a text of
that form stands there. -/
def propertyClass? (anyCase : Bool) (text : Bytes) :
    Except PatternError (Option (CharSet × Bytes)) :=
  match text with
  | backslash :: letter :: inner =>
      if backslash != Bytes.octet '\\' ||
          (letter != Bytes.octet 'p' && letter != Bytes.octet 'P') then
        .ok none
      else do
        let (code, afterCode) ← nextCode inner
        let (name, rest) ←
          if code != 0x7B then
            pure (textBetween inner afterCode, afterCode)
          else
            match Bytes.cut? "\x7d" inner with
            | none => do
                checkText text
                throw ⟨.classRange, text⟩
            | some (braced, rest) => do
                let name := braced.drop 1
                checkText name
                pure (name, rest)
        let inverted := name.head? == some (Bytes.octet '^')
        let negated := (letter == Bytes.octet 'P') != inverted
        match property? (if inverted then name.drop 1 else name) with
        | some set => return some (finishSet anyCase negated set, rest)
        | none => throw ⟨.classRange, textBetween text rest⟩
  | _ => .ok none

/-- One character of a bracketed class; `whole` is the text of the class. -/
def classChar (whole text : Bytes) : Except PatternError (Nat × Bytes) :=
  match text with
  | [] => .error ⟨.unclosedClass, whole⟩
  | octet :: _ =>
      if octet = Bytes.octet '\\' then escape text else nextCode text

def classRange (anyCase : Bool) (whole text : Bytes) : Except PatternError (CharSet × Bytes) := do
  let (low, rest) ← classChar whole text
  match rest with
  | dash :: next :: _ =>
      if dash = Bytes.octet '-' && next != Bytes.octet ']' then
        let (high, rest) ← classChar whole (rest.drop 1)
        if high < low then throw ⟨.classRange, textBetween text rest⟩
        return (finishSet anyCase false (.range low high), rest)
      else return (finishSet anyCase false (.single low), rest)
  | _ => return (finishSet anyCase false (.single low), rest)

def classMember (anyCase : Bool) (whole text : Bytes) : Except PatternError (CharSet × Bytes) := do
  let isNamed := text.length > 2 && Bytes.startsWith text "[:"
  if let some found ← if isNamed then namedClass? anyCase text else pure none then
    return found
  if let some found ← propertyClass? anyCase text then
    return found
  if let some found := letterClass? anyCase text then
    return found
  classRange anyCase whole text

/-- The members of a bracketed class up to its closing bracket.  A closing
bracket that is the first member stands for itself. -/
def classMembers (anyCase : Bool) (whole : Bytes) :
    (fuel : Nat) → (isFirst : Bool) → CharSet → Bytes → Except PatternError (CharSet × Bytes)
  | 0, _, _, _ => .error ⟨.unclosedClass, whole⟩
  | fuel + 1, isFirst, set, text =>
      if text.head? == some (Bytes.octet ']') && !isFirst then
        .ok (set, text.drop 1)
      else do
        let (member, rest) ← classMember anyCase whole text
        classMembers anyCase whole fuel false (set.union member) rest

def bracketed (anyCase : Bool) (text : Bytes) : Except PatternError (CharSet × Bytes) := do
  let inner := text.drop 1
  let negated := inner.head? == some (Bytes.octet '^')
  let members := if negated then inner.drop 1 else inner
  let (set, rest) ←
    classMembers anyCase text (members.length + 1) true .empty members
  return (if negated then set.complement else set, rest)

end CharClass

end Defun
