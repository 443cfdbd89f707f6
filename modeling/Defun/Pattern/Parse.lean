import Defun.Pattern.CharClass
import Defun.Pattern.Regex
import Defun.Text.Decimal

/-!
# Reading patterns

A pattern is read from left to right.  The groups that are still open are kept
innermost first, each with what surrounds it, and the first fault ends the
reading.
-/

namespace Defun

namespace Regex

/-- The modes that a group can switch on and off. -/
structure Modes where
  /-- Letters match in either case. -/
  anyCase : Bool
  /-- The anchors match at the ends of lines. -/
  multiLine : Bool
  /-- The dot matches line feeds. -/
  dotAll : Bool
  /-- Repetitions prefer fewer rounds, and a question mark behind one makes it
  prefer more. -/
  swapGreed : Bool
deriving DecidableEq, Repr

/-- What was read of the text around a group when the group was opened. -/
structure Enclosing where
  modes : Modes
  capturing : Bool
  items : List Regex
  branches : List Regex

/-- What was read of a pattern: the items of the current branch and the
earlier branches of the current group, the last first, and the groups around
it.  `operator` is the text from the repetition operator on that was read
last, if nothing else was read since. -/
structure Draft where
  modes : Modes
  items : List Regex
  branches : List Regex
  enclosing : List Enclosing
  operator : Option Bytes
  /-- The number of expressions so far, where a run of literals is one. -/
  built : Nat
  /-- The product of the counts of all repetitions, up to the limit on
  instructions. -/
  copies : Nat

namespace Draft

/-- The limit on the number of levels of an expression. -/
def heightLimit : Nat := 1000

/-- The limit on the number of instructions of an expression. -/
def sizeLimit : Nat := 3355443

/-- The limit on the counts of repetitions. -/
def countLimit : Nat := 1000

def start : Draft :=
  ⟨⟨false, false, false, false⟩, [], [], [], none, 0, 1⟩

/-- Adds an item to the current branch. -/
def push (draft : Draft) (item : Regex) : Draft :=
  { draft with
    items := item :: draft.items, operator := none,
    built :=
      if draft.items.head?.any item.joins then draft.built
      else draft.built + 1 }

def literal (draft : Draft) (code : Nat) : Draft :=
  draft.push (.literal code draft.modes.anyCase)

/-- The expressions that are not yet part of another one. -/
def parts (draft : Draft) : List Regex :=
  draft.items ++ draft.branches ++
    draft.enclosing.flatMap fun outer => outer.items ++ outer.branches

/-- Whether no expression has too many instructions.  They are not counted as
long as there are few expressions with few copies, however long their runs of
literals are. -/
def fits (draft : Draft) : Bool :=
  draft.built < sizeLimit / draft.copies ||
    draft.parts.all fun part => part.size ≤ sizeLimit

/-- Checks the limits after an expression was built. -/
def checked (whole : Bytes) (draft : Draft) (last : Regex) :
    Except PatternError Draft :=
  if !draft.fits then .error ⟨.tooLarge, whole⟩
  else if last.height > heightLimit then .error ⟨.tooDeep, whole⟩
  else .ok draft

def endBranch (whole : Bytes) (draft : Draft) : Except PatternError Draft :=
  let branch := sequence draft.items.reverse
  checked whole
    { draft with
      items := [], operator := none, branches := branch :: draft.branches,
      built :=
        if draft.items.length = 1 || branch.levels.literals.isSome then
          draft.built
        else draft.built + 1 }
    branch

/-- Begins another branch.  The bar is an expression of its own when it is the
first one in its group. -/
def bar (whole : Bytes) (draft : Draft) : Except PatternError Draft := do
  let next ← draft.endBranch whole
  return if draft.branches.isEmpty then { next with built := next.built + 1 }
    else next

/-- The expression of the current group, and what is left behind it. -/
def endGroup (whole : Bytes) (draft : Draft) :
    Except PatternError (Regex × Draft) := do
  let next ← draft.endBranch whole
  let group := choices next.branches.reverse
  let done ← checked whole
    { next with
      items := [group], branches := [],
      built := if draft.branches.isEmpty then next.built else next.built + 1 }
    group
  return (group, done)

/-- Opens a group.  The modes at its opening return when it closes. -/
def openGroup (draft : Draft) (capturing : Bool) : Draft :=
  { draft with
    items := [], branches := [], operator := none,
    enclosing :=
      ⟨draft.modes, capturing, draft.items, draft.branches⟩ ::
        draft.enclosing,
    built := draft.built + 1 }

def closeGroup (whole : Bytes) (draft : Draft) : Except PatternError Draft := do
  let (content, done) ← draft.endGroup whole
  match done.enclosing with
  | [] => throw ⟨.unopenedGroup, whole⟩
  | outer :: enclosing =>
      let item := if outer.capturing then .group content else content
      checked whole
        { done with
          modes := outer.modes, items := item :: outer.items,
          branches := outer.branches, enclosing }
        item

/-- Repeats the last item.  `before` is the text from the operator on and
`after` the text behind it; a question mark behind the operator belongs to
it. -/
def repetition (whole : Bytes) (draft : Draft) (before after : Bytes)
    (build : (greedy : Bool) → Regex → Regex) (isCount : Bool) :
    Except PatternError (Draft × Bytes) := do
  let isMarked := after.head? == some (Bytes.octet '?')
  let after := if isMarked then after.drop 1 else after
  let greedy := draft.modes.swapGreed == isMarked
  if let some earlier := draft.operator then
    throw ⟨.nestedRepetition, CharClass.textBetween earlier after⟩
  match draft.items with
  | [] => throw ⟨.nothingToRepeat, CharClass.textBetween before after⟩
  | item :: items =>
      let repeated := build greedy item
      let copies :=
        if repeated.rounds > sizeLimit / draft.copies then sizeLimit
        else draft.copies * repeated.rounds
      -- The last literal of a run is taken out of it.
      let built :=
        if items.head?.any item.joins then draft.built + 1 else draft.built
      let next ← checked whole
        ({ draft with items, copies, built }.push repeated) repeated
      if isCount && !repeated.withinCopies countLimit then
        throw ⟨.repeatCount, CharClass.textBetween before after⟩
      return ({ next with operator := some before }, after)

/-- The digits of a count at the beginning of a text, without superfluous
zeros.  Counts of nine or more digits are as good as infinite. -/
def count? (text : Bytes) : Option (Nat × Bytes) :=
  let digits := text.takeWhile Decimal.isDigit
  if digits.isEmpty then none
  else if digits.head? == some 0x30 && digits.length > 1 then none
  else some (Decimal.value digits, text.drop digits.length)

/-- The bounds of a counted repetition at the beginning of a text. -/
def bounds? (text : Bytes) : Option (Nat × Option Nat × Bytes) := do
  let (least, rest) ← count? (text.drop 1)
  match rest with
  | [] => none
  | next :: rest =>
      if next = 0x7D then some (least, some least, rest)
      else if next != Bytes.octet ',' then none
      else
        match rest with
        | [] => none
        | closing :: after =>
            if closing = 0x7D then some (least, none, after)
            else do
              let (most, rest) ← count? rest
              match rest with
              | closing :: after =>
                  if closing = 0x7D then some (least, some most, after)
                  else none
              | [] => none

def validBounds (least : Nat) (most : Option Nat) : Bool :=
  least ≤ countLimit && most.all fun most => most ≤ countLimit && least ≤ most

/-- Names of groups are words. -/
def isGroupName (name : Bytes) : Bool :=
  !name.isEmpty && name.all fun octet =>
    CharClass.isAlphanumeric octet.toNat || octet = Bytes.octet '_'

/-- Opens a group with a name, whose opening text is `text` and whose name
begins after `skip` octets. -/
def namedGroup (draft : Draft) (skip : Nat) (text : Bytes) :
    Except PatternError (Draft × Bytes) :=
  match Bytes.cut? ">" text with
  | none => do
      CharClass.checkText text
      throw ⟨.captureName, text⟩
  | some (opening, rest) => do
      let name := opening.drop skip
      CharClass.checkText name
      if isGroupName name then return (draft.openGroup true, rest)
      throw ⟨.captureName, opening ++ ">"⟩

/-- The switches of a group: the modes so far, whether they are being switched
off, and whether a mode was named since the last change of direction. -/
structure Switches where
  modes : Modes
  off : Bool
  named : Bool

/-- Reads the switches behind `(?`.  A colon opens a group in which they hold,
and a closing parenthesis lets them hold in the rest of the current group. -/
def switches (draft : Draft) (text : Bytes) :
    (fuel : Nat) → Switches → Bytes → Except PatternError (Draft × Bytes)
  | 0, _, rest => .error ⟨.groupFlags, CharClass.textBetween text rest⟩
  | _, _, [] => .error ⟨.groupFlags, text⟩
  | fuel + 1, ⟨modes, off, named⟩, rest => do
      let (code, rest) ← CharClass.nextCode rest
      let set (modes : Modes) :=
        switches draft text fuel ⟨modes, off, true⟩ rest
      if code = 'i'.toNat then set { modes with anyCase := !off }
      else if code = 'm'.toNat then set { modes with multiLine := !off }
      else if code = 's'.toNat then set { modes with dotAll := !off }
      else if code = 'U'.toNat then set { modes with swapGreed := !off }
      else if code = '-'.toNat && !off then
        switches draft text fuel ⟨modes, true, false⟩ rest
      else if code = ':'.toNat && (named || !off) then
        return ({ draft.openGroup false with modes := modes }, rest)
      else if code = ')'.toNat && (named || !off) then
        return ({ draft with modes := modes, operator := none }, rest)
      else throw ⟨.groupFlags, CharClass.textBetween text rest⟩

/-- Reads the opening of a group that begins with `(?`. -/
def specialGroup (draft : Draft) (text : Bytes) :
    Except PatternError (Draft × Bytes) :=
  if text.length > 4 && Bytes.startsWith text "(?P<" then
    namedGroup draft 4 text
  else if text.length > 3 && Bytes.startsWith text "(?<" then
    namedGroup draft 3 text
  else
    switches draft text (text.length + 1) ⟨draft.modes, false, false⟩
      (text.drop 2)

def quoted (draft : Draft) : (fuel : Nat) → Bytes → Except PatternError Draft
  | 0, _ => .ok draft
  | _, [] => .ok draft
  | fuel + 1, text => do
      let (code, rest) ← CharClass.nextCode text
      quoted (draft.literal code) fuel rest

/-- Reads what a backslash begins. -/
def backslash (draft : Draft) (text : Bytes) :
    Except PatternError (Draft × Bytes) := do
  let assertion (assertion : Assertion) : Except PatternError (Draft × Bytes) :=
    return (draft.push (.assert assertion), text.drop 2)
  match (text.drop 1).head?.map fun letter => Char.ofNat letter.toNat with
  | some 'A' => assertion .beginText
  | some 'b' => assertion .wordBoundary
  | some 'B' => assertion .noWordBoundary
  | some 'z' => assertion .endText
  | some 'C' => throw ⟨.escape, text.take 2⟩
  | some 'Q' =>
      let inner := text.drop 2
      let (literal, rest) := (Bytes.cut? "\\E" inner).getD (inner, [])
      let next ← { draft with operator := none }.quoted literal.length literal
      return (next, rest)
  | _ =>
      if let some (set, rest) ←
          CharClass.propertyClass? draft.modes.anyCase text then
        return (draft.push (.oneOf set), rest)
      if let some (set, rest) :=
          CharClass.letterClass? draft.modes.anyCase text then
        return (draft.push (.oneOf set), rest)
      let (code, rest) ← CharClass.escape text
      return (draft.literal code, rest)

def dot (dotAll : Bool) : CharSet :=
  if dotAll then .full else ⟨[(0, 9), (11, CharSet.maximum)]⟩

/-- Reads the next item, operator or parenthesis of a pattern that begins with
`octet`. -/
def readItem (whole : Bytes) (draft : Draft) (octet : UInt8) (rest : Bytes) :
    Except PatternError (Draft × Bytes) := do
  let text := octet :: rest
  match Char.ofNat octet.toNat with
  | '(' =>
      if rest.head? == some (Bytes.octet '?') then specialGroup draft text
      else return (draft.openGroup true, rest)
  | '|' => return (← draft.bar whole, rest)
  | ')' => return (← draft.closeGroup whole, rest)
  | '^' =>
      return (draft.push (.assert
        (if draft.modes.multiLine then .beginLine else .beginText)), rest)
  | '$' =>
      return (draft.push (.assert
        (if draft.modes.multiLine then .endLine else .endText)), rest)
  | '.' => return (draft.push (.oneOf (dot draft.modes.dotAll)), rest)
  | '[' =>
      let (set, rest) ← CharClass.bracketed draft.modes.anyCase text
      return (draft.push (.oneOf set), rest)
  | '*' => repetition whole draft text rest (.repeated .star) false
  | '+' => repetition whole draft text rest (.repeated .plus) false
  | '?' => repetition whole draft text rest (.repeated .optional) false
  | '\x7b' =>
      match bounds? text with
      | none => return (draft.literal octet.toNat, rest)
      | some (least, most, after) =>
          if validBounds least most then
            repetition whole draft text after (.counted least most)
              (least ≥ 2 || most.any (· ≥ 2))
          else throw ⟨.repeatCount, CharClass.textBetween text after⟩
  | '\\' => backslash draft text
  | _ =>
      let (code, rest) ← CharClass.nextCode text
      return (draft.literal code, rest)

def readItems (whole : Bytes) :
    (fuel : Nat) → Draft → Bytes → Except PatternError Draft
  | 0, draft, _ => .ok draft
  | _, draft, [] => .ok draft
  | fuel + 1, draft, octet :: rest => do
      let (next, rest) ← draft.readItem whole octet rest
      readItems whole fuel next rest

end Draft

/-- The regular expression that a pattern denotes. -/
def parse (pattern : Bytes) : Except PatternError Regex := do
  let draft ← Draft.readItems pattern pattern.length .start pattern
  let (regex, _) ← draft.endGroup pattern
  if !draft.enclosing.isEmpty then throw ⟨.unclosedGroup, pattern⟩
  return regex

end Regex

end Defun
