import Defun.Unicode.CaseVariants

/-!
# Regular expressions

The tree of a pattern and the forms derived from it.  Counted repetition is
expanded into plain operators by `Regex.expand`, so that only characters,
assertions, sequences, choices and three repetition operators remain.
-/

namespace Defun

/-- A condition on the characters next to a place in a text. -/
inductive Assertion where
  | beginText
  | endText
  | beginLine
  | endLine
  | wordBoundary
  | noWordBoundary
deriving DecidableEq, Repr

inductive Repetition where
  /-- Any number of times. -/
  | star
  /-- At least once. -/
  | plus
  /-- At most once. -/
  | optional
deriving DecidableEq, Repr

inductive Regex where
  /-- Matches nowhere. -/
  | never
  /-- Matches the empty text. -/
  | empty
  /-- One character, in either case if `anyCase` holds. -/
  | literal (code : Nat) (anyCase : Bool)
  /-- One character of a set. -/
  | oneOf (set : CharSet)
  /-- The empty text where the assertion holds. -/
  | assert (assertion : Assertion)
  /-- A capturing group. -/
  | group (inner : Regex)
  /-- One after the other. -/
  | seq (first second : Regex)
  /-- The first one, or else the second. -/
  | choice (first second : Regex)
  /-- A repetition that prefers more rounds if it is greedy. -/
  | repeated (operator : Repetition) (greedy : Bool) (inner : Regex)
  /-- A repetition from `least` to `most` times, without an upper bound if
  there is no `most`. -/
  | counted (least : Nat) (most : Option Nat) (greedy : Bool) (inner : Regex)
deriving DecidableEq, Repr

namespace Regex

/-- The expressions of a list one after the other. -/
def sequence : List Regex → Regex
  | [] => empty
  | [single] => single
  | first :: rest => seq first (sequence rest)

/-- The first expression of a list that matches. -/
def choices : List Regex → Regex
  | [] => never
  | [single] => single
  | first :: rest => choice first (choices rest)

/-- Whether nested counted repetitions stay within a number of copies of what
they repeat. -/
def withinCopies (copies : Nat) : Regex → Bool
  | counted least most _ inner =>
      match most with
      | some 0 => true
      | _ =>
          let count := most.getD least
          count ≤ copies &&
            withinCopies (if count = 0 then copies else copies / count) inner
  | group inner => withinCopies copies inner
  | repeated _ _ inner => withinCopies copies inner
  | seq first second => withinCopies copies first && withinCopies copies second
  | choice first second =>
      withinCopies copies first && withinCopies copies second
  | _ => true

/-- The greatest number of rounds that a counted repetition names. -/
def rounds : Regex → Nat
  | counted least most _ _ => max 1 (most.getD least)
  | _ => 1

/-- Whether two expressions are literals of one kind. -/
def joins : Regex → Regex → Bool
  | literal _ anyCase, literal _ otherCase => anyCase == otherCase
  | _, _ => false

/-- The number of instructions that an expression stands for, at least one. -/
def size : Regex → Nat
  | group inner => 2 + size inner
  | seq first second => size first + size second
  | choice first second => size first + size second + 1
  | repeated .star _ inner => 2 + size inner
  | repeated _ _ inner => 1 + size inner
  | counted least most _ inner =>
      match most with
      | some most => max 1 (most * size inner + (most - least))
      | none => if least = 0 then 2 + size inner else 1 + least * size inner
  | _ => 1

/-- Measures of an expression: its number of levels, the levels of its highest
member when it continues a sequence or a choice, and the kind of literal if it
is a run of literal characters of one kind. -/
structure Levels where
  whole : Nat
  inSequence : Nat
  inChoice : Nat
  literals : Option Bool

/-- An expression that is no sequence or choice is its own only member. -/
def Levels.compound (levels : Nat) : Levels :=
  ⟨levels, levels, levels, none⟩

/-- The kind of literal of two runs of literals, if it is the same. -/
def sameLiterals : Option Bool → Option Bool → Option Bool
  | some left, some right => if left = right then some left else none
  | _, _ => none

/-- The levels of an expression, where a sequence or choice is one level
however long it is, and a run of literal characters is a single level. -/
def levels : Regex → Levels
  | literal _ anyCase => ⟨1, 1, 1, some anyCase⟩
  | seq first second =>
      let left := levels first
      let right := levels second
      let members := max left.inSequence right.inSequence
      let literals := sameLiterals left.literals right.literals
      let whole := if literals.isSome then 1 else 1 + members
      ⟨whole, members, whole, literals⟩
  | choice first second =>
      let members := max (levels first).inChoice (levels second).inChoice
      ⟨1 + members, 1 + members, members, none⟩
  | group inner => .compound (1 + (levels inner).whole)
  | repeated _ _ inner => .compound (1 + (levels inner).whole)
  | counted _ _ _ inner => .compound (1 + (levels inner).whole)
  | _ => .compound 1

def height (regex : Regex) : Nat :=
  (levels regex).whole

/-- Repeats an expression, except that repeating the empty text gains nothing
and that a repetition of a repetition of the same kind is one of them. -/
def repeatOnce (operator : Repetition) (greedy : Bool) (inner : Regex) : Regex :=
  match inner with
  | empty => empty
  | repeated same sameGreedy _ =>
      if same = operator && sameGreedy = greedy then inner
      else repeated operator greedy inner
  | _ => repeated operator greedy inner

/-- The optional copies of a counted repetition, nested so that giving up one
gives up all that follow. -/
def nestedOptional (greedy : Bool) (inner : Regex) : Nat → Regex
  | 0 => empty
  | 1 => repeatOnce .optional greedy inner
  | count + 1 =>
      repeatOnce .optional greedy (seq inner (nestedOptional greedy inner count))

def expandCount (least : Nat) (most : Option Nat) (greedy : Bool)
    (inner : Regex) : Regex :=
  match least, most with
  | 0, none => repeatOnce .star greedy inner
  | least + 1, none =>
      sequence (List.replicate least inner ++ [repeatOnce .plus greedy inner])
  | least, some most =>
      if most < least then never
      else if most = 0 then empty
      else
        sequence (List.replicate least inner ++
          if least < most then [nestedOptional greedy inner (most - least)]
          else [])

def expand : Regex → Regex
  | group inner => group (expand inner)
  | seq first second => seq (expand first) (expand second)
  | choice first second => choice (expand first) (expand second)
  | repeated operator greedy inner => repeatOnce operator greedy (expand inner)
  | counted least most greedy inner =>
      if most = some 0 then empty
      else expandCount least most greedy (expand inner)
  | other => other

/-- Whether an expression can match the empty text, taking every assertion to
hold. -/
def nullable : Regex → Bool
  | empty => true
  | assert _ => true
  | group inner => nullable inner
  | seq first second => nullable first && nullable second
  | choice first second => nullable first || nullable second
  | repeated .plus _ inner => nullable inner
  | repeated _ _ _ => true
  | counted least _ _ inner => least == 0 || nullable inner
  | _ => false

end Regex

end Defun
