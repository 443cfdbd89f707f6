import Defun.Text.Rune

/-!
# Patterns of file names

In a pattern a star stands for any text, a question mark for any character, and
a bracket for one character of a list of ranges.  A backslash takes the meaning
of a sign away.
-/

namespace Defun

/-- One sign of a pattern. -/
inductive Wildcard where
  | literal (value : UInt8)
  | any
  | oneOf (isNegated : Bool) (ranges : List (Nat × Nat))
  | star
deriving DecidableEq, Repr

namespace Wildcard

/-- The bounds of ranges: a character that is not a sign of the list, or any
character behind a backslash.  More must follow. -/
def bound? (pattern : Bytes) : Option (Nat × Bytes) :=
  let pattern? : Option Bytes :=
    match pattern with
    | [] => none
    | 0x2D :: _ => none
    | 0x5D :: _ => none
    | 0x5C :: rest => some rest
    | pattern => some pattern
  match pattern? with
  | some (octet :: rest) =>
      let rune := Rune.first octet rest
      let behind := rest.drop (rune.width - 1)
      if rune.isMalformed || behind.isEmpty then none
      else some (rune.char.toNat, behind)
  | _ => none

/-- The ranges of a list, of which there is at least one, and what is behind the
closing bracket. -/
def ranges? : (fuel : Nat) → (isFirst : Bool) → Bytes →
    Option (List (Nat × Nat) × Bytes)
  | 0, _, _ => none
  | fuel + 1, isFirst, pattern =>
      if pattern.head? == some 0x5D && !isFirst then some ([], pattern.drop 1)
      else do
        let (first, behind) ← bound? pattern
        let (last, behind) ←
          if behind.head? == some 0x2D then bound? (behind.drop 1)
          else some (first, behind)
        let (others, behind) ← ranges? fuel false behind
        some ((first, last) :: others, behind)

/-- The signs of a pattern, if it is well formed. -/
def parseWith : (fuel : Nat) → Bytes → Option (List Wildcard)
  | _, [] => some []
  | 0, _ => none
  | fuel + 1, octet :: rest =>
      if octet = 0x2A then (parseWith fuel rest).map (star :: ·)
      else if octet = 0x3F then (parseWith fuel rest).map (any :: ·)
      else if octet = 0x5C then
        match rest with
        | [] => none
        | quoted :: rest => (parseWith fuel rest).map (literal quoted :: ·)
      else if octet = 0x5B then do
        let isNegated := rest.head? == some 0x5E
        let rest := if isNegated then rest.drop 1 else rest
        let (ranges, behind) ← ranges? (rest.length + 1) true rest
        (parseWith fuel behind).map (oneOf isNegated ranges :: ·)
      else (parseWith fuel rest).map (literal octet :: ·)

def parse? (pattern : Bytes) : Option (List Wildcard) :=
  parseWith pattern.length pattern

/-- What is left of a name behind signs without stars, if they match its
front. -/
def matchFront? : List Wildcard → Bytes → Option Bytes
  | [], name => some name
  | _ :: _, [] => none
  | sign :: signs, first :: rest =>
      let rune := Rune.first first rest
      let behind := rest.drop (rune.width - 1)
      match sign with
      | literal value => if value = first then matchFront? signs rest else none
      | any => if first = 0x2F then none else matchFront? signs behind
      | oneOf isNegated ranges =>
          let code := rune.char.toNat
          let isListed := ranges.any fun (low, high) => low ≤ code && code ≤ high
          if isListed != isNegated then matchFront? signs behind else none
      | star => none

/-- The signs up to the first star, and those behind it, if there is a star. -/
def chunk : List Wildcard → List Wildcard × Option (List Wildcard)
  | [] => ([], none)
  | star :: signs => ([], some signs)
  | sign :: signs =>
      let (front, behind) := chunk signs
      (sign :: front, behind)

/-- What is left of a name behind the first place where signs without stars
match.  If nothing may be left, the place must be the last one. -/
def search? (signs : List Wildcard) (isLast : Bool) : Bytes → Option Bytes
  | [] =>
      (matchFront? signs []).filter fun rest => !isLast || rest.isEmpty
  | octet :: name =>
      match (matchFront? signs (octet :: name)).filter
          fun rest => !isLast || rest.isEmpty with
      | some rest => some rest
      | none => if octet = 0x2F then none else search? signs isLast name

/-- Whether signs behind a star match a name. -/
def matchBehindStar : (fuel : Nat) → List Wildcard → Bytes → Bool
  | 0, _, _ => false
  | fuel + 1, signs, name =>
      let (front, behind) := chunk signs
      match front, behind with
      | [], none => !name.contains 0x2F
      | [], some signs => matchBehindStar fuel signs name
      | front, none => (search? front true name).isSome
      | front, some signs =>
          match search? front false name with
          | some rest => matchBehindStar fuel signs rest
          | none => false

def isMatch (signs : List Wildcard) (name : Bytes) : Bool :=
  let (front, behind) := chunk signs
  match matchFront? front name, behind with
  | none, _ => false
  | some rest, none => rest.isEmpty
  | some rest, some signs => matchBehindStar (signs.length + 1) signs rest

def isPattern (text : Bytes) : Bool :=
  text.any fun octet =>
    octet = 0x2A || octet = 0x3F || octet = 0x5B || octet = 0x5C

end Wildcard

end Defun
