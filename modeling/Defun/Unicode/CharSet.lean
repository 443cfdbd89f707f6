/-!
# Sets of code points

A set of code points is given by a list of closed ranges.  The ranges may
overlap and stand in any order; a code point belongs to the set if it lies in
one of them.  The tables of the Unicode standard are written as hexadecimal
ranges, `41-5A` for the code points from U+0041 to U+005A and `AA` for U+00AA
alone.
-/

namespace Defun

/-- A set of code points as a list of closed ranges. -/
structure CharSet where
  ranges : List (Nat × Nat)
deriving DecidableEq, Repr

namespace CharSet

def maximum : Nat := 0x10FFFF

def empty : CharSet := ⟨[]⟩

def full : CharSet := ⟨[(0, maximum)]⟩

def range (first last : Nat) : CharSet := ⟨[(first, last)]⟩

def single (code : Nat) : CharSet := range code code

def contains (set : CharSet) (code : Nat) : Bool :=
  set.ranges.any fun (first, last) => first ≤ code && code ≤ last

def union (left right : CharSet) : CharSet :=
  ⟨left.ranges ++ right.ranges⟩

/-- Adds a range to a list of ranges that is sorted by first bounds. -/
def insertRange (range : Nat × Nat) : List (Nat × Nat) → List (Nat × Nat)
  | [] => [range]
  | other :: rest =>
      if range.1 ≤ other.1 then range :: other :: rest
      else other :: insertRange range rest

/-- The gaps from `start` on that a list of ranges, sorted by first bounds,
leaves open. -/
def gaps (start : Nat) : List (Nat × Nat) → List (Nat × Nat)
  | [] => if start ≤ maximum then [(start, maximum)] else []
  | (first, last) :: rest =>
      if start < first then
        (start, first - 1) :: gaps (max start (last + 1)) rest
      else gaps (max start (last + 1)) rest

def complement (set : CharSet) : CharSet :=
  ⟨gaps 0 (set.ranges.foldr insertRange [])⟩

def hexDigit? (digit : Char) : Option Nat :=
  if '0' ≤ digit && digit ≤ '9' then some (digit.toNat - '0'.toNat)
  else if 'A' ≤ digit && digit ≤ 'F' then some (digit.toNat - 'A'.toNat + 10)
  else if 'a' ≤ digit && digit ≤ 'f' then some (digit.toNat - 'a'.toNat + 10)
  else none

/-- Reads the ranges of a table.  `first` is the lower bound of a range of
which the upper bound `last` is being read. -/
def readTable (first : Option Nat) (last : Nat) :
    List Char → List (Nat × Nat)
  | [] => [(first.getD last, last)]
  | '-' :: rest => readTable (some last) 0 rest
  | ' ' :: rest => (first.getD last, last) :: readTable none 0 rest
  | digit :: rest =>
      readTable first (last * 16 + (hexDigit? digit).getD 0) rest

/-- The set that a table describes, one line of ranges after the other. -/
def ofTable (table : List String) : CharSet :=
  ⟨table.flatMap fun line => readTable none 0 line.toList⟩

end CharSet

end Defun
