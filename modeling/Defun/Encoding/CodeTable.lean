import Defun.Text.Rune

/-!
# Tables of characters

A coded character set is a table of characters by row and column.  Rows may be
shorter than the table is wide; the places that they lack have no character.
-/

namespace Defun

namespace Encoding

/-- A table of characters in rows of the same width. -/
structure CodeTable where
  width : Nat
  rows : Array (Array Char)

namespace CodeTable

def ofRows (width : Nat) (rows : List String) : CodeTable :=
  ⟨width, (rows.map fun row => row.toList.toArray).toArray⟩

/-- The character at an index, counted row by row, or U+FFFD if there is
none. -/
def find (table : CodeTable) (index : Nat) : Char :=
  match table.rows[index / table.width]? with
  | some row => row[index % table.width]?.getD replacement
  | none => replacement

end CodeTable

/-- What the front of a text decodes to, and how many octets behind the first
one belong to it. -/
structure Decoded where
  chars : List Char
  following : Nat

namespace Decoded

def one (char : Char) (following : Nat) : Decoded := ⟨[char], following⟩

/-- A malformed piece that ends behind its first octet. -/
def malformed : Decoded := one replacement 0

/-- A malformed piece with a second octet. -/
def malformedPair : Decoded := one replacement 1

end Decoded

/-- Decodes a text piece by piece.  `step` is given an octet and the octets
behind it. -/
def decodeWith (step : UInt8 → Bytes → Decoded) : Bytes → List Char
  | [] => []
  | octet :: rest =>
      let piece := step octet rest
      piece.chars ++ decodeWith step (rest.drop piece.following)
termination_by text => text.length
decreasing_by
  simp only [List.length_drop, List.length_cons]
  omega

/-- The character of an octet in the range of ASCII. -/
def ascii (octet : UInt8) : Char := Char.ofNat octet.toNat

end Encoding

end Defun
