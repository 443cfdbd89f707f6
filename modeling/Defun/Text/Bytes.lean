/-!
# Texts as octet strings

Source files, names, patterns and outputs are sequences of octets that need
not be well-formed UTF-8, so every text of the library is a list of octets.
Fixed wording is written as an ordinary string and turned into octets by
`Bytes.ofString`.
-/

namespace Defun

/-- A text: any sequence of octets. -/
abbrev Bytes := List UInt8

namespace Bytes

/-- The UTF-8 octets of a string. -/
def ofString (text : String) : Bytes :=
  text.toUTF8.data.toList

/-- The string whose UTF-8 octets are given, if they are well formed. -/
def toString? (text : Bytes) : Option String :=
  String.fromUTF8? ⟨text.toArray⟩

def octet (character : Char) : UInt8 :=
  character.toNat.toUInt8

def newline : UInt8 := 10

/-- Texts written one after the other with a separator between neighbours. -/
def join (separator : Bytes) (parts : List Bytes) : Bytes :=
  separator.intercalate parts

/-- Texts of several lines, one line each. -/
def unlines (lines : List Bytes) : Bytes :=
  join [newline] lines

def startsWith (text start : Bytes) : Bool :=
  start.isPrefixOf text

/-- The text before and the text after the first occurrence of `mark`, if it
occurs at all. -/
def cut? (mark : Bytes) : Bytes → Option (Bytes × Bytes)
  | [] => if mark.isEmpty then some ([], []) else none
  | head :: rest =>
      if mark.isPrefixOf (head :: rest) then
        some ([], (head :: rest).drop mark.length)
      else
        (cut? mark rest).map fun (before, after) => (head :: before, after)

/-- The pieces of a text between spaces. -/
def words : Bytes → List Bytes
  | [] => [[]]
  | head :: rest =>
      if head = octet ' ' then [] :: words rest
      else
        match words rest with
        | [] => [[head]]
        | word :: others => (head :: word) :: others

/-- A text in blocks of so many octets, of which the last may be shorter. -/
def blocks (size : Nat) : Bytes → List Bytes
  | [] => []
  | head :: rest =>
      (head :: rest.take (size - 1)) :: blocks size (rest.drop (size - 1))
termination_by text => text.length
decreasing_by simp only [List.length_drop, List.length_cons]; omega

/-- Octet-wise lexicographic order. -/
def le (left right : Bytes) : Bool :=
  match left, right with
  | [], _ => true
  | _ :: _, [] => false
  | first :: left, second :: right =>
      if first < second then true
      else if second < first then false
      else le left right

end Bytes

/-- The octets of a piece of fixed wording. -/
instance : Coe String Bytes := ⟨Bytes.ofString⟩

end Defun
