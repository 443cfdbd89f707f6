import Defun.Tree

/-!
# Writing trees

A writer appends the text of a subtree to a shared buffer, so that writing a
tree takes time linear in the length of its text.
-/

namespace Defun

/-- The text written so far. -/
abbrev Buffer := Array UInt8

/-- Appends some text to a buffer. -/
abbrev Writer := Buffer → Buffer

namespace Writer

/-- Appends fixed text. -/
def atom (text : Bytes) : Writer :=
  fun buffer => buffer ++ text

/-- Applies writers one after the other. -/
def all (writers : List Writer) : Writer :=
  fun buffer => writers.foldl (fun buffer writer => writer buffer) buffer

/-- Applies writers one after the other and puts a separator between
neighbours. -/
def separated (separator : Bytes) : List Writer → Writer
  | [] => id
  | first :: rest =>
      fun buffer =>
        rest.foldl (fun buffer writer => writer (atom separator buffer))
          (first buffer)

/-- The text that a writer appends to an empty buffer. -/
def text (writer : Writer) : Bytes :=
  (writer #[]).toList

end Writer

end Defun
