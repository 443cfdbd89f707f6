import Defun.Text.Bytes

/-!
# Lines of an input

Lines are read through a buffer of 4096 octets.  A line that does not fit in it
together with its line feed is given out in parts.  A line is given out as soon
as it is known where it ends.
-/

namespace Defun

/-- A line without its line end, or a part of a line. -/
structure Line where
  text : Bytes
  isPart : Bool
deriving DecidableEq, Repr

namespace Line

/-- The number of octets that are looked at for the end of a line. -/
def bufferSize : Nat := 4096

def carriageReturn : UInt8 := 13

def dropReturn (line : Bytes) : Bytes :=
  if line.getLast? = some carriageReturn then line.dropLast else line

/-- The first line of a text, and what is behind it.  A part does not end with a
carriage return, which may belong to the end of the line. -/
def next (text : Bytes) : Line × Bytes :=
  let window := text.take bufferSize
  let line := window.takeWhile (· != Bytes.newline)
  if line.length < window.length then
    (⟨dropReturn line, false⟩, text.drop (line.length + 1))
  else if window.length < bufferSize then (⟨text, false⟩, [])
  else if window.getLast? = some carriageReturn then
    (⟨window.dropLast, true⟩, text.drop (bufferSize - 1))
  else (⟨window, true⟩, text.drop bufferSize)

theorem next_length_lt (octet : UInt8) (rest : Bytes) :
    (next (octet :: rest)).2.length < (octet :: rest).length := by
  unfold next bufferSize
  dsimp only
  split
  · simp only [List.length_drop, List.length_cons]
    omega
  · split
    · simp only [List.length_nil, List.length_cons]
      omega
    · split
      · simp only [List.length_drop, List.length_cons]
        omega
      · simp only [List.length_drop, List.length_cons]
        omega

def all : Bytes → List Line
  | [] => []
  | octet :: rest =>
      (next (octet :: rest)).1 :: all (next (octet :: rest)).2
termination_by text => text.length
decreasing_by exact next_length_lt octet rest

/-- Whether it is known where the first line of a text ends, whatever follows
the text. -/
def isReady (text : Bytes) : Bool :=
  text.contains Bytes.newline || bufferSize ≤ text.length

/-- The lines of a text that are known, and what is left of it. -/
def ready : Bytes → List Line × Bytes
  | [] => ([], [])
  | octet :: rest =>
      if isReady (octet :: rest) then
        let (lines, left) := ready (next (octet :: rest)).2
        ((next (octet :: rest)).1 :: lines, left)
      else ([], octet :: rest)
termination_by text => text.length
decreasing_by exact next_length_lt octet rest

end Line

end Defun
