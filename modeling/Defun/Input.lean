import Defun.Text.Bytes

/-!
# Inputs

An input arrives in pieces.  It is read to its end before anything is made of
it, and it may fail instead of ending.
-/

namespace Defun

structure Input where
  chunks : List Bytes
  /-- Why the input fails behind its last piece, if it does. -/
  failure : Option Bytes
deriving DecidableEq, Repr

namespace Input

/-- Reads one piece after the other.  Of the octets that were read before, the
last one comes first. -/
def readOn (failure : Option Bytes) (read : Bytes) :
    List Bytes → Except Bytes Bytes
  | [] =>
      match failure with
      | some reason => .error reason
      | none => .ok read.reverse
  | chunk :: rest => readOn failure (chunk.reverseAux read) rest

/-- All octets of an input, or why it fails. -/
def contents (input : Input) : Except Bytes Bytes :=
  readOn input.failure [] input.chunks

end Input

end Defun
