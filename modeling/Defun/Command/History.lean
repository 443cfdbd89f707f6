import Defun.Command.Lines
import Defun.Input
import Defun.Text.Decimal
import Defun.Text.Rune

/-!
# History of a prompt

The history holds the texts that were entered, the oldest first.  It is kept in
a file with a line end behind each text.  A prompt leaves it to a keeper how
entries are added, written and read.
-/

namespace Defun

namespace History

structure Keeper where
  /-- Adds an entry. -/
  add : List Bytes → Bytes → List Bytes
  /-- The texts to be written one after the other. -/
  write : List Bytes → List Bytes
  /-- The entries of a history file, and a complaint about it. -/
  read : Input → List Bytes × Option Bytes

/-- The greatest number of entries. -/
def limit : Nat := 1000

/-- An entry more at the end; the oldest is dropped if there are too many. -/
def push (entries : List Bytes) (entry : Bytes) : List Bytes :=
  let longer := entries ++ [entry]
  if longer.length > limit then longer.drop 1 else longer

/-- Adds an entry that is not the same as the last one. -/
def add (entries : List Bytes) (entry : Bytes) : List Bytes :=
  if entries.getLast? = some entry then entries else push entries entry

/-- Why a history file was not read to its end. -/
inductive Fault where
  | tooLong (line : Nat)
  | malformed (line : Nat)
deriving DecidableEq, Repr

def Fault.message : Fault → Bytes
  | tooLong line => "line " ++ Decimal.ofNat line ++ " is too long"
  | malformed line => "invalid string at line " ++ Decimal.ofNat line

/-- Reads lines as entries, up to the first line that is too long or not
well-formed. -/
def readLines (entries : List Bytes) (number : Nat) :
    List Line → List Bytes × Option Fault
  | [] => (entries, none)
  | line :: rest =>
      if line.isPart then (entries, some (.tooLong number))
      else if !Bytes.isWellFormed line.text then
        (entries, some (.malformed number))
      else readLines (push entries line.text) (number + 1) rest

def read (file : Input) : List Bytes × Option Bytes :=
  match readLines [] 1 (Line.all file.chunks.flatten) with
  | (entries, some fault) => (entries, some fault.message)
  | (entries, none) => (entries, file.failure)

def entryLine (entry : Bytes) : Bytes := entry ++ [Bytes.newline]

def keeper : Keeper := ⟨add, List.map entryLine, read⟩

end History

end Defun
