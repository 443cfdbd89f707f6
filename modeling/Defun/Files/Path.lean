import Defun.Text.Bytes

/-!
# Paths

A path is a text of names with slashes between them.  Its plain form has no
empty names, no names that stand for the same directory, and no names that are
taken back by a step up.
-/

namespace Defun

namespace Path

def slash : UInt8 := 47

/-- The name that stands for a directory itself. -/
def here : Bytes := "."

/-- The name that stands for the directory around a directory. -/
def up : Bytes := ".."

/-- The pieces of a path between slashes, empty ones included. -/
def pieces : Bytes → List Bytes
  | [] => [[]]
  | octet :: rest =>
      if octet = slash then [] :: pieces rest
      else
        match pieces rest with
        | [] => [[octet]]
        | piece :: others => (octet :: piece) :: others

/-- The names of a path.  Empty pieces name nothing. -/
def names (path : Bytes) : List Bytes :=
  (pieces path).filter fun piece => !piece.isEmpty

def ofNames (names : List Bytes) : Bytes :=
  Bytes.join [slash] names

def isAbsolute (path : Bytes) : Bool :=
  path.head? == some slash

def wantsDirectory (path : Bytes) : Bool :=
  path.getLast? == some slash

/-- The names on the way of a path.  A slash at its end stands for one more name
in a directory. -/
def steps (path : Bytes) : List Bytes :=
  if wantsDirectory path then names path ++ [here] else names path

/-- Where a path starts that is met in a directory. -/
def start (path : Bytes) (directory : List Bytes) : List Bytes :=
  if isAbsolute path then [] else directory

/-- The path with the given names from the root or from the directory at
hand. -/
def ofNamesFrom (rooted : Bool) (names : List Bytes) : Bytes :=
  if rooted then slash :: ofNames names else ofNames names

/-- Adds a name to the names of a plain path, the last name first.  A step up
takes back the name before it, and is lost at the root. -/
def push (rooted : Bool) (reversed : List Bytes) (name : Bytes) : List Bytes :=
  if name == here then reversed
  else if name == up then
    match reversed with
    | [] => if rooted then [] else [up]
    | last :: rest => if last == up then up :: reversed else rest
  else name :: reversed

/-- The plain form of a path. -/
def clean (path : Bytes) : Bytes :=
  let rooted := isAbsolute path
  let plain := ofNamesFrom rooted ((names path).foldl (push rooted) []).reverse
  if plain.isEmpty then here else plain

/-- The plain path of a file in a directory.  No directory is the one at
hand. -/
def inDirectory (directory file : Bytes) : Bytes :=
  if directory.isEmpty then clean file
  else clean (directory ++ [slash] ++ file)

def split (path : Bytes) : Bytes × Bytes :=
  let last := (path.reverse.takeWhile (· != slash)).reverse
  let front := path.take (path.length - last.length)
  (if front.isEmpty then here else if front == [slash] then front
    else front.dropLast, last)

end Path

end Defun
