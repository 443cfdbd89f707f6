import Defun.Files.Tree
import Defun.Files.Wildcard

/-!
# Source files of a directory

Source files end in `.np`.  The directory may itself be a pattern, which then
stands for all directories that it matches.
-/

namespace Defun

namespace Sources

/-- Why no files were looked for. -/
inductive BadPattern where
  | badPattern
deriving DecidableEq, Repr

def BadPattern.message : BadPattern → Bytes
  | badPattern => "syntax error in pattern"

def namePattern : Bytes := "*.np"

/-- The names in a directory.  What is no directory, or cannot be opened, has
none. -/
def listing (tree : FileTree) (directory : Bytes) : List Bytes :=
  match tree.openFile .read directory with
  | .ok (.file names, _) =>
      match tree.find? names with
      | some ⟨.directory, _⟩ => tree.children names
      | _ => []
  | _ => []

/-- The paths of what a name pattern matches in a directory. -/
def inDirectory (tree : FileTree) (signs : List Wildcard) (directory : Bytes) :
    List Bytes :=
  ((listing tree directory).filter (Wildcard.isMatch signs)).map
    (Path.inDirectory directory)

/-- The paths that a pattern matches.  Each part of it between slashes must be
well formed. -/
def expand (tree : FileTree) : (fuel : Nat) → (pattern : Bytes) →
    Except BadPattern (List Bytes)
  | 0, _ => .error .badPattern
  | fuel + 1, pattern =>
      match Wildcard.parse? pattern with
      | none => .error .badPattern
      | some _ =>
          let (directory, name) := Path.split pattern
          match Wildcard.parse? name with
          | none => .error .badPattern
          | some signs =>
              if !Wildcard.isPattern directory then
                .ok (inDirectory tree signs directory)
              else do
                let directories ← expand tree fuel directory
                return directories.flatMap (inDirectory tree signs)

/-- The source files of a directory, in order. -/
def find (tree : FileTree) (directory : Bytes) :
    Except BadPattern (List Bytes) := do
  let found ← expand tree 10000 (Path.inDirectory directory namePattern)
  return found.mergeSort Bytes.le

end Sources

end Defun
