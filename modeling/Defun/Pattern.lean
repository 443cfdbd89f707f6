import Defun.Pattern.Parse
import Defun.Pattern.Program

/-!
# Patterns

A pattern is the text of a regular expression together with the program that
matches it.
-/

namespace Defun

/-- A regular expression that is ready to be matched. -/
structure Pattern where
  source : Bytes
  program : Program
deriving DecidableEq, Repr

namespace Pattern

def compile (source : Bytes) : Except PatternError Pattern :=
  (Regex.parse source).map fun regex => ⟨source, Program.ofRegex regex⟩

/-- The number of runes of the match at the beginning of a text.  A match of
nothing does not count. -/
def matchLength? (pattern : Pattern) (text : List Rune) : Option Nat :=
  (pattern.program.match? text).filter (· != 0)

end Pattern

end Defun
