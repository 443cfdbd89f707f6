import Defun.Pattern
import Defun.Text.Decimal
import Defun.Text.Quoted

/-!
# Lexical kinds

A kind is a name with the pattern of its tokens.  The order of a list of kinds
is their priority: the first kind that matches wins.
-/

namespace Defun

/-- A named lexical category. -/
structure Kind where
  name : Bytes
  pattern : Pattern
deriving DecidableEq, Repr

namespace Kind

/-- A kind with no tokens. -/
def silent (name : Bytes) : Kind := ⟨name, [], Program.ofRegex .never⟩

/-- The kind with a name and the text of its pattern. -/
def compile (name pattern : Bytes) : Except PatternError Kind :=
  (Pattern.compile pattern).map fun pattern => ⟨name, pattern⟩

/-- The number of runes that the kind takes at the beginning of a text. -/
def matchRunes? (kind : Kind) (text : List Rune) : Option Nat :=
  kind.pattern.matchLength? text

/-- The number of octets that the kind takes at the beginning of a text. -/
def matchOctets? (kind : Kind) (text : Bytes) : Option Nat :=
  let runes := Rune.read text
  (kind.matchRunes? runes).map fun count =>
    (Rune.octetsOf (runes.take count)).length

end Kind

/-- The complaint about a fixed pattern that cannot be read. -/
def PatternError.refusal (error : PatternError) (pattern : Bytes) : Bytes :=
  "regexp: Compile(" ++ Quoted.quoteRaw pattern ++ "): " ++ error.message

end Defun
