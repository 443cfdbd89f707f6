import Defun.Text.Bytes

/-!
# Faults of patterns

Why a text is not a regular expression, and the part of it that is to blame.
-/

namespace Defun

/-- What is wrong with a pattern. -/
inductive PatternFault where
  | classRange
  | escape
  | captureName
  | groupFlags
  | nestedRepetition
  | repeatCount
  | malformedText
  | unclosedClass
  | unclosedGroup
  | nothingToRepeat
  | trailingBackslash
  | unopenedGroup
  | tooDeep
  | tooLarge
deriving DecidableEq, Repr

def PatternFault.wording : PatternFault → String
  | classRange => "invalid character class range"
  | escape => "invalid escape sequence"
  | captureName => "invalid named capture"
  | groupFlags => "invalid or unsupported Perl syntax"
  | nestedRepetition => "invalid nested repetition operator"
  | repeatCount => "invalid repeat count"
  | malformedText => "invalid UTF-8"
  | unclosedClass => "missing closing ]"
  | unclosedGroup => "missing closing )"
  | nothingToRepeat => "missing argument to repetition operator"
  | trailingBackslash => "trailing backslash at end of expression"
  | unopenedGroup => "unexpected )"
  | tooDeep => "expression nests too deeply"
  | tooLarge => "expression too large"

/-- A fault and the part of the pattern where it was found. -/
structure PatternError where
  fault : PatternFault
  part : Bytes
deriving DecidableEq, Repr

def PatternError.message (error : PatternError) : Bytes :=
  "error parsing regexp: " ++ Bytes.ofString error.fault.wording ++ ": `" ++
    error.part ++ "`"

end Defun
