import Defun.Text.Decimal
import Defun.Token

/-!
# Diagnostics

A diagnostic is a cause together with the token where it was found.  A token
without a kind stands for the end of the input.
-/

namespace Defun

/-- A cause found at a token. -/
structure Located (ε : Type) where
  token : Token
  cause : ε
deriving DecidableEq, Repr

/-- The place of a diagnostic and then the wording of its cause. -/
def Located.message {ε : Type} (describe : ε → Bytes)
    (located : Located ε) : Bytes :=
  match located.token.kind with
  | none => "at end: " ++ describe located.cause
  | some _ =>
      "at " ++ Decimal.ofInt located.token.position.line ++ ":" ++
        Decimal.ofInt located.token.position.column ++ ": `" ++
        located.token.lexeme ++ "`, " ++ describe located.cause

/-- Why a sequence of tokens is not a program. -/
inductive SyntaxError where
  /-- A token stands where only the expected ones may. -/
  | unexpectedToken (expected : List Bytes) (actual : Bytes)
  /-- The input ends where one of the expected tokens must follow. -/
  | unexpectedEnd (expected : List Bytes)
  /-- A numeral denotes no integer of 32 bits. -/
  | integerRange (lexeme : Bytes)
deriving DecidableEq, Repr

namespace SyntaxError

def message : SyntaxError → Bytes
  | unexpectedToken expected actual =>
      "unexpected token: expected " ++ Bytes.join ", " expected ++
        ", found " ++ actual
  | unexpectedEnd expected =>
      "unexpected end of input: expected " ++ Bytes.join ", " expected
  | integerRange lexeme =>
      "integer literal " ++ lexeme ++ " is out of range"

/-- Whether more input could have avoided the error. -/
def isUnexpectedEnd : SyntaxError → Bool
  | unexpectedEnd _ => true
  | _ => false

end SyntaxError

end Defun
