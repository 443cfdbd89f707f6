import Defun.Grammar.State

/-!
# Reading token sequences

A reading consumes tokens until the input ends or a token does not fit.  It
reports the tokens that it left, so that another reading can go on from there.
-/

namespace Defun

/-- The result of a reading and the tokens that it did not consume. -/
structure Reading where
  result : Except (Located SyntaxError) Node
  rest : List Token

namespace Reading

/-- Reads tokens from a place in the grammar behind some definitions.  A token
that does not fit is left; a numeral out of range is consumed. -/
def resume (definitions : List Node) (state : State) : List Token → Reading
  | [] => ⟨state.finish definitions, []⟩
  | token :: rest =>
      match state.step token with
      | .ok (.advance next) => resume definitions next rest
      | .ok (.close definition) =>
          resume (definitions ++ [definition]) .outside rest
      | .error located =>
          match located.cause with
          | .integerRange _ => ⟨.error located, rest⟩
          | _ => ⟨.error located, token :: rest⟩

def program (tokens : List Token) : Reading :=
  resume [] .outside tokens

def expression (tokens : List Token) : Reading :=
  resume [] .expression tokens

end Reading

/-- The program that a sequence of tokens spells. -/
def parse (tokens : List Token) : Except (Located SyntaxError) Node :=
  (Reading.program tokens).result

/-- The expression that a sequence of tokens spells. -/
def parseExpression (tokens : List Token) :
    Except (Located SyntaxError) Node :=
  (Reading.expression tokens).result

end Defun
