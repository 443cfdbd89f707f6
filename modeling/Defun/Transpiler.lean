import Defun.Grammar.Parse
import Defun.Log
import Defun.Token.Lexer
import Defun.Tree.JavaScript
import Defun.Tree.SExpression

/-!
# From source text to JavaScript

A source text is split into tokens, the tokens are read as a program, and the
program is written as JavaScript.  A text that is not a program has no output.
-/

namespace Defun

/-- Why a source text has no output. -/
inductive TranspileError where
  /-- The text is not a program. -/
  | syntactic (error : Located SyntaxError)
  /-- The tree of the program lacks a node. -/
  | incomplete (error : MissingNode)
deriving DecidableEq, Repr

namespace TranspileError

def message : TranspileError → Bytes
  | syntactic error => "parse: " ++ error.message SyntaxError.message
  | incomplete error => error.message

/-- Whether more text could have made the source a program. -/
def isUnexpectedEnd : TranspileError → Bool
  | syntactic error => error.cause.isUnexpectedEnd
  | incomplete _ => false

end TranspileError

/-- The JavaScript text of a source text. -/
def transpile (kinds : List Kind) (source : Bytes) :
    Except TranspileError Bytes :=
  match parse (tokenize kinds source) with
  | .error error => .error (.syntactic error)
  | .ok root =>
      match root.generate with
      | .error error => .error (.incomplete error)
      | .ok output => .ok output

namespace Transpiler

/-- The record of a stage with one attribute. -/
def stage (message key : Bytes) (value : Log.Value) : Log.Record :=
  ⟨.debug, message, [⟨key, value⟩]⟩

/-- The records of a transpilation: how many tokens were found, the tree if
the tokens are a program, and the size of the output. -/
def records (kinds : List Kind) (source : Bytes) : List Log.Record :=
  let tokens := tokenize kinds source
  stage "tokenized" "tokens" (.integer tokens.length) ::
    match parse tokens with
    | .error _ => []
    | .ok root =>
        match root.sexpression, root.generate with
        | .ok tree, .ok output =>
            [stage "parsed" "ast" (.text tree),
              stage "generated" "bytes" (.integer output.length)]
        | _, _ => []

end Transpiler

end Defun
