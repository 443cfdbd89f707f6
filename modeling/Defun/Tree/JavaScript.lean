import Defun.Tree.Writer

/-!
# Trees as JavaScript

A definition becomes a function whose last statement is returned, a call
becomes a call, and a program has one function on each line.
-/

namespace Defun

namespace Node

/-- The statements of a function body: all but the last end in a semicolon,
and the last one is returned. -/
def statementWriter : List Writer → Writer
  | [] => id
  | [last] => fun buffer => last (Writer.atom "return " buffer)
  | first :: second :: rest =>
      fun buffer =>
        statementWriter (second :: rest) (Writer.atom ";" (first buffer))

/-- Writes every node as JavaScript. -/
def javaScript : Algebra Id Writer where
  root body := Writer.separated "\n" body
  define name parameters body :=
    let header := Writer.atom
      ("function " ++ name ++ "(" ++ Bytes.join ", " parameters ++ ") ")
    match body with
    | [] => Writer.all [header, Writer.atom "\x7b \x7d"]
    | statements =>
        Writer.all [header, Writer.atom "\x7b ",
          statementWriter statements, Writer.atom " \x7d"]
  call name arguments :=
    Writer.all [Writer.atom name, Writer.atom "(",
      Writer.separated ", " arguments, Writer.atom ")"]
  integer value := Writer.atom (Decimal.ofInt value)
  reference name := Writer.atom name

/-- The JavaScript text of a tree. -/
def generate (node : Node) : Except MissingNode Bytes :=
  (fold javaScript node).map Writer.text

end Node

end Defun
