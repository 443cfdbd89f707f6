import Defun.Tree.Writer

/-!
# Trees as S-expressions

Every node is written as a parenthesised list that begins with its tag, as in
`(def f (x) (call g (var x)))`.  Logs and tests show trees in this form.
-/

namespace Defun

namespace Node

/-- A parenthesised list: the tag, then every element behind a space. -/
def listWriter (tag : Bytes) (elements : List Writer) : Writer :=
  Writer.all
    (Writer.atom "(" :: Writer.atom tag ::
      (elements.flatMap fun element => [Writer.atom " ", element]) ++
      [Writer.atom ")"])

/-- Writes every node as a list. -/
def sexpressions : Algebra Id Writer where
  root body := listWriter "root" body
  define name parameters body :=
    listWriter "def" (Writer.atom name ::
      Writer.atom ("(" ++ Bytes.join " " parameters ++ ")") :: body)
  call name arguments := listWriter "call" (Writer.atom name :: arguments)
  integer value := listWriter "int" [Writer.atom (Decimal.ofInt value)]
  reference name := listWriter "var" [Writer.atom name]

/-- The S-expression of a tree. -/
def sexpression (node : Node) : Except MissingNode Bytes :=
  (fold sexpressions node).map Writer.text

end Node

end Defun
