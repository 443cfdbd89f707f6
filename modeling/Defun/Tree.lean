import Defun.Text.Decimal

/-!
# Syntax trees

A program is a tree of definitions, calls, integers and variables.  The
variants may be nested in any way, and a child may be missing.
-/

namespace Defun

/-- A syntax tree.  Only the trees of programs nest in the way that the
grammar describes; the operations on trees accept every nesting. -/
inductive Node where
  | root (body : List Node)
  | define (name : Bytes) (parameters : List Bytes) (body : List Node)
  | call (name : Bytes) (arguments : List Node)
  | integer (value : Int)
  | reference (name : Bytes)
  | missing

instance : Inhabited Node := ⟨.missing⟩

/-- An interpretation of trees: one method for each variant, applied to the
results for the children.  The methods may have effects in `m`. -/
structure Algebra (m : Type → Type) (α : Type) where
  root : (body : List α) → m α
  define : (name : Bytes) → (parameters : List Bytes) → (body : List α) → m α
  call : (name : Bytes) → (arguments : List α) → m α
  integer : (value : Int) → m α
  reference : (name : Bytes) → m α

/-- Raised where a tree has no node. -/
structure MissingNode where
deriving DecidableEq, Repr

def MissingNode.message : MissingNode → Bytes
  | ⟨⟩ => "unexpected node <nil>"

namespace Node

variable {m : Type → Type} [Monad m] {α : Type}

mutual

/-- Interprets a tree bottom-up, children from left to right and before their
parent.  A missing node stops the traversal; what the methods did before it
stays done. -/
def foldM (algebra : Algebra m α) : Node → ExceptT MissingNode m α
  | .root body => do algebra.root (← foldAllM algebra body)
  | .define name parameters body => do
      algebra.define name parameters (← foldAllM algebra body)
  | .call name arguments => do
      algebra.call name (← foldAllM algebra arguments)
  | .integer value => algebra.integer value
  | .reference name => algebra.reference name
  | .missing => throw ⟨⟩

def foldAllM (algebra : Algebra m α) : List Node → ExceptT MissingNode m (List α)
  | [] => pure []
  | node :: rest => do
      let first ← foldM algebra node
      let others ← foldAllM algebra rest
      pure (first :: others)

end

/-- Interprets a tree with methods that have no effects. -/
def fold (algebra : Algebra Id α) (node : Node) : Except MissingNode α :=
  foldM algebra node

/-- The interpretation that rebuilds the tree it is applied to. -/
def builder : Algebra Id Node where
  root body := Node.root body
  define name parameters body := Node.define name parameters body
  call name arguments := Node.call name arguments
  integer value := Node.integer value
  reference name := Node.reference name

/-- The interpretation that measures depth: one for an integer or a variable,
and one more than the deepest child for every other node. -/
def depths : Algebra Id Nat where
  root body := body.foldl max 0 + 1
  define _ _ body := body.foldl max 0 + 1
  call _ arguments := arguments.foldl max 0 + 1
  integer _ := (1 : Nat)
  reference _ := (1 : Nat)

/-- One call of a method of an algebra. -/
inductive Visit where
  | root
  | define (name : Bytes)
  | call (name : Bytes)
  | integer (value : Int)
  | reference (name : Bytes)
deriving DecidableEq, Repr

def Visit.text : Visit → Bytes
  | .root => "root"
  | .define name => "def " ++ name
  | .call name => "call " ++ name
  | .integer value => "int " ++ Decimal.ofInt value
  | .reference name => "var " ++ name

/-- The interpretation that records every visit in order and computes
nothing. -/
def visitor : Algebra (StateM (List Visit)) Unit where
  root _ := modify (· ++ [.root])
  define name _ _ := modify (· ++ [.define name])
  call name _ := modify (· ++ [.call name])
  integer value := modify (· ++ [.integer value])
  reference name := modify (· ++ [.reference name])

/-- The visits of a traversal, also of one that a missing node stopped. -/
def visits (node : Node) : List Visit :=
  ((foldM visitor node).run.run []).2

end Node

end Defun
