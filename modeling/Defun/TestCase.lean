import Defun.Yaml.Decode

/-!
# Recorded test cases

A file of test cases lists inputs with the outputs that are expected of them,
by name.  Cases that are not enabled are passed over.
-/

namespace Defun

/-- An input and the outputs expected of it. -/
structure TestCase where
  label : Bytes
  isEnabled : Bool
  input : Bytes
  expected : List (Bytes × Bytes)
deriving DecidableEq, Repr

namespace TestCase

def shape : Yaml.Shape :=
  .record "utils.TestData"
    [("label", .text), ("enable", .flag), ("input", .text),
     ("expected", .texts)]

def ofValue (value : Yaml.Value) : TestCase where
  label := value.textField "label"
  isEnabled :=
    match value.field? "enable" with
    | some (.flag isEnabled) => isEnabled
    | _ => false
  input := value.textField "input"
  expected :=
    match value.field? "expected" with
    | some (.texts entries) => entries
    | _ => []

def readEnabled (text : Bytes) : Except Yaml.DecodeError (List TestCase) :=
  (Yaml.decode (.list shape) text).map fun document =>
    ((document.elim [] Yaml.Value.elements).map ofValue).filter (·.isEnabled)

end TestCase

end Defun
