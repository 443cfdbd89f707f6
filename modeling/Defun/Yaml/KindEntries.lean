import Defun.Input
import Defun.Token.Registry
import Defun.Yaml.Decode

/-!
# Entries of registries in YAML

The entries of a registry are written as a list of records with a name and a
pattern each.
-/

namespace Defun

namespace KindEntry

def shape : Yaml.Shape :=
  .record "token.kindSpec" [("name", .text), ("pattern", .text)]

def ofValue (value : Yaml.Value) : KindEntry :=
  ⟨value.textField "name", value.textField "pattern"⟩

/-- The entries of the first document of an input, if there is one. -/
def readAll (input : Input) :
    Except Yaml.DecodeError (Option (List KindEntry)) :=
  match input.contents with
  | .error reason => .error (.unread reason)
  | .ok text =>
      (Yaml.decode (.list shape) text).map fun document =>
        document.map fun value => value.elements.map ofValue

end KindEntry

end Defun
