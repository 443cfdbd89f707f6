import Defun.Token.Registry

/-!
# Grammar files

A grammar file lists the kinds of a registry, each with a name and a pattern.
A file without a document lists none.
-/

namespace Defun

/-- Why a grammar file gives no registry: its decoder refuses it, or its entries
are not those of a registry. -/
inductive GrammarError (ε : Type) where
  | unreadable (error : ε)
  | invalid (error : RegistryError)
deriving DecidableEq, Repr

def GrammarError.message {ε : Type} (wording : ε → Bytes) :
    GrammarError ε → Bytes
  | unreadable error => "grammar: " ++ wording error
  | invalid error => error.message

/-- The registry of a grammar file.  The decoder gives the entries of its first
document, if there is one. -/
def Registry.load {σ ε : Type} (decode : σ → Except ε (Option (List KindEntry)))
    (file : σ) : Except (GrammarError ε) (List Kind) :=
  match decode file with
  | .error error => .error (.unreadable error)
  | .ok listed => (ofEntries (listed.getD [])).mapError .invalid

end Defun
