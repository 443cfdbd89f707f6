import Defun.Transpiler

/-!
# Sessions at a prompt

A session collects lines until they form complete definitions.  Lines that
stop before a definition is complete are kept and joined with those that
follow.
-/

namespace Defun

/-- The lines that wait for more. -/
structure Session where
  pending : List Bytes
deriving DecidableEq, Repr

/-- The answer to a line: the text of all lines since the last complete one,
and what became of it unless it waits for more. -/
structure Answer where
  source : Bytes
  result : Option (Except TranspileError Bytes)

namespace Session

def fresh : Session := ⟨[]⟩

/-- Whether lines wait for more. -/
def continuing (session : Session) : Bool :=
  !session.pending.isEmpty

/-- Adds a line.  The lines are kept exactly if their text ends too early. -/
def feed (kinds : List Kind) (session : Session) (line : Bytes) :
    Session × Answer :=
  let lines := session.pending ++ [line]
  let source := Bytes.unlines lines
  match transpile kinds source with
  | .ok output => (fresh, ⟨source, some (.ok output)⟩)
  | .error error =>
      if error.isUnexpectedEnd then (⟨lines⟩, ⟨source, none⟩)
      else (fresh, ⟨source, some (.error error)⟩)

def feedAll (kinds : List Kind) (session : Session) :
    List Bytes → Session × List Answer
  | [] => (session, [])
  | line :: rest =>
      let (next, answer) := session.feed kinds line
      let (last, answers) := next.feedAll kinds rest
      (last, answer :: answers)

end Session

end Defun
