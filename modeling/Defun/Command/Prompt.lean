import Defun.Command.History
import Defun.Session

/-!
# The prompt

At the prompt each line is answered as soon as it is entered.  Complete texts go
into the history.
-/

namespace Defun

structure Prompt where
  session : Session
  history : List Bytes
deriving DecidableEq, Repr

namespace Prompt

def start (history : List Bytes) : Prompt := ⟨Session.fresh, history⟩

/-- The sign that asks for a line: another one if lines are waiting for more. -/
def sign (prompt : Prompt) : Bytes :=
  if prompt.session.continuing then "| " else "> "

/-- What a line brings forth. -/
structure Reply where
  records : List Log.Record
  output : Bytes
  complaint : Bytes
deriving DecidableEq, Repr

/-- How an error is told. -/
def complaint (message : Bytes) : Bytes :=
  "Error: " ++ message ++ [Bytes.newline]

def enter (keeper : History.Keeper) (kinds : List Kind) (prompt : Prompt)
    (line : Bytes) : Prompt × Reply :=
  let (session, answer) := prompt.session.feed kinds line
  let records := Transpiler.records kinds answer.source
  match answer.result with
  | none => ({ prompt with session }, ⟨records, [], []⟩)
  | some result =>
      let next : Prompt := ⟨session, keeper.add prompt.history answer.source⟩
      match result with
      | .error error => (next, ⟨records, [], complaint error.message⟩)
      | .ok output =>
          let shown := if output.isEmpty then [] else output ++ [Bytes.newline]
          (next, ⟨records, shown, []⟩)

end Prompt

end Defun
