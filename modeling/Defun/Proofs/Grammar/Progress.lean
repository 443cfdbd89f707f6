import Defun.Grammar.Parse
import Defun.Proofs.Token.Terminal

/-!
# Progress through the grammar

The progress of a reading is the list of definitions behind it together with
its place in the grammar.  One token turns it into another progress or is
refused.  Reading a sequence of tokens repeats that step, so reading two
sequences one after the other is reading their concatenation, and the first
refusal settles the result whatever follows.
-/

namespace Defun

/-- How far a reading has come. -/
@[ext]
structure Progress where
  definitions : List Node
  state : State

namespace Progress

/-- In front of a program. -/
def program : Progress := ⟨[], .outside⟩

/-- In front of an expression that stands alone. -/
def expression : Progress := ⟨[], .expression⟩

/-- The progress behind a move. -/
def after (progress : Progress) : Move → Progress
  | .advance next => ⟨progress.definitions, next⟩
  | .close definition => ⟨progress.definitions ++ [definition], .outside⟩

/-- Reads one token. -/
def read (progress : Progress) (token : Token) :
    Except (Located SyntaxError) Progress :=
  (progress.state.step token).map progress.after

/-- Reads tokens one after the other. -/
def readAll (progress : Progress) :
    List Token → Except (Located SyntaxError) Progress
  | [] => .ok progress
  | token :: rest => (progress.read token).bind fun next => next.readAll rest

/-- The result of reading some tokens to the end of the input. -/
def result (progress : Progress) (tokens : List Token) :
    Except (Located SyntaxError) Node :=
  (progress.readAll tokens).bind fun last => last.state.finish last.definitions

theorem read_eq_ok_iff {progress next : Progress} {token : Token} :
    progress.read token = .ok next ↔
      ∃ move, progress.state.step token = .ok move ∧
        progress.after move = next := by
  rw [read]
  cases progress.state.step token <;> simp [Except.map]

@[simp]
theorem read_eq_error_iff {progress : Progress} {token : Token}
    {located : Located SyntaxError} :
    progress.read token = .error located ↔
      progress.state.step token = .error located := by
  rw [read]
  cases progress.state.step token <;> simp [Except.map]

@[simp]
theorem result_nil (progress : Progress) :
    progress.result [] = progress.state.finish progress.definitions :=
  rfl

@[simp]
theorem result_cons (progress : Progress) (token : Token)
    (rest : List Token) :
    progress.result (token :: rest) =
      (progress.read token).bind fun next => next.result rest := by
  simp only [result, readAll]
  cases progress.read token <;> rfl

section Steps

variable {definitions : List Node} {state : State} {token : Token}

theorem result_cons_of_advance {next : State}
    (stepped : state.step token = .ok (.advance next)) (rest : List Token) :
    (⟨definitions, state⟩ : Progress).result (token :: rest) =
      (⟨definitions, next⟩ : Progress).result rest := by
  rw [result_cons, read, stepped]
  rfl

theorem result_cons_of_close {definition : Node}
    (stepped : state.step token = .ok (.close definition))
    (rest : List Token) :
    (⟨definitions, state⟩ : Progress).result (token :: rest) =
      (⟨definitions ++ [definition], .outside⟩ : Progress).result rest := by
  rw [result_cons, read, stepped]
  rfl

theorem result_cons_of_error {located : Located SyntaxError}
    (stepped : state.step token = .error located) (rest : List Token) :
    (⟨definitions, state⟩ : Progress).result (token :: rest) =
      .error located := by
  rw [result_cons, read, stepped]
  rfl

/-- Where the input may not end, an accepted sequence has a first token, and
what follows it is accepted behind that token. -/
theorem exists_step_of_result {tokens : List Token} {tree : Node}
    (accepted : (⟨definitions, state⟩ : Progress).result tokens = .ok tree)
    (unfinished : state.finish definitions ≠ .ok tree) :
    ∃ token rest move, tokens = token :: rest ∧
      state.step token = .ok move ∧
      ((⟨definitions, state⟩ : Progress).after move).result rest =
        .ok tree := by
  cases tokens with
  | nil => exact (unfinished accepted).elim
  | cons token rest =>
      rw [result_cons, read] at accepted
      cases stepped : state.step token with
      | error located =>
          rw [stepped] at accepted
          cases accepted
      | ok move =>
          rw [stepped] at accepted
          exact ⟨token, rest, move, rfl, stepped, accepted⟩

end Steps

theorem readAll_append (progress : Progress) (first second : List Token) :
    progress.readAll (first ++ second) =
      (progress.readAll first).bind fun next => next.readAll second := by
  induction first generalizing progress with
  | nil => rfl
  | cons token rest ih =>
      simp only [List.cons_append, readAll]
      cases progress.read token with
      | error located => rfl
      | ok next => exact ih next

/-- Behind tokens that were read, the result is that of the rest. -/
theorem result_append_of_readAll {progress next : Progress}
    {first : List Token} (readFirst : progress.readAll first = .ok next)
    (second : List Token) :
    progress.result (first ++ second) = next.result second := by
  rw [result, readAll_append, readFirst]
  rfl

/-- A refusal is final. -/
theorem result_append_of_refused {progress : Progress}
    {located : Located SyntaxError} {first : List Token}
    (refused : progress.readAll first = .error located)
    (second : List Token) :
    progress.result (first ++ second) = .error located := by
  rw [result, readAll_append, refused]
  rfl

/-- A refusal comes from one token behind tokens that were read. -/
theorem exists_refused_token {progress : Progress}
    {located : Located SyntaxError} {tokens : List Token}
    (refused : progress.readAll tokens = .error located) :
    ∃ before token rest last, tokens = before ++ token :: rest ∧
      progress.readAll before = .ok last ∧
      last.state.step token = .error located := by
  induction tokens generalizing progress with
  | nil => cases refused
  | cons token rest ih =>
      rw [readAll, read] at refused
      cases stepped : progress.state.step token with
      | error found =>
          rw [stepped] at refused
          cases refused
          exact ⟨[], token, rest, progress, rfl, rfl, stepped⟩
      | ok move =>
          rw [stepped] at refused
          obtain ⟨before, later, others, last, split, readBefore, refusedLater⟩ :=
            ih refused
          refine ⟨token :: before, later, others, last, ?_, ?_, refusedLater⟩
          · rw [split, List.cons_append]
          · rw [readAll, read, stepped]
            exact readBefore

theorem resume_result (definitions : List Node) (state : State)
    (tokens : List Token) :
    (Reading.resume definitions state tokens).result =
      (⟨definitions, state⟩ : Progress).result tokens := by
  induction tokens generalizing definitions state with
  | nil => rfl
  | cons token rest ih =>
      rw [result_cons, Reading.resume, read]
      cases stepped : state.step token with
      | error located =>
          cases located with
          | mk token cause => cases cause <;> rfl
      | ok move =>
          cases move with
          | advance next => exact ih definitions next
          | close definition => exact ih (definitions ++ [definition]) .outside

end Progress

theorem parse_eq_result (tokens : List Token) :
    parse tokens = Progress.program.result tokens :=
  Progress.resume_result [] .outside tokens

theorem parseExpression_eq_result (tokens : List Token) :
    parseExpression tokens = Progress.expression.result tokens :=
  Progress.resume_result [] .expression tokens

end Defun
