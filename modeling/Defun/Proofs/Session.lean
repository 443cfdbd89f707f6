import Defun.Proofs.Transpiler
import Defun.Session

/-!
# Sessions and whole texts

A session that is fed the lines of a text and the transpiler that is given the
whole text come to the same verdict.  The induction follows the lines: what is
left of them, behind those that wait, is compared with the text from the first
waiting line on.
-/

namespace Defun

namespace Answer

/-- The output of a complete chunk of lines. -/
def output? (answer : Answer) : Option Bytes :=
  answer.result.bind Except.toOption

/-- The error of a chunk of lines. -/
def error? (answer : Answer) : Option TranspileError :=
  answer.result.bind fun
    | .ok _ => none
    | .error error => some error

end Answer

/-- The text in front of the chunk that follows some answers. -/
def precedingText (answers : List Answer) : Bytes :=
  (answers.filter fun answer => answer.result.isSome).flatMap fun answer =>
    answer.source ++ [Bytes.newline]

/-- What the answers of a session say about the text of all its lines. -/
structure AgreesWithText (text : Bytes) (last : Session)
    (answers : List Answer) : Prop where
  /-- The text has an output exactly if no answer is an error and no line
  waits; the output is then that of the chunks. -/
  ok_iff : ∀ output, transpile Registry.default text = .ok output ↔
    (∀ answer ∈ answers, answer.error? = none) ∧
      last.continuing = false ∧
      output = Bytes.stacked (answers.filterMap Answer.output?)
  /-- The text ends too early exactly if no answer is an error and lines
  wait. -/
  unexpectedEnd_iff :
    (∃ error, transpile Registry.default text = .error error ∧
      error.isUnexpectedEnd = true) ↔
    (∀ answer ∈ answers, answer.error? = none) ∧ last.continuing = true
  /-- Otherwise the text has the first error among the answers, at its place
  in the text. -/
  error_eq : ∀ before answer after error,
    answers = before ++ answer :: after →
    (∀ earlier ∈ before, earlier.error? = none) →
    answer.error? = some error →
    ∃ located, error = .syntactic located ∧
      transpile Registry.default text = .error (.syntactic
        ⟨located.token.moved (precedingText before).length
          ((precedingText before).count Bytes.newline), located.cause⟩) ∧
      precedingText before ++ answer.source <+: text

theorem precedingText_cons_of_none {answer : Answer}
    (waits : answer.result = none) (rest : List Answer) :
    precedingText (answer :: rest) = precedingText rest := by
  simp [precedingText, waits]

theorem precedingText_cons_of_some {answer : Answer}
    (done : answer.result.isSome = true) (rest : List Answer) :
    precedingText (answer :: rest) =
      answer.source ++ Bytes.newline :: precedingText rest := by
  simp [precedingText, done]

@[simp]
theorem Token.moved_zero (token : Token) : token.moved 0 0 = token := by
  simp [Token.moved, Token.relocated, Position.moved]

theorem Token.moved_moved (token : Token)
    (octets lines moreOctets moreLines : Nat) :
    (token.moved octets lines).moved moreOctets moreLines =
      token.moved (moreOctets + octets) (moreLines + lines) := by
  simp only [Token.moved, Token.relocated, Position.moved, Token.mk.injEq,
    Position.mk.injEq, true_and, and_true]
  omega

@[simp]
theorem TranspileError.isUnexpectedEnd_moved (octets lines : Nat)
    (error : TranspileError) :
    (error.moved octets lines).isUnexpectedEnd = error.isUnexpectedEnd := by
  cases error with
  | incomplete error => rfl
  | syntactic located =>
      rw [moved, Located.relocated]
      split <;> rfl

namespace AgreesWithText

/-- No line was fed. -/
theorem nil : AgreesWithText [] Session.fresh [] where
  ok_iff output := by
    have transpiled : transpile Registry.default [] = .ok [] := rfl
    rw [transpiled]
    simp [Session.continuing, Session.fresh, Bytes.stacked, Bytes.unlines,
      Bytes.join, eq_comm]
  unexpectedEnd_iff := by
    have transpiled : transpile Registry.default [] = .ok [] := rfl
    rw [transpiled]
    simp [Session.continuing, Session.fresh]
  error_eq before answer after error split := by simp at split

/-- All lines wait. -/
theorem waiting {text : Bytes} {last : Session} {error : TranspileError}
    (failed : transpile Registry.default text = .error error)
    (early : error.isUnexpectedEnd = true)
    (waits : last.continuing = true) : AgreesWithText text last [] where
  ok_iff output := by simp [failed, waits]
  unexpectedEnd_iff := by simp [failed, early, waits]
  error_eq before answer after error split := by simp at split

/-- An answer that waits for more says nothing. -/
theorem cons_of_none {text : Bytes} {last : Session} {answers : List Answer}
    (agrees : AgreesWithText text last answers) {answer : Answer}
    (waits : answer.result = none) :
    AgreesWithText text last (answer :: answers) where
  ok_iff output := by
    rw [agrees.ok_iff]
    simp [Answer.output?, Answer.error?, waits]
  unexpectedEnd_iff := by
    rw [agrees.unexpectedEnd_iff]
    simp [Answer.error?, waits]
  error_eq before found after error split earlier isError := by
    cases before with
    | nil =>
        cases split
        simp [Answer.error?, waits] at isError
    | cons first before =>
        cases split
        rw [precedingText_cons_of_none waits]
        exact agrees.error_eq before found after error rfl
          (fun answer member => earlier answer (List.mem_cons_of_mem _ member))
          isError

/-- An error settles the verdict on the whole text. -/
theorem cons_of_error {text : Bytes} {last : Session}
    {answers : List Answer} {answer : Answer} {error : TranspileError}
    (failed : transpile Registry.default text = .error error)
    (notEarly : error.isUnexpectedEnd = false)
    (resultEq : answer.result = some (.error error))
    (begins : answer.source <+: text) :
    AgreesWithText text last (answer :: answers) := by
  have isError : answer.error? = some error := by
    simp [Answer.error?, resultEq]
  refine ⟨?_, ?_, ?_⟩
  · simp [failed, isError]
  · simp [failed, isError, notEarly]
  · intro before found after foundError split earlier foundEq
    cases before with
    | nil =>
        cases split
        rw [isError] at foundEq
        cases foundEq
        obtain ⟨located, rfl, _⟩ := exists_located_of_transpile failed
        refine ⟨located, rfl, ?_, begins⟩
        rw [failed]
        exact congrArg (fun token => Except.error (TranspileError.syntactic
          ⟨token, located.cause⟩)) (Token.moved_zero located.token).symm
    | cons first before =>
        cases split
        have noError := earlier answer List.mem_cons_self
        rw [isError] at noError
        cases noError

/-- The last line completes the text. -/
theorem singleton_of_ok {text output : Bytes}
    (transpiled : transpile Registry.default text = .ok output) :
    AgreesWithText text Session.fresh [⟨text, some (.ok output)⟩] where
  ok_iff other := by
    have outputs : [(⟨text, some (.ok output)⟩ : Answer)].filterMap
        Answer.output? = [output] := rfl
    rw [transpiled, outputs, Bytes.stacked_singleton]
    simp [Answer.error?, Session.continuing, Session.fresh, eq_comm]
  unexpectedEnd_iff := by
    simp [transpiled, Session.continuing, Session.fresh]
  error_eq before answer after error split earlier isError := by
    cases before with
    | nil =>
        cases split
        cases isError
    | cons first before => simp at split

section Chunk

variable {first others output : Bytes} {last : Session}
  {answers : List Answer}
  (transpiled : transpile Registry.default first = .ok output)
  (agrees : AgreesWithText others last answers)
include transpiled agrees

theorem ok_iff_of_chunk (whole : Bytes) :
    transpile Registry.default (first ++ Bytes.newline :: others) =
        .ok whole ↔
      (∀ answer ∈ answers, answer.error? = none) ∧
        last.continuing = false ∧
        whole = Bytes.stacked (output ::
          answers.filterMap Answer.output?) := by
  have joined : Bytes.stacked (output :: answers.filterMap Answer.output?) =
      Bytes.stacked [output,
        Bytes.stacked (answers.filterMap Answer.output?)] := by
    rw [← List.singleton_append, Bytes.stacked_append,
      Bytes.stacked_singleton]
  rw [transpile_append_of_ok transpiled, joined]
  cases restEq : transpile Registry.default others with
  | ok after =>
      obtain ⟨noErrors, complete, rfl⟩ := (agrees.ok_iff after).mp restEq
      simp only [Except.ok.injEq, complete, true_and]
      exact ⟨fun wholeEq => ⟨noErrors, wholeEq.symm⟩,
        fun right => right.2.symm⟩
  | error error =>
      constructor
      · intro impossible
        cases impossible
      · rintro ⟨noErrors, complete, _⟩
        have restOk := (agrees.ok_iff _).mpr ⟨noErrors, complete, rfl⟩
        rw [restEq] at restOk
        cases restOk

theorem unexpectedEnd_iff_of_chunk :
    (∃ error, transpile Registry.default (first ++ Bytes.newline :: others) =
        .error error ∧ error.isUnexpectedEnd = true) ↔
      (∀ answer ∈ answers, answer.error? = none) ∧
        last.continuing = true := by
  rw [transpile_append_of_ok transpiled, ← agrees.unexpectedEnd_iff]
  cases transpile Registry.default others with
  | ok after => simp
  | error error =>
      simp

theorem error_eq_of_chunk {before after : List Answer} {answer : Answer}
    {error : TranspileError} (split : answers = before ++ answer :: after)
    (earlier : ∀ other ∈ before, other.error? = none)
    (isError : answer.error? = some error) :
    ∃ located, error = .syntactic located ∧
      transpile Registry.default (first ++ Bytes.newline :: others) =
        .error (.syntactic
          ⟨located.token.moved
              (first ++ Bytes.newline :: precedingText before).length
              ((first ++ Bytes.newline :: precedingText before).count
                Bytes.newline),
            located.cause⟩) ∧
      first ++ Bytes.newline :: precedingText before ++ answer.source <+:
        first ++ Bytes.newline :: others := by
  obtain ⟨located, rfl, restEq, begins⟩ :=
    agrees.error_eq before answer after error split earlier isError
  -- An early end of the rest would mean that none of its answers is an error.
  have notEarly : located.cause.isUnexpectedEnd = false := by
    rw [Bool.eq_false_iff]
    intro early
    have noErrors := (agrees.unexpectedEnd_iff.mp ⟨_, restEq, early⟩).1
    have noError := noErrors answer (by rw [split]; simp)
    rw [isError] at noError
    cases noError
  have octetsEq :
      (first ++ Bytes.newline :: precedingText before).length =
        first.length + 1 + (precedingText before).length := by
    rw [List.length_append, List.length_cons]
    omega
  have linesEq : (first ++ Bytes.newline :: precedingText before).count
      Bytes.newline = first.count Bytes.newline + 1 +
        (precedingText before).count Bytes.newline := by
    rw [List.count_append, List.count_cons_self]
    omega
  refine ⟨located, rfl, ?_, ?_⟩
  · rw [transpile_append_of_ok transpiled, restEq, octetsEq, linesEq,
      ← Token.moved_moved]
    simp only [TranspileError.moved, Located.relocated, notEarly,
      Bool.false_eq_true, if_false]
    rfl
  · rw [List.append_assoc, List.cons_append]
    exact (List.prefix_append_right_inj first).mpr
      (List.cons_prefix_cons.mpr ⟨rfl, begins⟩)

/-- Behind a complete chunk of lines, the others are judged as if they stood
alone. -/
theorem cons_of_ok :
    AgreesWithText (first ++ Bytes.newline :: others) last
      (⟨first, some (.ok output)⟩ :: answers) where
  ok_iff whole := by
    rw [ok_iff_of_chunk transpiled agrees]
    simp [Answer.error?, Answer.output?, Except.toOption]
  unexpectedEnd_iff := by
    rw [unexpectedEnd_iff_of_chunk transpiled agrees]
    simp [Answer.error?]
  error_eq before answer after error split earlier isError := by
    cases before with
    | nil =>
        cases split
        cases isError
    | cons chunk before =>
        cases split
        rw [precedingText_cons_of_some rfl]
        exact error_eq_of_chunk transpiled agrees rfl
          (fun answer member => earlier answer (List.mem_cons_of_mem _ member))
          isError

end Chunk

end AgreesWithText

namespace Session

/-- The lines that wait in a session end too early. -/
def Waits (session : Session) : Prop :=
  session.pending = [] ∨
    ∃ error, transpile Registry.default (Bytes.unlines session.pending) =
      .error error ∧ error.isUnexpectedEnd = true

@[simp]
theorem feedAll_cons (kinds : List Kind) (session : Session) (line : Bytes)
    (rest : List Bytes) :
    session.feedAll kinds (line :: rest) =
      (((session.feed kinds line).1.feedAll kinds rest).1,
        (session.feed kinds line).2 ::
          ((session.feed kinds line).1.feedAll kinds rest).2) :=
  rfl

section Feed

variable {kinds : List Kind} {session : Session} {line : Bytes}

theorem feed_of_ok {output : Bytes}
    (transpiled : transpile kinds
      (Bytes.unlines (session.pending ++ [line])) = .ok output) :
    session.feed kinds line =
      (fresh, ⟨Bytes.unlines (session.pending ++ [line]),
        some (.ok output)⟩) := by
  simp [feed, transpiled]

theorem feed_of_unexpectedEnd {error : TranspileError}
    (failed : transpile kinds
      (Bytes.unlines (session.pending ++ [line])) = .error error)
    (early : error.isUnexpectedEnd = true) :
    session.feed kinds line = (⟨session.pending ++ [line]⟩,
      ⟨Bytes.unlines (session.pending ++ [line]), none⟩) := by
  simp [feed, failed, early]

theorem feed_of_error {error : TranspileError}
    (failed : transpile kinds
      (Bytes.unlines (session.pending ++ [line])) = .error error)
    (notEarly : error.isUnexpectedEnd = false) :
    session.feed kinds line =
      (fresh, ⟨Bytes.unlines (session.pending ++ [line]),
        some (.error error)⟩) := by
  simp [feed, failed, notEarly]

end Feed

/-- The lines behind those that wait are judged like the text from the first
waiting line on. -/
theorem feedAll_agrees (lines : List Bytes) {session : Session}
    (waits : session.Waits) :
    AgreesWithText (Bytes.unlines (session.pending ++ lines))
      (session.feedAll Registry.default lines).1
      (session.feedAll Registry.default lines).2 := by
  induction lines generalizing session with
  | nil =>
      obtain ⟨pending⟩ := session
      rw [List.append_nil]
      cases pending with
      | nil => exact .nil
      | cons line others =>
          obtain ⟨error, failed, early⟩ :=
            waits.resolve_left (List.cons_ne_nil line others)
          exact .waiting failed early rfl
  | cons line rest ih =>
      have chunkNe : session.pending ++ [line] ≠ [] := by simp
      rw [feedAll_cons, ← List.singleton_append, ← List.append_assoc]
      cases transpiled : transpile Registry.default
          (Bytes.unlines (session.pending ++ [line])) with
      | ok output =>
          rw [feed_of_ok transpiled]
          -- The session starts afresh, and so does the text behind the chunk.
          cases rest with
          | nil =>
              rw [List.append_nil]
              exact .singleton_of_ok transpiled
          | cons next others =>
              rw [Bytes.unlines_append chunkNe (List.cons_ne_nil _ _)]
              exact .cons_of_ok transpiled (ih (Or.inl rfl))
      | error error =>
          cases early : error.isUnexpectedEnd with
          | true =>
              rw [feed_of_unexpectedEnd transpiled early]
              -- The line waits too, so the text to judge stays the same.
              exact .cons_of_none (ih (Or.inr ⟨error, transpiled, early⟩)) rfl
          | false =>
              rw [feed_of_error transpiled early]
              cases rest with
              | nil =>
                  rw [List.append_nil]
                  exact .cons_of_error transpiled early rfl
                    (List.prefix_refl _)
              | cons next others =>
                  rw [Bytes.unlines_append chunkNe (List.cons_ne_nil _ _)]
                  exact .cons_of_error
                    (transpile_append_of_error transpiled early _) early rfl
                    (List.prefix_append _ _)

/-- Feeding lines one by one and transpiling the whole text agree. -/
theorem feedAll_agrees_with_transpile (lines : List Bytes) :
    AgreesWithText (Bytes.unlines lines)
      (fresh.feedAll Registry.default lines).1
      (fresh.feedAll Registry.default lines).2 :=
  feedAll_agrees lines (Or.inl rfl)

end Session

end Defun
