import Mathlib.Data.List.DropRight
import Mathlib.Data.List.Infix
import Defun.Proofs.Session

/-!
# The lines that a session keeps

What a session keeps can be told from the lines that were fed to it and from
the answers to them: it keeps the lines behind the last answer that was done,
and every answer is about those lines and its own.  So no line is lost, none is
read twice, and none is carried over into a later text.

The statements hold for every registry.  A run is followed from its end, since
one more line changes only what stands behind the last answer that was done.
-/

namespace Defun

namespace Answer

/-- Whether the session has come to a verdict. -/
def isDone (answer : Answer) : Bool :=
  answer.result.isSome

/-- The output of an answer, which is empty if there is none. -/
def output (answer : Answer) : Bytes :=
  answer.output?.getD []

end Answer

/-- A line that was fed, and the answer to it. -/
structure Exchange where
  line : Bytes
  answer : Answer

namespace Exchange

/-- The lines behind the last answer that was done. -/
def waiting (exchanges : List Exchange) : List Bytes :=
  (exchanges.rtakeWhile fun exchange => !exchange.answer.isDone).map line

/-- The lines that the last answer is about: those that waited before it, and
its own. -/
def lastGroup (exchanges : List Exchange) : List Bytes :=
  waiting exchanges.dropLast ++ (exchanges.getLast?.map line).toList

/-- Whether the last answer is done. -/
def endsDone (exchanges : List Exchange) : Bool :=
  exchanges.getLast?.any fun exchange => exchange.answer.isDone

/-- The lines of each answer that was done. -/
def doneGroups (exchanges : List Exchange) : List (List Bytes) :=
  (exchanges.inits.filter endsDone).map lastGroup

section Concat

variable (exchanges : List Exchange) (last : Exchange)

@[simp]
theorem waiting_concat_of_done (done : last.answer.isDone = true) :
    waiting (exchanges ++ [last]) = [] := by
  rw [waiting, List.rtakeWhile_concat_neg _ _ _ (by simp [done]), List.map_nil]

@[simp]
theorem waiting_concat_of_not_done (notDone : last.answer.isDone = false) :
    waiting (exchanges ++ [last]) = waiting exchanges ++ [last.line] := by
  rw [waiting, List.rtakeWhile_concat_pos _ _ _ (by simp [notDone]),
    List.map_append, List.map_singleton, waiting]

@[simp]
theorem lastGroup_concat :
    lastGroup (exchanges ++ [last]) = waiting exchanges ++ [last.line] := by
  simp [lastGroup]

@[simp]
theorem doneGroups_concat :
    doneGroups (exchanges ++ [last]) = doneGroups exchanges ++
      if last.answer.isDone then [waiting exchanges ++ [last.line]] else [] := by
  have inits : (exchanges ++ [last]).inits =
      exchanges.inits ++ [exchanges ++ [last]] := by
    simp [List.inits_append]
  have ends : endsDone (exchanges ++ [last]) = last.answer.isDone := by
    simp [endsDone]
  rw [doneGroups, inits, List.filter_append, List.map_append, ← doneGroups]
  cases done : last.answer.isDone with
  | true => simp [ends, done]
  | false => simp [ends, done]

end Concat

/-- The lines of the answers that were done, and then the lines that wait, are
all lines. -/
theorem flatten_doneGroups_append_waiting (exchanges : List Exchange) :
    (doneGroups exchanges).flatten ++ waiting exchanges =
      exchanges.map line := by
  induction exchanges using List.reverseRecOn with
  | nil => rfl
  | append_singleton exchanges last ih =>
      rw [doneGroups_concat, List.map_append, ← ih]
      cases done : last.answer.isDone with
      | true => simp [done]
      | false => simp [done]

end Exchange

namespace Session

variable (kinds : List Kind)

/-- The session behind some lines. -/
def after (lines : List Bytes) : Session :=
  (fresh.feedAll kinds lines).1

/-- Some lines with the answers of a session that starts with them. -/
def transcript (lines : List Bytes) : List Exchange :=
  lines.zipWith Exchange.mk (fresh.feedAll kinds lines).2

theorem feedAll_append (session : Session) (lines more : List Bytes) :
    session.feedAll kinds (lines ++ more) =
      (((session.feedAll kinds lines).1.feedAll kinds more).1,
        (session.feedAll kinds lines).2 ++
          ((session.feedAll kinds lines).1.feedAll kinds more).2) := by
  induction lines generalizing session with
  | nil => rfl
  | cons line rest ih =>
      simp [ih]

@[simp]
theorem length_feedAll (session : Session) (lines : List Bytes) :
    (session.feedAll kinds lines).2.length = lines.length := by
  induction lines generalizing session with
  | nil => rfl
  | cons line rest ih => simp [ih]

@[simp]
theorem after_concat (lines : List Bytes) (line : Bytes) :
    after kinds (lines ++ [line]) = ((after kinds lines).feed kinds line).1 := by
  rw [after, feedAll_append]
  rfl

@[simp]
theorem transcript_concat (lines : List Bytes) (line : Bytes) :
    transcript kinds (lines ++ [line]) = transcript kinds lines ++
      [⟨line, ((after kinds lines).feed kinds line).2⟩] := by
  rw [transcript, feedAll_append,
    List.zipWith_append (length_feedAll kinds fresh lines).symm]
  rfl

@[simp]
theorem map_line_transcript (lines : List Bytes) :
    (transcript kinds lines).map Exchange.line = lines := by
  induction lines using List.reverseRecOn with
  | nil => rfl
  | append_singleton lines line ih =>
      simp [ih]

/-- What a session does with a line: it keeps it with the others exactly if
their text ends too early, and otherwise it keeps nothing and answers what
became of the text. -/
theorem feed_cases (session : Session) (line : Bytes) :
    let source := Bytes.unlines (session.pending ++ [line])
    (∃ error, transpile kinds source = .error error ∧
        error.isUnexpectedEnd = true ∧
        session.feed kinds line =
          (⟨session.pending ++ [line]⟩, ⟨source, none⟩)) ∨
      ((∀ error, transpile kinds source = .error error →
          error.isUnexpectedEnd = false) ∧
        session.feed kinds line =
          (fresh, ⟨source, some (transpile kinds source)⟩)) := by
  intro source
  cases transpiled : transpile kinds source with
  | ok output =>
      right
      refine ⟨?_, feed_of_ok transpiled⟩
      intro error impossible
      cases impossible
  | error error =>
      cases early : error.isUnexpectedEnd with
      | true =>
          left
          exact ⟨error, rfl, early, feed_of_unexpectedEnd transpiled early⟩
      | false =>
          right
          refine ⟨?_, feed_of_error transpiled early⟩
          intro other sameError
          cases sameError
          exact early

theorem pending_after (lines : List Bytes) :
    (after kinds lines).pending = Exchange.waiting (transcript kinds lines) := by
  induction lines using List.reverseRecOn with
  | nil => rfl
  | append_singleton lines line ih =>
      rw [after_concat, transcript_concat]
      rcases feed_cases kinds (after kinds lines) line with
        ⟨error, _, _, fed⟩ | ⟨_, fed⟩
      · rw [Exchange.waiting_concat_of_not_done _ _ (by rw [fed]; rfl), fed, ih]
      · rw [Exchange.waiting_concat_of_done _ _ (by rw [fed]; rfl), fed]
        rfl

/-- What a session that was fed some lines answers to one more, and what it
keeps then, told from the lines and the answers before it. -/
structure FeedAccount (lines : List Bytes) (line : Bytes) (next : Session)
    (answer : Answer) : Prop where
  /-- The line is fed behind all others. -/
  after_eq : after kinds (lines ++ [line]) = next
  transcript_eq : transcript kinds (lines ++ [line]) =
    transcript kinds lines ++ [⟨line, answer⟩]
  /-- Lines wait exactly if the answer is not done. -/
  continuing_iff : next.continuing = true ↔ answer.isDone = false
  /-- The answer is about the lines since the last one that was done. -/
  source_eq : answer.source = Bytes.unlines
    (Exchange.waiting (transcript kinds lines) ++ [line])
  /-- Those lines are what waits, unless the answer is done. -/
  pending_eq : next.pending =
    Exchange.waiting (transcript kinds (lines ++ [line]))
  /-- The text of the lines that wait ends too early. -/
  waits_early : next.pending ≠ [] → ∃ error,
    transpile kinds (Bytes.unlines next.pending) = .error error ∧
      error.isUnexpectedEnd = true
  /-- The lines of the answers that were done, and then those that wait, are
  all lines. -/
  lines_eq : (Exchange.doneGroups (transcript kinds (lines ++ [line]))).flatten ++
    next.pending = lines ++ [line]
  /-- An answer that is done says what became of those lines. -/
  verdict : answer.isDone = true →
    answer.result = some (transpile kinds answer.source) ∧
      ∀ error, transpile kinds answer.source = .error error →
        error.isUnexpectedEnd = false
  /-- An answer that is not done says nothing. -/
  silent : answer.isDone = false → answer.output = [] ∧ answer.error? = none
  /-- Other lines before those that wait would change nothing. -/
  depends_only : ∀ others : List Bytes,
    Exchange.waiting (transcript kinds others) =
      Exchange.waiting (transcript kinds lines) →
    (after kinds others).feed kinds line = (next, answer)

/-- A session accounts for every line that it is fed. -/
theorem feed_accounts_for_lines (lines : List Bytes) (line : Bytes) :
    FeedAccount kinds lines line ((after kinds lines).feed kinds line).1
      ((after kinds lines).feed kinds line).2 where
  after_eq := after_concat kinds lines line
  transcript_eq := transcript_concat kinds lines line
  continuing_iff := by
    rcases feed_cases kinds (after kinds lines) line with
      ⟨error, _, _, fed⟩ | ⟨_, fed⟩
    · simp [fed, continuing, Answer.isDone]
    · simp [fed, continuing, fresh, Answer.isDone]
  source_eq := by
    rw [← pending_after]
    rcases feed_cases kinds (after kinds lines) line with
      ⟨error, _, _, fed⟩ | ⟨_, fed⟩ <;> rw [fed]
  pending_eq := by rw [← after_concat, pending_after]
  waits_early waits := by
    rcases feed_cases kinds (after kinds lines) line with
      ⟨error, failed, early, fed⟩ | ⟨_, fed⟩
    · rw [fed]
      exact ⟨error, failed, early⟩
    · rw [fed] at waits
      exact absurd rfl waits
  lines_eq := by
    rw [← after_concat, pending_after,
      Exchange.flatten_doneGroups_append_waiting, map_line_transcript]
  verdict done := by
    rcases feed_cases kinds (after kinds lines) line with
      ⟨error, _, _, fed⟩ | ⟨notEarly, fed⟩
    · rw [fed] at done
      cases done
    · rw [fed]
      exact ⟨rfl, notEarly⟩
  silent notDone := by
    have noResult : ((after kinds lines).feed kinds line).2.result = none := by
      simpa [Answer.isDone] using notDone
    simp [Answer.output, Answer.output?, Answer.error?, noResult]
  depends_only others sameWaiting := by
    have sameSession : after kinds others = after kinds lines := by
      rw [← pending_after, ← pending_after] at sameWaiting
      exact congrArg Session.mk sameWaiting
    rw [sameSession]

end Session

end Defun
