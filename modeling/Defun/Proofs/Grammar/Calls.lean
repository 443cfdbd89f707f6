import Defun.Proofs.Grammar.Agreement

/-!
# Calls of one parser

A parser may be called again behind what it consumed, whether or not the calls
before succeeded.  Its tokens stay the same and it only moves forward, so each
call is the reading of the tokens that are left.
-/

namespace Defun

namespace Entry

def rule : Entry → Rule Node
  | program => Rule.program
  | expression => Rule.onlyExpression

/-- A call of a parser has an outcome, and it is the reading of the tokens that
are left. -/
theorem exists_outcome (entry : Entry) (start : Parser) :
    ∃ result stop, entry.rule start = some (result, stop) ∧
      start.Reaches stop ∧ entry.read start.rest = ⟨result, stop.rest⟩ := by
  have agrees : Rule.Agrees start entry.start
      (fun tree stop => ⟨.ok tree, stop.rest⟩) (entry.rule start) := by
    cases entry with
    | program => exact Rule.agrees_program start
    | expression => exact Rule.agrees_onlyExpression start
  rw [read_eq_reading]
  generalize entry.rule start = outcome at agrees
  cases agrees with
  | success reaches reads => exact ⟨_, _, rfl, reaches, reads⟩
  | failure reaches reads => exact ⟨_, _, rfl, reaches, reads⟩

section Calls

variable {tokens : List Token}

theorem exists_run (entry : Entry) {before : Nat}
    (inside : before ≤ tokens.length) :
    ∃ after result, entry.rule ⟨tokens.toArray, before⟩ =
        some (result, ⟨tokens.toArray, after⟩) ∧
      before ≤ after ∧ after ≤ tokens.length ∧
      entry.read (tokens.drop before) = ⟨result, tokens.drop after⟩ := by
  obtain ⟨result, ⟨stopTokens, after⟩, ran, reaches, readEq⟩ :=
    entry.exists_outcome ⟨tokens.toArray, before⟩
  obtain ⟨rfl, forward, bounded⟩ := reaches
  exact ⟨after, result, ran, forward, by simpa using bounded inside, readEq⟩

theorem consumed_le_one (cause : SyntaxError) : cause.consumed ≤ 1 := by
  cases cause <;> simp [SyntaxError.consumed]

theorem exists_failsAt_consumed {entry : Entry} {located : Located SyntaxError}
    {consumed : Nat} (inside : consumed ≤ tokens.length)
    (readEq : entry.read tokens = ⟨.error located, tokens.drop consumed⟩) :
    ∃ index, entry.FailsAt tokens index located ∧
      consumed = index + located.cause.consumed := by
  have failed : (entry.read tokens).result = .error located := by
    rw [readEq]
  have stopped := failed
  rw [read_eq_reading] at stopped
  obtain ⟨index, last, stops⟩ := Progress.exists_stopsAt stopped
  refine ⟨index, failsAt_of_stopsAt failed stops, ?_⟩
  have stopInside : index + located.cause.consumed ≤ tokens.length := by
    rcases stops.refusal with ⟨atEnd, unfinished⟩ | ⟨token, found, -⟩
    · rw [State.finish_error unfinished, SyntaxError.consumed]
      omega
    · obtain ⟨below, -⟩ := List.getElem?_eq_some_iff.mp found
      have atMostOne := consumed_le_one located.cause
      omega
  have lengthEq := congrArg List.length stops.rest_eq
  rw [← read_eq_reading, readEq, List.length_drop, List.length_drop]
    at lengthEq
  omega

end Calls

end Entry

namespace Parser

/-- The parser behind some calls, of which any may have failed. -/
def after? (parser : Parser) : List Entry → Option Parser
  | [] => some parser
  | entry :: rest =>
      (entry.rule parser).bind fun outcome => outcome.2.after? rest

theorem exists_after? {tokens : List Token} {start : Nat}
    (inside : start ≤ tokens.length) (calls : List Entry) :
    ∃ before, (⟨tokens.toArray, start⟩ : Parser).after? calls =
        some ⟨tokens.toArray, before⟩ ∧ before ≤ tokens.length := by
  induction calls generalizing start with
  | nil => exact ⟨start, rfl, inside⟩
  | cons entry rest ih =>
      obtain ⟨middle, result, ran, -, middleInside, -⟩ :=
        entry.exists_run inside
      obtain ⟨before, ranRest, beforeInside⟩ := ih middleInside
      refine ⟨before, ?_, beforeInside⟩
      rw [after?, ran]
      exact ranRest

/-- Any calls of one parser, failed ones included, leave its tokens as they
are, and a call behind them has the outcome of the same call of a fresh parser
on the tokens that are left.  It asks for no token out of range and moves the
parser forward.  A failed call leaves the parser at the refused token, or
behind it if that is a numeral out of range. -/
theorem call_reads_rest_alone (tokens : List Token) (calls : List Entry)
    (call : Entry) :
    ∃ before after result,
      (ofTokens tokens).after? calls = some ⟨tokens.toArray, before⟩ ∧
      call.rule ⟨tokens.toArray, before⟩ =
        some (result, ⟨tokens.toArray, after⟩) ∧
      before ≤ after ∧ after ≤ tokens.length ∧
      call.rule (ofTokens (tokens.drop before)) =
        some (result, ⟨(tokens.drop before).toArray, after - before⟩) ∧
      call.read (tokens.drop before) = ⟨result, tokens.drop after⟩ ∧
      ∀ located, result = .error located →
        ∃ index, call.FailsAt (tokens.drop before) index located ∧
          match located.cause with
          | .unexpectedToken _ _ => after = before + index
          | .integerRange _ => after = before + index + 1
          | .unexpectedEnd _ => after = tokens.length := by
  obtain ⟨before, ranCalls, beforeInside⟩ :=
    exists_after? (Nat.zero_le tokens.length) calls
  obtain ⟨after, result, ran, forward, afterInside, readEq⟩ :=
    call.exists_run beforeInside
  refine ⟨before, after, result, ranCalls, ran, forward, afterInside, ?_,
    readEq, ?_⟩
  · -- The fresh parser reads the same tokens, so as many of them are left.
    obtain ⟨stop, fresh, ranFresh, -, stopInside, readFresh⟩ :=
      call.exists_run (Nat.zero_le (tokens.drop before).length)
    rw [List.drop_zero, readEq, Reading.mk.injEq] at readFresh
    obtain ⟨rfl, restEq⟩ := readFresh
    have lengthEq := congrArg List.length restEq
    rw [List.length_drop, List.length_drop, List.length_drop] at lengthEq
    rw [List.length_drop] at stopInside
    obtain rfl : stop = after - before := by omega
    exact ranFresh
  · rintro located rfl
    have consumedEq : tokens.drop after =
        (tokens.drop before).drop (after - before) := by
      rw [List.drop_drop, Nat.add_sub_cancel' forward]
    rw [consumedEq] at readEq
    have consumedInside : after - before ≤ (tokens.drop before).length := by
      rw [List.length_drop]
      omega
    obtain ⟨index, fails, stopEq⟩ :=
      Entry.exists_failsAt_consumed consumedInside readEq
    refine ⟨index, fails, ?_⟩
    obtain ⟨place, cause⟩ := located
    cases cause with
    | unexpectedToken expected actual =>
        rw [SyntaxError.consumed] at stopEq
        show after = before + index
        omega
    | integerRange lexeme =>
        rw [SyntaxError.consumed] at stopEq
        show after = before + index + 1
        omega
    | unexpectedEnd expected =>
        rw [SyntaxError.consumed] at stopEq
        rcases fails.place with ⟨-, atEnd, -⟩ | ⟨notEnd, -, -⟩
        · rw [List.length_drop] at atEnd
          show after = tokens.length
          omega
        · cases notEnd

end Parser

end Defun
