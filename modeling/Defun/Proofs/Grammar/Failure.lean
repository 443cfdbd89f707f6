import Defun.Proofs.Grammar.Places

/-!
# Where a reading fails

Tokens are read as a program or as an expression.  A reading that fails does so
at one index: the tokens in front of it were read, and the token there is
refused, or the input ends there too early.  What the reading leaves begins at
the refused token, or behind it if the token is a numeral out of range.
-/

namespace Defun

/-- The number of refused tokens that an error consumes. -/
def SyntaxError.consumed : SyntaxError → Nat
  | unexpectedToken _ _ => 0
  | unexpectedEnd _ => 0
  | integerRange _ => 1

namespace Progress

/-- Reads tokens to the end of the input or to the first refusal. -/
def reading (progress : Progress) (tokens : List Token) : Reading :=
  Reading.resume progress.definitions progress.state tokens

@[simp]
theorem reading_result (progress : Progress) (tokens : List Token) :
    (progress.reading tokens).result = progress.result tokens :=
  resume_result progress.definitions progress.state tokens

@[simp]
theorem reading_nil (progress : Progress) :
    progress.reading [] = ⟨progress.state.finish progress.definitions, []⟩ :=
  rfl

section Steps

variable {progress next : Progress} {token : Token}

theorem read_of_advance {definitions : List Node} {state next : State}
    (stepped : state.step token = .ok (.advance next)) :
    (⟨definitions, state⟩ : Progress).read token =
      .ok ⟨definitions, next⟩ :=
  read_eq_ok_iff.mpr ⟨_, stepped, rfl⟩

theorem read_of_close {definitions : List Node} {state : State}
    {definition : Node}
    (stepped : state.step token = .ok (.close definition)) :
    (⟨definitions, state⟩ : Progress).read token =
      .ok ⟨definitions ++ [definition], .outside⟩ :=
  read_eq_ok_iff.mpr ⟨_, stepped, rfl⟩

theorem reading_cons_of_read (readToken : progress.read token = .ok next)
    (rest : List Token) :
    progress.reading (token :: rest) = next.reading rest := by
  obtain ⟨move, stepped, rfl⟩ := read_eq_ok_iff.mp readToken
  rw [reading, Reading.resume, stepped]
  cases move <;> rfl

/-- Behind tokens that were read, a reading is that of the rest. -/
theorem reading_append_of_readAll {first : List Token}
    (readFirst : progress.readAll first = .ok next) (second : List Token) :
    progress.reading (first ++ second) = next.reading second := by
  induction first generalizing progress with
  | nil =>
      cases readFirst
      rfl
  | cons token rest ih =>
      rw [readAll] at readFirst
      cases readToken : progress.read token with
      | error located =>
          rw [readToken] at readFirst
          cases readFirst
      | ok middle =>
          rw [readToken] at readFirst
          rw [List.cons_append, reading_cons_of_read readToken]
          exact ih readFirst

theorem reading_cons_of_refused {located : Located SyntaxError}
    (refused : progress.state.step token = .error located)
    (rest : List Token) :
    progress.reading (token :: rest) =
      ⟨.error located, (token :: rest).drop located.cause.consumed⟩ := by
  rw [reading, Reading.resume, refused]
  obtain ⟨place, cause⟩ := located
  cases cause <;> rfl

end Steps

theorem reading_identifier (definitions : List Node) (name : Bytes)
    (around : Surroundings) {tokens : List Token}
    (notOpening : NotOpening tokens) :
    (⟨definitions, .identifier name around⟩ : Progress).reading tokens =
      (⟨definitions, .complete (.reference name) around⟩ : Progress).reading
        tokens := by
  cases tokens with
  | nil =>
      obtain ⟨header, calls⟩ := around
      cases header <;> cases calls <;> rfl
  | cons token rest =>
      rw [reading, reading, Reading.resume, Reading.resume,
        State.step_identifier_of_notOpening (notOpening token rfl)]

/-- A reading reaches `last` in front of an index, where it fails. -/
structure StopsAt (progress : Progress) (tokens : List Token) (index : Nat)
    (last : Progress) (located : Located SyntaxError) : Prop where
  readAll_eq : progress.readAll (tokens.take index) = .ok last
  refusal :
    (index = tokens.length ∧ last.result [] = .error located) ∨
      ∃ token, tokens[index]? = some token ∧
        last.state.step token = .error located
  rest_eq : (progress.reading tokens).rest =
    tokens.drop (index + located.cause.consumed)

theorem StopsAt.cons {progress next last : Progress} {token : Token}
    {rest : List Token} {index : Nat} {located : Located SyntaxError}
    (stops : next.StopsAt rest index last located)
    (readToken : progress.read token = .ok next) :
    progress.StopsAt (token :: rest) (index + 1) last located := by
  obtain ⟨readAllEq, refusal, restEq⟩ := stops
  refine ⟨?_, ?_, ?_⟩
  · rw [List.take_succ_cons, readAll, readToken]
    exact readAllEq
  · simpa using refusal
  · rw [reading_cons_of_read readToken, restEq, Nat.add_right_comm,
      List.drop_succ_cons]

/-- A reading that fails does so somewhere. -/
theorem exists_stopsAt {progress : Progress} {tokens : List Token}
    {located : Located SyntaxError}
    (failed : (progress.reading tokens).result = .error located) :
    ∃ index last, progress.StopsAt tokens index last located := by
  induction tokens generalizing progress with
  | nil =>
      refine ⟨0, progress, rfl, Or.inl ⟨rfl, failed⟩, ?_⟩
      rw [List.drop_nil]
      rfl
  | cons token rest ih =>
      cases readToken : progress.read token with
      | ok next =>
          rw [reading_cons_of_read readToken] at failed
          obtain ⟨index, last, stops⟩ := ih failed
          exact ⟨index + 1, last, stops.cons readToken⟩
      | error found =>
          have refused := read_eq_error_iff.mp readToken
          rw [reading_cons_of_refused refused] at failed
          cases failed
          refine ⟨0, progress, rfl, Or.inr ⟨token, rfl, refused⟩, ?_⟩
          rw [reading_cons_of_refused refused, Nat.zero_add]

end Progress

/-- What tokens are read as. -/
inductive Entry where
  | program
  | expression
deriving DecidableEq, Repr

namespace Entry

/-- Reads all tokens. -/
def read : Entry → List Token → Reading
  | program => Reading.program
  | expression => Reading.expression

/-- The place where a reading begins. -/
def start : Entry → Progress
  | program => Progress.program
  | expression => Progress.expression

theorem read_eq_reading (entry : Entry) (tokens : List Token) :
    entry.read tokens = entry.start.reading tokens := by
  cases entry <;> rfl

/-- None of the tokens is refused, although more may have to follow. -/
def Reads (entry : Entry) (tokens : List Token) : Prop :=
  ∀ located, (entry.read tokens).result = .error located →
    located.cause.isUnexpectedEnd = true

/-- A reading fails at an index: the tokens in front of it are read, and the
error is about the token there, which is refused, or about the end of the
input. -/
structure FailsAt (entry : Entry) (tokens : List Token) (index : Nat)
    (located : Located SyntaxError) : Prop where
  result_eq : (entry.read tokens).result = .error located
  reads : entry.Reads (tokens.take index)
  place :
    (located.cause.isUnexpectedEnd = true ∧ index = tokens.length ∧
        located.token = .absent) ∨
      (located.cause.isUnexpectedEnd = false ∧
        ¬ entry.Reads (tokens.take (index + 1)) ∧
        tokens[index]? = some located.token)

section Reads

variable {entry : Entry} {tokens : List Token}

@[simp]
theorem result_eq (entry : Entry) (tokens : List Token) :
    (entry.read tokens).result = entry.start.result tokens := by
  simp [read_eq_reading]

theorem reads_iff_readAll :
    entry.Reads tokens ↔ ∃ last, entry.start.readAll tokens = .ok last := by
  constructor
  · intro reads
    cases readTokens : entry.start.readAll tokens with
    | ok last => exact ⟨last, rfl⟩
    | error located =>
        have refused : (entry.read tokens).result = .error located := by
          rw [result_eq, Progress.result, readTokens]
          rfl
        obtain ⟨before, token, rest, last, -, -, stepped⟩ :=
          Progress.exists_refused_token readTokens
        have notEnd := (State.step_error_token stepped).2
        rw [reads located refused] at notEnd
        cases notEnd
  · rintro ⟨last, readTokens⟩ located failed
    rw [result_eq, Progress.result, readTokens] at failed
    rw [State.finish_error failed]
    rfl

theorem Reads.take {longer shorter : Nat}
    (reads : entry.Reads (tokens.take longer)) (shorterLe : shorter ≤ longer) :
    entry.Reads (tokens.take shorter) := by
  rw [reads_iff_readAll] at reads ⊢
  obtain ⟨last, readLonger⟩ := reads
  rw [← List.take_append_drop shorter (tokens.take longer),
    List.take_take, Nat.min_eq_left shorterLe,
    Progress.readAll_append] at readLonger
  cases readShorter : entry.start.readAll (tokens.take shorter) with
  | ok middle => exact ⟨middle, rfl⟩
  | error located =>
      rw [readShorter] at readLonger
      cases readLonger

end Reads

section Failures

variable {entry : Entry} {tokens : List Token} {index : Nat}
  {located : Located SyntaxError}

/-- A failed reading fails where it stops. -/
theorem failsAt_of_stopsAt {last : Progress}
    (failed : (entry.read tokens).result = .error located)
    (stops : entry.start.StopsAt tokens index last located) :
    entry.FailsAt tokens index located := by
  refine ⟨failed, reads_iff_readAll.mpr ⟨last, stops.readAll_eq⟩, ?_⟩
  rcases stops.refusal with ⟨atEnd, unfinished⟩ | ⟨token, found, refused⟩
  · rw [State.finish_error unfinished]
    exact Or.inl ⟨rfl, atEnd, rfl⟩
  · have notRead : ¬ entry.Reads (tokens.take (index + 1)) := by
      rw [reads_iff_readAll, List.take_add_one, found,
        Progress.readAll_append, stops.readAll_eq]
      rintro ⟨next, readToken⟩
      simp only [Option.toList_some, Except.bind, Progress.readAll,
        Progress.read, refused] at readToken
      cases readToken
    obtain ⟨tokenEq, notEnd⟩ := State.step_error_token refused
    rw [← tokenEq] at found
    exact Or.inr ⟨notEnd, notRead, found⟩

theorem exists_failsAt
    (failed : (entry.read tokens).result = .error located) :
    ∃ index, entry.FailsAt tokens index located := by
  have stopped := failed
  rw [read_eq_reading] at stopped
  obtain ⟨index, last, stops⟩ := Progress.exists_stopsAt stopped
  exact ⟨index, failsAt_of_stopsAt failed stops⟩

/-- Where a reading fails depends on which tokens it refuses only. -/
theorem FailsAt.index_eq {others : List Token} {other : Nat}
    {found : Located SyntaxError}
    (fails : entry.FailsAt tokens index located)
    (failsOther : entry.FailsAt others other found)
    (causeEq : located.cause = found.cause)
    (lengthEq : tokens.length = others.length)
    (readsIff : ∀ length, entry.Reads (tokens.take length) ↔
      entry.Reads (others.take length)) : other = index := by
  rcases fails.place with ⟨isEnd, atEnd, -⟩ | ⟨notEnd, refused, -⟩ <;>
    rcases failsOther.place with
      ⟨isEndOther, atEndOther, -⟩ | ⟨notEndOther, refusedOther, -⟩
  · rw [atEnd, atEndOther, lengthEq]
  · rw [← causeEq, isEnd] at notEndOther
    cases notEndOther
  · rw [← causeEq, notEnd] at isEndOther
    cases isEndOther
  · have reads := fails.reads
    rw [readsIff] at reads refused
    rcases Nat.lt_trichotomy other index with less | equal | greater
    · exact (refusedOther (reads.take less)).elim
    · exact equal
    · exact (refused (failsOther.reads.take greater)).elim

/-- A reading fails at one index only. -/
theorem FailsAt.unique {other : Nat}
    (fails : entry.FailsAt tokens index located)
    (failsOther : entry.FailsAt tokens other located) : other = index :=
  fails.index_eq failsOther rfl rfl fun _ => Iff.rfl

end Failures

end Entry

end Defun
