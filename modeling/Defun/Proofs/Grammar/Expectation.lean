import Defun.Proofs.Grammar.Failure
import Defun.Proofs.Grammar.Viability

/-!
# What diagnostics expect can follow

At every place of a program, the categories that a diagnostic names are those
of tokens that can be read there.  Only behind an expression that stands alone
is no token expected, and the places of programs are not of this kind: what
surrounds an expression in a program includes a definition.
-/

namespace Defun

namespace Category

/-- A token of a category as it is usually written. -/
def sample : Category → Token
  | define => define.token "def"
  | finish => finish.token "end"
  | identifier => identifier.token "x"
  | integer => integer.token "0"
  | opening => opening.token "("
  | closing => closing.token ")"
  | comma => comma.token ","

@[simp]
theorem sample_kind (category : Category) :
    category.sample.kindName? = some category.name := by
  cases category <;> rfl

@[simp]
theorem sample_category? (category : Category) :
    category.sample.category? = some category :=
  Token.category?_eq_some_iff.mpr category.sample_kind

end Category

namespace State

/-- Whether a place occurs in programs. -/
def inProgram : State → Bool
  | expression => false
  | firstArgument _ around => around.header.isSome
  | nextArgument around => around.header.isSome
  | identifier _ around => around.header.isSome
  | complete _ around => around.header.isSome
  | _ => true

variable {state : State} {token : Token}

theorem enter_inProgram {around : Surroundings} {next : State}
    (known : around.header.isSome = true)
    (entered : state.enter around token = .ok (.advance next)) :
    next.inProgram = true := by
  rcases enter_ok entered with ⟨-, value, -, moved⟩ | ⟨-, moved⟩
  · cases moved
    exact known
  · cases moved
    exact known

theorem leave_inProgram {node : Node} {around : Surroundings} {next : State}
    (known : around.header.isSome = true)
    (left : state.leave node around token = .ok (.advance next)) :
    next.inProgram = true := by
  obtain ⟨header, calls⟩ := around
  cases calls with
  | cons call calls =>
      rcases leave_ok_of_call left with ⟨-, moved⟩ | ⟨-, moved⟩
      · cases moved
        exact known
      · cases moved
        exact known
  | nil =>
      obtain ⟨header, rfl⟩ := Option.isSome_iff_exists.mp known
      obtain ⟨-, closed⟩ := leave_ok_of_body left
      cases closed

/-- From a place of a program, a token leads to another one. -/
theorem step_inProgram {next : State} (inside : state.inProgram = true)
    (stepped : state.step token = .ok (.advance next)) :
    next.inProgram = true := by
  cases state with
  | expression => cases inside
  | outside =>
      obtain ⟨-, moved⟩ := step_outside_ok stepped
      cases moved
      rfl
  | definitionName =>
      obtain ⟨-, moved⟩ := step_definitionName_ok stepped
      cases moved
      rfl
  | parameters name =>
      obtain ⟨-, moved⟩ := step_parameters_ok stepped
      cases moved
      rfl
  | firstParameter name =>
      rcases step_firstParameter_ok stepped with ⟨-, moved⟩ | ⟨-, moved⟩ <;>
        cases moved <;> rfl
  | moreParameters name read =>
      rcases step_moreParameters_ok stepped with ⟨-, moved⟩ | ⟨-, moved⟩ <;>
        cases moved <;> rfl
  | nextParameter name read =>
      obtain ⟨-, moved⟩ := step_nextParameter_ok stepped
      cases moved
      rfl
  | body header =>
      by_cases isFinish : token.category? = some .finish
      · simp [step, isFinish] at stepped
      · rw [step_body header isFinish] at stepped
        exact enter_inProgram rfl stepped
  | firstArgument name around =>
      by_cases isClosing : token.category? = some .closing
      · simp only [step, isClosing, Except.ok.injEq, Move.advance.injEq]
          at stepped
        rw [← stepped]
        exact inside
      · have known : (⟨around.header, ⟨name, []⟩ :: around.calls⟩ :
            Surroundings).header.isSome = true := inside
        rw [step_firstArgument name around isClosing] at stepped
        exact enter_inProgram known stepped
  | nextArgument around => exact enter_inProgram inside stepped
  | identifier name around =>
      by_cases isOpening : token.category? = some .opening
      · simp only [step, isOpening, Except.ok.injEq, Move.advance.injEq]
          at stepped
        rw [← stepped]
        exact inside
      · rw [step_identifier_of_notOpening isOpening] at stepped
        exact leave_inProgram inside stepped
  | complete node around => exact leave_inProgram inside stepped

theorem expected_ne_nil (inside : state.inProgram = true) :
    state.expected ≠ [] := by
  have behind {around : Surroundings}
      (known : around.header.isSome = true) : expectedBehind around ≠ [] := by
    obtain ⟨header, calls⟩ := around
    obtain ⟨header, rfl⟩ := Option.isSome_iff_exists.mp known
    cases calls <;> simp [expectedBehind]
  cases state with
  | expression => cases inside
  | identifier name around => exact behind inside
  | complete node around => exact behind inside
  | _ => simp [expected, items]

theorem expectedNames_eq_map (inside : state.inProgram = true) :
    state.expectedNames = state.expected.map Category.name := by
  have nonempty := expected_ne_nil inside
  rw [expectedNames]
  split
  · next isNil => exact (nonempty isNil).elim
  · rfl

/-- What is expected behind an expression can be read there, and it does not
turn a variable into a call. -/
theorem exists_leave {around : Surroundings} {category : Category}
    (member : category ∈ expectedBehind around) (node : Node) :
    category ≠ .opening ∧
      ∃ move, state.leave node around category.sample = .ok move := by
  obtain ⟨header, calls⟩ := around
  cases calls with
  | cons call calls =>
      obtain rfl := List.mem_singleton.mp member
      exact ⟨nofun, _, rfl⟩
  | nil =>
      cases header with
      | none => cases member
      | some header =>
          obtain rfl := List.mem_singleton.mp member
          exact ⟨nofun, _, rfl⟩

theorem exists_enter {around : Surroundings} {category : Category}
    (enters : state.surroundings? = some around)
    (member : category ∈ items) :
    ∃ move, state.step category.sample = .ok move := by
  have cases : category = .integer ∨ category = .identifier := by
    simpa [items] using member
  rcases cases with rfl | rfl
  · exact ⟨_, step_integer enters (Category.sample_category? .integer) rfl⟩
  · exact ⟨_, step_identifier enters (Category.sample_category? .identifier)⟩

/-- What is expected at a place can be read there. -/
theorem exists_step_of_mem_expected {category : Category}
    (member : category ∈ state.expected) :
    ∃ move, state.step category.sample = .ok move := by
  cases state with
  | body header => exact exists_enter rfl member
  | expression => exact exists_enter rfl member
  | firstArgument name around => exact exists_enter rfl member
  | nextArgument around => exact exists_enter rfl member
  | complete node around => exact (exists_leave member node).2
  | identifier name around =>
      obtain ⟨notOpening, left⟩ := exists_leave member (.reference name)
      rw [step_identifier_of_notOpening
        (by simpa using notOpening)]
      exact left
  | _ =>
      obtain rfl := List.mem_singleton.mp member
      exact ⟨_, rfl⟩

end State

namespace Progress

theorem read_inProgram {progress next : Progress} {token : Token}
    (inside : progress.state.inProgram = true)
    (readToken : progress.read token = .ok next) :
    next.state.inProgram = true := by
  obtain ⟨move, stepped, rfl⟩ := read_eq_ok_iff.mp readToken
  cases move with
  | advance state => exact State.step_inProgram inside stepped
  | close definition => rfl

theorem readAll_inProgram {progress last : Progress} {tokens : List Token}
    (inside : progress.state.inProgram = true)
    (readTokens : progress.readAll tokens = .ok last) :
    last.state.inProgram = true := by
  induction tokens generalizing progress with
  | nil =>
      cases readTokens
      exact inside
  | cons token rest ih =>
      rw [readAll] at readTokens
      cases readToken : progress.read token with
      | error located =>
          rw [readToken] at readTokens
          cases readTokens
      | ok next =>
          rw [readToken] at readTokens
          exact ih (read_inProgram inside readToken) readTokens

/-- An error that names what was expected names it for the place where the
reading stopped. -/
theorem StopsAt.expected_eq {progress last : Progress} {tokens : List Token}
    {index : Nat} {located : Located SyntaxError} {expected : List Bytes}
    (stops : progress.StopsAt tokens index last located)
    (names : (∃ actual, located.cause = .unexpectedToken expected actual) ∨
      located.cause = .unexpectedEnd expected) :
    expected = last.state.expectedNames := by
  have causes : (∃ actual, located.cause =
      .unexpectedToken last.state.expectedNames actual) ∨
      located.cause = .unexpectedEnd last.state.expectedNames ∨
      ∃ lexeme, located.cause = .integerRange lexeme := by
    rcases stops.refusal with ⟨-, unfinished⟩ | ⟨token, -, refused⟩
    · rw [State.finish_error unfinished]
      exact Or.inr (Or.inl rfl)
    · rcases State.step_error refused with rfl | ⟨rfl, -⟩
      · exact Or.inl ⟨_, rfl⟩
      · exact Or.inr (Or.inr ⟨_, rfl⟩)
  rcases names with ⟨actual, named⟩ | named <;> rw [named] at causes
  · rcases causes with ⟨other, found⟩ | found | ⟨lexeme, found⟩ <;> cases found
    rfl
  · rcases causes with ⟨other, found⟩ | found | ⟨lexeme, found⟩ <;> cases found
    rfl

end Progress

/-- Where a program is rejected, the names of what was expected are kinds of
tokens with which the tokens in front can be continued, and there is at least
one. -/
theorem expected_kinds_continue {tokens : List Token}
    {located : Located SyntaxError} {expected : List Bytes}
    (rejected : parse tokens = .error located)
    (names : (∃ actual, located.cause = .unexpectedToken expected actual) ∨
      located.cause = .unexpectedEnd expected) :
    expected ≠ [] ∧ ∃ index, Entry.program.FailsAt tokens index located ∧
      (∀ other, Entry.program.FailsAt tokens other located → other = index) ∧
      ∀ name ∈ expected, ∃ token : Token, token.kindName? = some name ∧
        (name = Category.integer.name →
          ∃ value, Decimal.toWord? token.lexeme = some value) ∧
        Viable (tokens.take index ++ [token]) := by
  have failed : (Progress.program.reading tokens).result = .error located :=
    rejected
  obtain ⟨index, last, stops⟩ := Progress.exists_stopsAt failed
  have fails : Entry.program.FailsAt tokens index located :=
    Entry.failsAt_of_stopsAt rejected stops
  have inside : last.state.inProgram = true :=
    Progress.readAll_inProgram rfl stops.readAll_eq
  have expectedEq : expected = last.state.expected.map Category.name := by
    rw [stops.expected_eq names]
    exact State.expectedNames_eq_map inside
  rw [expectedEq]
  refine ⟨?_, index, fails, fun _ => fails.unique, ?_⟩
  · simpa using State.expected_ne_nil inside
  · intro name member
    obtain ⟨category, expects, rfl⟩ := List.mem_map.mp member
    refine ⟨category.sample, category.sample_kind, ?_, ?_⟩
    · intro isInteger
      obtain rfl := Category.eq_of_name_eq isInteger
      exact ⟨0, rfl⟩
    · rw [viable_append_singleton stops.readAll_eq]
      exact State.exists_step_of_mem_expected expects

/-- Behind the comma of a call, an argument is expected and can follow. -/
theorem expected_kinds_continue_arguments :
    let tokens := [Category.define.token "def",
      Category.identifier.token "f", Category.opening.token "(",
      Category.closing.token ")", Category.identifier.token "g",
      Category.opening.token "(", Category.integer.token "1",
      Category.comma.token ",", Category.closing.token ")"]
    let error : Located SyntaxError := ⟨Category.closing.token ")",
      .unexpectedToken [Category.integer.name, Category.identifier.name]
        Category.closing.name⟩
    parse tokens = .error error ∧
      ∃ index, Entry.program.FailsAt tokens index error ∧
        (∃ token : Token, token.kindName? = some Category.integer.name ∧
          (∃ value, Decimal.toWord? token.lexeme = some value) ∧
          Viable (tokens.take index ++ [token])) ∧
        ∃ token : Token, token.kindName? = some Category.identifier.name ∧
          Viable (tokens.take index ++ [token]) := by
  intro tokens error
  have rejected : parse tokens = .error error := rfl
  obtain ⟨-, index, fails, -, continued⟩ :=
    expected_kinds_continue rejected (Or.inl ⟨_, rfl⟩)
  obtain ⟨integer, integerKind, inRange, integerViable⟩ :=
    continued Category.integer.name (by simp)
  obtain ⟨identifier, identifierKind, -, identifierViable⟩ :=
    continued Category.identifier.name (by simp)
  exact ⟨rejected, index, fails,
    ⟨integer, integerKind, inRange rfl, integerViable⟩,
    identifier, identifierKind, identifierViable⟩

end Defun
