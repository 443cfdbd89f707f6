import Defun.Proofs.Grammar.Places

/-!
# Viable prefixes

A sequence of tokens is viable if it can be extended to a program.  Every
place of the grammar has a completion: closing parentheses for the calls that
are open and the keyword that ends the definition, behind whatever the place
itself still lacks.  So the tokens that were read are viable, and the first
token that is refused is the one that makes its prefix not viable.
-/

namespace Defun

/-- The tokens that close the open calls and end the definition around an
expression. -/
def Surroundings.completion (around : Surroundings) : List Token :=
  List.replicate around.calls.length (Category.closing.token ")") ++
    match around.header with
    | some _ => [Category.finish.token "end"]
    | none => []

namespace State

/-- Tokens that lead from a place to the end of a program or expression. -/
def completion : State → List Token
  | outside => []
  | definitionName =>
      [Category.identifier.token "f", Category.opening.token "(",
        Category.closing.token ")", Category.finish.token "end"]
  | parameters _ =>
      [Category.opening.token "(", Category.closing.token ")",
        Category.finish.token "end"]
  | firstParameter _ =>
      [Category.closing.token ")", Category.finish.token "end"]
  | moreParameters _ _ =>
      [Category.closing.token ")", Category.finish.token "end"]
  | nextParameter _ _ =>
      [Category.identifier.token "x", Category.closing.token ")",
        Category.finish.token "end"]
  | body _ => [Category.finish.token "end"]
  | expression => [Category.identifier.token "x"]
  | firstArgument _ around =>
      Category.closing.token ")" :: around.completion
  | nextArgument around =>
      Category.identifier.token "x" :: around.completion
  | identifier _ around => around.completion
  | complete _ around => around.completion

end State

/-- Closing what surrounds a complete expression ends the input properly. -/
theorem Progress.result_complete_completion (definitions : List Node)
    (node : Node) (header : Option Header) (calls : List OpenCall) :
    ∃ tree, (⟨definitions, .complete node ⟨header, calls⟩⟩ : Progress).result
      (Surroundings.completion ⟨header, calls⟩) = .ok tree := by
  induction calls generalizing node with
  | nil =>
      cases header with
      | none => exact ⟨node, rfl⟩
      | some header =>
          have closes : (State.complete node ⟨some header, []⟩).step
              (Category.finish.token "end") =
              .ok (.close (.define header.name header.parameters [node])) := by
            simp [State.step, State.leave]
          exact ⟨_, result_cons_of_close closes []⟩
  | cons call calls ih =>
      have advances : (State.complete node ⟨header, call :: calls⟩).step
          (Category.closing.token ")") =
          .ok (.advance (.complete
            (.call call.name (node :: call.arguments).reverse)
            ⟨header, calls⟩)) := by
        simp [State.step, State.leave]
      obtain ⟨tree, completed⟩ :=
        ih (.call call.name (node :: call.arguments).reverse)
      refine ⟨tree, ?_⟩
      rw [← completed, Surroundings.completion, List.length_cons,
        List.replicate_succ, List.cons_append,
        result_cons_of_advance advances]
      rfl

theorem Surroundings.notOpening_completion (around : Surroundings) :
    NotOpening around.completion := by
  obtain ⟨header, calls⟩ := around
  intro token first
  cases calls with
  | nil =>
      cases header with
      | none => simp [completion] at first
      | some header =>
          simp [completion] at first
          simp [← first]
  | cons call calls =>
      simp [completion, List.replicate_succ] at first
      simp [← first]

/-- Every place can be completed. -/
theorem Progress.result_completion (progress : Progress) :
    ∃ tree, progress.result progress.state.completion = .ok tree := by
  obtain ⟨definitions, state⟩ := progress
  cases state with
  | complete node around =>
      exact result_complete_completion definitions node around.header
        around.calls
  | identifier name around =>
      -- The completion closes calls or the definition and opens nothing, so
      -- the name in front of it is a variable.
      obtain ⟨tree, completed⟩ := result_complete_completion definitions
        (.reference name) around.header around.calls
      refine ⟨tree, ?_⟩
      rw [← completed]
      exact result_identifier definitions name around
        around.notOpening_completion
  | nextArgument around =>
      obtain ⟨tree, completed⟩ := result_complete_completion definitions
        (.reference "x") around.header around.calls
      have advances : (State.nextArgument around).step
          (Category.identifier.token "x") =
          .ok (.advance (.identifier "x" around)) :=
        State.step_identifier rfl (by simp)
      refine ⟨tree, ?_⟩
      rw [← completed, State.completion, result_cons_of_advance advances]
      exact result_identifier definitions "x" around
        around.notOpening_completion
  | firstArgument name around =>
      obtain ⟨tree, completed⟩ := result_complete_completion definitions
        (.call name []) around.header around.calls
      have advances : (State.firstArgument name around).step
          (Category.closing.token ")") =
          .ok (.advance (.complete (.call name []) around)) := by
        simp [State.step]
      refine ⟨tree, ?_⟩
      rw [← completed, State.completion, result_cons_of_advance advances]
  | _ => exact ⟨_, rfl⟩

/-- A sequence of tokens that can be extended to a program. -/
def Viable (tokens : List Token) : Prop :=
  ∃ extension root, parse (tokens ++ extension) = .ok root

/-- The token at an index makes a viable sequence one that is not. -/
def BreaksAt (tokens : List Token) (index : Nat) : Prop :=
  Viable (tokens.take index) ∧ ¬ Viable (tokens.take (index + 1))

theorem viable_iff_readAll {tokens : List Token} :
    Viable tokens ↔ ∃ last, Progress.program.readAll tokens = .ok last := by
  constructor
  · rintro ⟨extension, root, accepted⟩
    rw [parse_eq_result] at accepted
    cases readTokens : Progress.program.readAll tokens with
    | error located =>
        rw [Progress.result_append_of_refused readTokens] at accepted
        cases accepted
    | ok last => exact ⟨last, rfl⟩
  · rintro ⟨last, readTokens⟩
    obtain ⟨root, completed⟩ := last.result_completion
    refine ⟨last.state.completion, root, ?_⟩
    rw [parse_eq_result, Progress.result_append_of_readAll readTokens]
    exact completed

theorem Viable.of_append {first second : List Token}
    (viable : Viable (first ++ second)) : Viable first := by
  obtain ⟨extension, root, accepted⟩ := viable
  exact ⟨second ++ extension, root, by rwa [← List.append_assoc]⟩

theorem Viable.take {tokens : List Token} {longer : Nat}
    (viable : Viable (tokens.take longer)) {shorter : Nat}
    (shorterLe : shorter ≤ longer) : Viable (tokens.take shorter) := by
  have taken : tokens.take shorter = (tokens.take longer).take shorter := by
    rw [List.take_take, Nat.min_eq_left shorterLe]
  rw [← List.take_append_drop shorter (tokens.take longer)] at viable
  rw [taken]
  exact viable.of_append

/-- There is at most one place where a sequence stops being viable. -/
theorem BreaksAt.unique {tokens : List Token} {first second : Nat}
    (firstBreaks : BreaksAt tokens first)
    (secondBreaks : BreaksAt tokens second) : second = first := by
  rcases Nat.lt_trichotomy second first with less | equal | greater
  · exact (secondBreaks.2 (firstBreaks.1.take less)).elim
  · exact equal
  · exact (firstBreaks.2 (secondBreaks.1.take greater)).elim

theorem viable_append_singleton {before : List Token} {last : Progress}
    (readBefore : Progress.program.readAll before = .ok last)
    (token : Token) :
    Viable (before ++ [token]) ↔
      ∃ move, last.state.step token = .ok move := by
  rw [viable_iff_readAll, Progress.readAll_append, readBefore]
  simp only [Except.bind, Progress.readAll, Progress.read]
  cases last.state.step token <;> simp [Except.map]

/-- A token is out of range as an integer exactly where an integer in range
could have stood. -/
theorem integerRange_iff_viable {before : List Token} {last : Progress}
    (readBefore : Progress.program.readAll before = .ok last)
    {token : Token} {located : Located SyntaxError}
    (refused : last.state.step token = .error located) :
    located.cause = .integerRange token.lexeme ↔
      token.kindName? = some Category.integer.name ∧
        ∃ numeral : Numeral, Viable (before ++ [numeral.token]) := by
  rw [← Token.category?_eq_some_iff]
  constructor
  · intro causeEq
    rcases State.step_error refused with plain | ⟨-, categoryEq⟩
    · rw [plain] at causeEq
      cases causeEq
    · refine ⟨categoryEq, ⟨⟨Category.integer.token "0", rfl⟩, 0, rfl⟩, ?_⟩
      cases enters : last.state.surroundings? with
      | none =>
          rw [State.step_integer_of_surroundings?_eq_none enters categoryEq]
            at refused
          cases refused
          cases causeEq
      | some around =>
          rw [viable_append_singleton readBefore]
          exact ⟨_, State.step_integer enters (by simp) rfl⟩
  · rintro ⟨categoryEq, numeral, viable⟩
    obtain ⟨move, stepped⟩ :=
      (viable_append_singleton readBefore numeral.token).mp viable
    cases enters : last.state.surroundings? with
    | none =>
        rw [State.step_integer_of_surroundings?_eq_none enters
          numeral.category?] at stepped
        cases stepped
    | some around =>
        cases denoted : Decimal.toWord? token.lexeme with
        | none =>
            rw [State.step_integer_of_range enters categoryEq denoted]
              at refused
            cases refused
            rfl
        | some value =>
            rw [State.step_integer enters categoryEq denoted] at refused
            cases refused

theorem breaksAt_of_refused {before : List Token} {last : Progress}
    (readBefore : Progress.program.readAll before = .ok last)
    {token : Token} {located : Located SyntaxError}
    (refused : last.state.step token = .error located)
    (rest : List Token) :
    BreaksAt (before ++ token :: rest) before.length := by
  constructor
  · rw [List.take_left]
    exact viable_iff_readAll.mpr ⟨last, readBefore⟩
  · have taken : (before ++ token :: rest).take (before.length + 1) =
        before ++ [token] := by
      rw [List.take_append, List.take_of_length_le (by omega)]
      simp
    rw [taken, viable_append_singleton readBefore, refused]
    rintro ⟨move, impossible⟩
    cases impossible

/-- The error of a rejected sequence is found at the end of the input exactly
if the sequence is viable, and otherwise at the token that makes it cease to
be. -/
theorem parse_error_locates_break {tokens : List Token}
    {located : Located SyntaxError}
    (rejected : parse tokens = .error located) :
    ((∃ expected, located = ⟨.absent, .unexpectedEnd expected⟩) ↔
      Viable tokens) ∧
    (located.cause.isUnexpectedEnd = true ↔ Viable tokens) ∧
    (¬ Viable tokens → ∃ index, ∃ inside : index < tokens.length,
      BreaksAt tokens index ∧
      (∀ other, BreaksAt tokens other → other = index) ∧
      located.token = tokens[index] ∧
      ((∃ expected actual,
          located.cause = .unexpectedToken expected actual) ∨
        located.cause = .integerRange tokens[index].lexeme) ∧
      (located.cause = .integerRange tokens[index].lexeme ↔
        tokens[index].kindName? = some Category.integer.name ∧
          ∃ numeral : Numeral,
            Viable (tokens.take index ++ [numeral.token]))) := by
  rw [parse_eq_result] at rejected
  cases readTokens : Progress.program.readAll tokens with
  | ok last =>
      have viable : Viable tokens := viable_iff_readAll.mpr ⟨last, readTokens⟩
      rw [Progress.result, readTokens] at rejected
      have locatedEq := State.finish_error rejected
      subst locatedEq
      exact ⟨iff_of_true ⟨_, rfl⟩ viable, iff_of_true rfl viable,
        fun notViable => (notViable viable).elim⟩
  | error found =>
      rw [Progress.result, readTokens] at rejected
      cases rejected
      have notViable : ¬ Viable tokens := by
        rw [viable_iff_readAll, readTokens]
        rintro ⟨last, impossible⟩
        cases impossible
      obtain ⟨before, token, rest, last, rfl, readBefore, refused⟩ :=
        Progress.exists_refused_token readTokens
      have breaks := breaksAt_of_refused readBefore refused rest
      have inside : before.length < (before ++ token :: rest).length := by
        simp
      have tokenEq : (before ++ token :: rest)[before.length] = token := by
        simp
      have locatedCases := State.step_error refused
      have notEnd : located.cause.isUnexpectedEnd = false := by
        rcases locatedCases with rfl | ⟨rfl, -⟩ <;> rfl
      refine ⟨iff_of_false ?_ notViable, iff_of_false ?_ notViable, fun _ =>
        ⟨before.length, inside, breaks, fun _ => breaks.unique, ?_, ?_, ?_⟩⟩
      · rintro ⟨expected, rfl⟩
        cases notEnd
      · simp [notEnd]
      · rw [tokenEq]
        rcases locatedCases with rfl | ⟨rfl, -⟩ <;> rfl
      · rw [tokenEq]
        rcases locatedCases with rfl | ⟨rfl, -⟩
        · exact Or.inl ⟨_, _, rfl⟩
        · exact Or.inr rfl
      · rw [tokenEq, List.take_left]
        exact integerRange_iff_viable readBefore refused

/-- A numeral out of range breaks a definition that was viable before it. -/
theorem large_numeral_breaks :
    let numeral := Category.integer.token "2147483648"
    let tokens := [Category.define.token "def",
      Category.identifier.token "f", Category.opening.token "(",
      Category.closing.token ")", numeral, Category.finish.token "end"]
    parse tokens = .error ⟨numeral, .integerRange "2147483648"⟩ ∧
      ∃ index, ∃ inside : index < tokens.length,
        BreaksAt tokens index ∧ tokens[index] = numeral := by
  intro numeral tokens
  have rejected : parse tokens =
      .error ⟨numeral, .integerRange "2147483648"⟩ := rfl
  obtain ⟨-, endIff, broken⟩ := parse_error_locates_break rejected
  have notViable : ¬ Viable tokens := fun viable => by
    cases endIff.mpr viable
  obtain ⟨index, inside, breaks, -, tokenEq, -⟩ := broken notViable
  exact ⟨rejected, index, inside, breaks, tokenEq.symm⟩

end Defun
