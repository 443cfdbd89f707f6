import Defun.Proofs.Grammar.Progress

/-!
# What a token does at a place

An expression may begin at four places: in a body, alone, and as the first or
a further argument of a call.  A token at such a place that neither closes the
arguments nor ends the definition begins an expression there.  A refusal names
the token that was refused, and it concerns the range of an integer only where
an integer in range would have been read.
-/

namespace Defun

namespace State

/-- What surrounds an expression that begins at a place, if one may begin
there. -/
def surroundings? : State → Option Surroundings
  | body header => some ⟨some header, []⟩
  | expression => some ⟨none, []⟩
  | firstArgument name around =>
      some { around with calls := ⟨name, []⟩ :: around.calls }
  | nextArgument around => some around
  | _ => none

variable {state : State} {around : Surroundings} {token : Token}

theorem step_body (header : Header)
    (notFinish : token.category? ≠ some .finish) :
    (body header).step token =
      (body header).enter ⟨some header, []⟩ token := by
  cases categoryEq : token.category? with
  | none => simp [step, categoryEq]
  | some category => cases category <;> simp_all [step]

theorem step_firstArgument (name : Bytes) (outer : Surroundings)
    (notClosing : token.category? ≠ some .closing) :
    (firstArgument name outer).step token =
      (firstArgument name outer).enter
        { outer with calls := ⟨name, []⟩ :: outer.calls } token := by
  cases categoryEq : token.category? with
  | none => simp [step, categoryEq]
  | some category => cases category <;> simp_all [step]

theorem step_eq_enter (enters : state.surroundings? = some around)
    (notClosing : token.category? ≠ some .closing)
    (notFinish : token.category? ≠ some .finish) :
    state.step token = state.enter around token := by
  cases state <;>
    simp only [surroundings?, Option.some.injEq, reduceCtorEq] at enters
  all_goals subst enters
  case body header => exact step_body header notFinish
  case expression => rfl
  case firstArgument name outer =>
    exact step_firstArgument name outer notClosing
  case nextArgument => rfl

theorem step_identifier (enters : state.surroundings? = some around)
    (categoryEq : token.category? = some .identifier) :
    state.step token = .ok (.advance (.identifier token.lexeme around)) := by
  rw [step_eq_enter enters (by simp [categoryEq]) (by simp [categoryEq]),
    enter, categoryEq]

theorem step_integer (enters : state.surroundings? = some around)
    (categoryEq : token.category? = some .integer) {value : Int}
    (denotes : Decimal.toWord? token.lexeme = some value) :
    state.step token = .ok (.advance (.complete (.integer value) around)) := by
  rw [step_eq_enter enters (by simp [categoryEq]) (by simp [categoryEq]),
    enter, categoryEq]
  simp only [denotes]

theorem step_integer_of_range (enters : state.surroundings? = some around)
    (categoryEq : token.category? = some .integer)
    (outOfRange : Decimal.toWord? token.lexeme = none) :
    state.step token = .error ⟨token, .integerRange token.lexeme⟩ := by
  rw [step_eq_enter enters (by simp [categoryEq]) (by simp [categoryEq]),
    enter, categoryEq]
  simp only [outOfRange]

/-- An integer is refused wherever no expression may begin. -/
theorem step_integer_of_surroundings?_eq_none (noEntry : state.surroundings? = none)
    (categoryEq : token.category? = some .integer) :
    state.step token = .error (state.refuse token) := by
  cases state <;> simp only [surroundings?, reduceCtorEq] at noEntry
  case identifier name outer => simp [step, leave, categoryEq]
  case complete node outer => simp [step, leave, categoryEq]
  all_goals simp [step, categoryEq]

/-- An identifier is a variable unless a call begins behind it. -/
theorem step_identifier_of_notOpening {name : Bytes}
    (notOpening : token.category? ≠ some .opening) :
    (identifier name around).step token =
      (complete (.reference name) around).step token := by
  simp only [step]
  rfl

theorem enter_ok {move : Move}
    (entered : state.enter around token = .ok move) :
    (token.category? = some .integer ∧ ∃ value,
      Decimal.toWord? token.lexeme = some value ∧
        move = .advance (.complete (.integer value) around)) ∨
      (token.category? = some .identifier ∧
        move = .advance (.identifier token.lexeme around)) := by
  unfold enter at entered
  split at entered
  · next categoryEq =>
      split at entered
      · next value denotes =>
          cases entered
          exact Or.inl ⟨categoryEq, value, denotes, rfl⟩
      · cases entered
  · next categoryEq =>
      cases entered
      exact Or.inr ⟨categoryEq, rfl⟩
  · cases entered

/-- Inside a call, a complete expression is an argument: another one follows
behind a comma, or the call is complete. -/
theorem leave_ok_of_call {node : Node} {header : Option Header}
    {call : OpenCall} {calls : List OpenCall} {move : Move}
    (left : state.leave node ⟨header, call :: calls⟩ token = .ok move) :
    (token.category? = some .comma ∧ move = .advance (.nextArgument
      ⟨header, ⟨call.name, node :: call.arguments⟩ :: calls⟩)) ∨
      (token.category? = some .closing ∧ move = .advance (.complete
        (.call call.name (node :: call.arguments).reverse)
        ⟨header, calls⟩)) := by
  cases categoryEq : token.category? with
  | none => simp [leave, categoryEq] at left
  | some category =>
      cases category <;> simp [leave, categoryEq] at left
      case closing => exact Or.inr ⟨rfl, by simp [← left]⟩
      case comma => exact Or.inl ⟨rfl, left.symm⟩

/-- In a body, a complete expression is followed by the end of the
definition. -/
theorem leave_ok_of_body {node : Node} {header : Header} {move : Move}
    (left : state.leave node ⟨some header, []⟩ token = .ok move) :
    token.category? = some .finish ∧
      move = .close (.define header.name header.parameters [node]) := by
  cases categoryEq : token.category? with
  | none => simp [leave, categoryEq] at left
  | some category =>
      cases category <;> simp [leave, categoryEq] at left
      case finish => exact ⟨rfl, left.symm⟩

/-- Nothing follows an expression that stands alone. -/
theorem leave_ne_ok_of_alone (node : Node) (move : Move) :
    state.leave node ⟨none, []⟩ token ≠ .ok move := by
  simp [leave]

section Headers

variable {move : Move}

theorem step_outside_ok (stepped : outside.step token = .ok move) :
    token.category? = some .define ∧ move = .advance .definitionName := by
  simp only [step] at stepped
  split at stepped <;> cases stepped
  exact ⟨‹_›, rfl⟩

theorem step_definitionName_ok
    (stepped : definitionName.step token = .ok move) :
    token.category? = some .identifier ∧
      move = .advance (.parameters token.lexeme) := by
  simp only [step] at stepped
  split at stepped <;> cases stepped
  exact ⟨‹_›, rfl⟩

theorem step_parameters_ok {name : Bytes}
    (stepped : (parameters name).step token = .ok move) :
    token.category? = some .opening ∧
      move = .advance (.firstParameter name) := by
  simp only [step] at stepped
  split at stepped <;> cases stepped
  exact ⟨‹_›, rfl⟩

theorem step_firstParameter_ok {name : Bytes}
    (stepped : (firstParameter name).step token = .ok move) :
    (token.category? = some .closing ∧
      move = .advance (.body ⟨name, []⟩)) ∨
      (token.category? = some .identifier ∧
        move = .advance (.moreParameters name [token.lexeme])) := by
  simp only [step] at stepped
  split at stepped <;> cases stepped
  · exact Or.inl ⟨‹_›, rfl⟩
  · exact Or.inr ⟨‹_›, rfl⟩

theorem step_moreParameters_ok {name : Bytes} {read : List Bytes}
    (stepped : (moreParameters name read).step token = .ok move) :
    (token.category? = some .closing ∧
      move = .advance (.body ⟨name, read.reverse⟩)) ∨
      (token.category? = some .comma ∧
        move = .advance (.nextParameter name read)) := by
  simp only [step] at stepped
  split at stepped <;> cases stepped
  · exact Or.inl ⟨‹_›, rfl⟩
  · exact Or.inr ⟨‹_›, rfl⟩

theorem step_nextParameter_ok {name : Bytes} {read : List Bytes}
    (stepped : (nextParameter name read).step token = .ok move) :
    token.category? = some .identifier ∧
      move = .advance (.moreParameters name (token.lexeme :: read)) := by
  simp only [step] at stepped
  split at stepped <;> cases stepped
  exact ⟨‹_›, rfl⟩

end Headers

theorem enter_error {located : Located SyntaxError}
    (refused : state.enter around token = .error located) :
    located = state.refuse token ∨
      (located = ⟨token, .integerRange token.lexeme⟩ ∧
        token.category? = some .integer) := by
  unfold enter at refused
  split at refused
  · next categoryEq =>
      split at refused
      · cases refused
      · cases refused
        exact Or.inr ⟨rfl, categoryEq⟩
  · cases refused
  · cases refused
    exact Or.inl rfl

theorem leave_error {node : Node} {located : Located SyntaxError}
    (refused : state.leave node around token = .error located) :
    located = state.refuse token := by
  unfold leave at refused
  split at refused <;> cases refused
  rfl

/-- A refusal is about the token itself. -/
theorem step_error {located : Located SyntaxError}
    (refused : state.step token = .error located) :
    located = state.refuse token ∨
      (located = ⟨token, .integerRange token.lexeme⟩ ∧
        token.category? = some .integer) := by
  cases state with
  | body header =>
      simp only [step] at refused
      split at refused
      · cases refused
      · exact enter_error refused
  | expression => exact enter_error refused
  | firstArgument name outer =>
      simp only [step] at refused
      split at refused
      · cases refused
      · exact enter_error refused
  | nextArgument outer => exact enter_error refused
  | identifier name outer =>
      simp only [step] at refused
      split at refused
      · cases refused
      · exact Or.inl (leave_error refused)
  | complete node outer => exact Or.inl (leave_error refused)
  | _ =>
      simp only [step] at refused
      split at refused <;> cases refused
      exact Or.inl rfl

theorem step_error_token {located : Located SyntaxError}
    (refused : state.step token = .error located) :
    located.token = token ∧ located.cause.isUnexpectedEnd = false := by
  rcases step_error refused with rfl | ⟨rfl, -⟩ <;> exact ⟨rfl, rfl⟩

/-- An input that ends too early is reported at no token. -/
theorem finish_error {definitions : List Node}
    {located : Located SyntaxError}
    (unfinished : state.finish definitions = .error located) :
    located = ⟨.absent, .unexpectedEnd state.expectedNames⟩ := by
  unfold finish at unfinished
  split at unfinished <;> cases unfinished
  rfl

end State

/-- The first token, if there is one, does not open a list of arguments. -/
def NotOpening (tokens : List Token) : Prop :=
  ∀ token ∈ tokens.head?, token.category? ≠ some .opening

@[simp]
theorem notOpening_nil : NotOpening [] := by
  intro token impossible
  cases impossible

theorem Progress.result_identifier (definitions : List Node) (name : Bytes)
    (around : Surroundings) {tokens : List Token}
    (notOpening : NotOpening tokens) :
    (⟨definitions, .identifier name around⟩ : Progress).result tokens =
      (⟨definitions, .complete (.reference name) around⟩ : Progress).result
        tokens := by
  cases tokens with
  | nil =>
      obtain ⟨header, calls⟩ := around
      cases header <;> cases calls <;> rfl
  | cons token rest =>
      rw [result_cons, result_cons, read, read,
        State.step_identifier_of_notOpening (notOpening token rfl)]
      rfl

end Defun
