import Defun.Proofs.Grammar.Likeness
import Defun.Proofs.Grammar.Recognition

/-!
# Programs in parts

Where one program ends another may follow.  Reading both is reading the second
behind the definitions of the first, and an error of the second is reported as
if it stood alone.  An error that is not an early end is reported whatever
follows.  The places of tokens have no influence except that errors are
reported there.
-/

namespace Defun

/-- The same error at another place.  An early end has no place. -/
def Located.relocated (change : Position → Position)
    (located : Located SyntaxError) : Located SyntaxError :=
  if located.cause.isUnexpectedEnd then located
  else ⟨located.token.relocated change, located.cause⟩

theorem Token.alike_relocated (change : Position → Position) (token : Token) :
    token.Alike (token.relocated change) :=
  ⟨rfl, fun _ => rfl⟩

namespace State

variable (change : Position → Position)

theorem step_relocated (state : State) (token : Token) :
    state.step (token.relocated change) =
      (state.step token).mapError (Located.relocated change) := by
  rcases exists_of_mapError_cause_eq
      (step_alike (token.alike_relocated change) state) with
    ⟨move, stepped, moved⟩ | ⟨located, found, stepped, moved, causeEq⟩
  · rw [stepped, moved]
    rfl
  · obtain ⟨tokenEq, notEnd⟩ := step_error_token stepped
    obtain ⟨foundEq, -⟩ := step_error_token moved
    obtain ⟨place, cause⟩ := found
    subst foundEq causeEq
    simp [moved, stepped, Except.mapError, Located.relocated, notEnd, tokenEq]

theorem finish_relocated (definitions : List Node) (state : State) :
    (state.finish definitions).mapError (Located.relocated change) =
      state.finish definitions := by
  cases finished : state.finish definitions with
  | ok tree => rfl
  | error located =>
      rw [finish_error finished]
      rfl

end State

theorem Progress.result_relocated (change : Position → Position)
    (progress : Progress) (tokens : List Token) :
    progress.result (tokens.map (Token.relocated change)) =
      (progress.result tokens).mapError (Located.relocated change) := by
  induction tokens generalizing progress with
  | nil => exact (State.finish_relocated change _ _).symm
  | cons token rest ih =>
      simp only [List.map_cons, result_cons, read, State.step_relocated]
      cases progress.state.step token with
      | error located => rfl
      | ok move => exact ih (progress.after move)

/-- The places of tokens have no influence on the tree. -/
theorem parse_relocated (change : Position → Position)
    (tokens : List Token) :
    parse (tokens.map (Token.relocated change)) =
      (parse tokens).mapError (Located.relocated change) := by
  rw [parse_eq_result, parse_eq_result, Progress.result_relocated]

/-- Errors do not depend on the definitions before them. -/
theorem Progress.result_error_of_definitions {before : List Node}
    {state : State} {tokens : List Token} {located : Located SyntaxError}
    (refused : (⟨before, state⟩ : Progress).result tokens = .error located)
    (others : List Node) :
    (⟨others, state⟩ : Progress).result tokens = .error located := by
  induction tokens generalizing before state others with
  | nil =>
      cases state with
      | outside => cases refused
      | identifier name around | complete node around =>
          obtain ⟨header, calls⟩ := around
          cases header <;> cases calls <;> exact refused
      | _ => exact refused
  | cons token rest ih =>
      rw [result_cons, read] at refused ⊢
      cases stepped : state.step token with
      | error found =>
          rw [stepped] at refused
          exact refused
      | ok move =>
          rw [stepped] at refused
          cases move with
          | advance next => exact ih refused others
          | close definition => exact ih refused (others ++ [definition])

section Append

variable {first second : List Token} {before after : List Node}

/-- A program behind another one. -/
theorem parse_append_of_ok (firstEq : parse first = .ok (.root before))
    (secondEq : parse second = .ok (.root after)) :
    parse (first ++ second) = .ok (.root (before ++ after)) := by
  obtain ⟨left, rfl, leftTree⟩ := Derivation.parse_eq_ok_iff.mp firstEq
  obtain ⟨right, rfl, rightTree⟩ := Derivation.parse_eq_ok_iff.mp secondEq
  cases leftTree
  cases rightTree
  refine Derivation.parse_eq_ok_iff.mpr
    ⟨⟨left.definitions ++ right.definitions⟩, ?_, ?_⟩
  · exact List.flatMap_append
  · rw [Derivation.Program.tree, List.map_append]

/-- An error behind a program. -/
theorem parse_append_of_error {located : Located SyntaxError}
    (firstEq : parse first = .ok (.root before))
    (refused : parse second = .error located) :
    parse (first ++ second) = .error located := by
  obtain ⟨program, rfl, _⟩ := Derivation.parse_eq_ok_iff.mp firstEq
  rw [parse_eq_result] at refused ⊢
  rw [Progress.program, Derivation.Program.result_eq]
  exact Progress.result_error_of_definitions refused _

/-- An error that is not an early end is final. -/
theorem parse_append_of_refused {located : Located SyntaxError}
    (refused : parse first = .error located)
    (notEnd : located.cause.isUnexpectedEnd = false) (second : List Token) :
    parse (first ++ second) = .error located := by
  rw [parse_eq_result] at refused ⊢
  cases readFirst : Progress.program.readAll first with
  | error found =>
      rw [Progress.result, readFirst] at refused
      cases refused
      exact Progress.result_append_of_refused readFirst second
  | ok last =>
      rw [Progress.result, readFirst] at refused
      rw [State.finish_error refused] at notEnd
      cases notEnd

theorem exists_root_of_parse {tokens : List Token} {tree : Node}
    (accepted : parse tokens = .ok tree) : ∃ body, tree = .root body := by
  obtain ⟨program, _, rfl⟩ := Derivation.parse_eq_ok_iff.mp accepted
  exact ⟨_, rfl⟩

end Append

/-- Behind a program, other tokens are read as if they stood alone, and the
definitions of both make up one program.  Behind an error that is not an early
end, other tokens change nothing. -/
theorem parse_distributes_over_append (first second : List Token) :
    (∀ tree, parse first = .ok tree →
      ∃ before, tree = .root before ∧
        ((∃ after, parse second = .ok (.root after) ∧
            parse (first ++ second) = .ok (.root (before ++ after))) ∨
          ∃ located, parse second = .error located ∧
            parse (first ++ second) = .error located)) ∧
    ∀ located, parse first = .error located →
      located.cause.isUnexpectedEnd = false →
        parse (first ++ second) = .error located := by
  constructor
  · intro tree accepted
    obtain ⟨before, rfl⟩ := exists_root_of_parse accepted
    refine ⟨before, rfl, ?_⟩
    cases parsed : parse second with
    | ok other =>
        obtain ⟨after, rfl⟩ := exists_root_of_parse parsed
        exact Or.inl ⟨after, rfl, parse_append_of_ok accepted parsed⟩
    | error located =>
        exact Or.inr ⟨located, rfl, parse_append_of_error accepted parsed⟩
  · intro located refused notEnd
    exact parse_append_of_refused refused notEnd second

/-- A definition before and behind tokens that break off at a numeral. -/
theorem parse_distributes_over_large_numeral :
    let definition := [Category.define.token "def",
      Category.identifier.token "f", Category.opening.token "(",
      Category.closing.token ")", Category.finish.token "end"]
    let numeral := Category.integer.token "2147483648"
    let broken := [Category.define.token "def",
      Category.identifier.token "g", Category.opening.token "(",
      Category.closing.token ")", numeral]
    let error : Located SyntaxError := ⟨numeral, .integerRange "2147483648"⟩
    (parse definition = .ok (.root [.define "f" [] []]) ∧
      parse (definition ++ broken) = .error error) ∧
    parse broken = .error error ∧
      parse (broken ++ definition) = .error error := by
  intro definition numeral broken error
  have accepted : parse definition = .ok (.root [.define "f" [] []]) := rfl
  have refused : parse broken = .error error := rfl
  refine ⟨⟨accepted, ?_⟩, refused, ?_⟩
  · obtain ⟨_, _, ⟨_, impossible, _⟩ | ⟨located, found, joined⟩⟩ :=
      (parse_distributes_over_append definition broken).1 _ accepted
    · rw [refused] at impossible
      cases impossible
    · rw [joined, ← found, refused]
  · exact (parse_distributes_over_append broken definition).2 _ refused rfl

end Defun
