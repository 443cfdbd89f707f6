import Mathlib.Data.List.Forall2
import Defun.Proofs.Grammar.Failure

/-!
# What a reading depends on

Of a token, the grammar looks at the kind, and at the lexeme only if the kind
is that of identifiers or integers.  Two sequences whose tokens agree in this
much are read alike: to the same tree, or to the same complaint about the
tokens at one index.
-/

namespace Defun

/-- Tokens that the grammar does not tell apart. -/
structure Token.Alike (first second : Token) : Prop where
  kindName?_eq : first.kindName? = second.kindName?
  lexeme_eq : first.kindName? = some Category.identifier.name ∨
    first.kindName? = some Category.integer.name →
      first.lexeme = second.lexeme

namespace Token.Alike

variable {first second : Token}

theorem symm (alike : first.Alike second) : second.Alike first := by
  refine ⟨alike.kindName?_eq.symm, ?_⟩
  rw [← alike.kindName?_eq]
  intro kinds
  exact (alike.lexeme_eq kinds).symm

theorem category?_eq (alike : first.Alike second) :
    first.category? = second.category? := by
  rw [category?, category?, alike.kindName?_eq]

theorem lexeme_eq_of_identifier (alike : first.Alike second)
    (categoryEq : second.category? = some .identifier) :
    first.lexeme = second.lexeme := by
  rw [← alike.category?_eq] at categoryEq
  exact alike.lexeme_eq (Or.inl (category?_eq_some_iff.mp categoryEq))

theorem lexeme_eq_of_integer (alike : first.Alike second)
    (categoryEq : second.category? = some .integer) :
    first.lexeme = second.lexeme := by
  rw [← alike.category?_eq] at categoryEq
  exact alike.lexeme_eq (Or.inr (category?_eq_some_iff.mp categoryEq))

end Token.Alike

/-- Outcomes that are the same up to the places of errors. -/
theorem exists_of_mapError_cause_eq {α : Type}
    {first second : Except (Located SyntaxError) α}
    (same : first.mapError Located.cause = second.mapError Located.cause) :
    (∃ value, first = .ok value ∧ second = .ok value) ∨
      ∃ located found, first = .error located ∧ second = .error found ∧
        located.cause = found.cause := by
  cases first with
  | ok value =>
      cases second with
      | ok other =>
          cases same
          exact Or.inl ⟨value, rfl, rfl⟩
      | error found => cases same
  | error located =>
      cases second with
      | ok other => cases same
      | error found =>
          exact Or.inr ⟨located, found, rfl, rfl, Except.error.inj same⟩

namespace State

variable {first second : Token}

theorem refuse_alike (alike : first.Alike second) (state : State) :
    (Except.error (state.refuse first) :
        Except (Located SyntaxError) Move).mapError Located.cause =
      (Except.error (state.refuse second) :
        Except (Located SyntaxError) Move).mapError Located.cause := by
  simp only [Except.mapError, refuse, Token.kindText, alike.kindName?_eq]

theorem enter_alike (alike : first.Alike second) (state : State)
    (around : Surroundings) :
    (state.enter around first).mapError Located.cause =
      (state.enter around second).mapError Located.cause := by
  rw [enter, enter, alike.category?_eq]
  split
  · next categoryEq =>
      rw [alike.lexeme_eq_of_integer categoryEq]
      cases Decimal.toWord? second.lexeme <;> rfl
  · next categoryEq => rw [alike.lexeme_eq_of_identifier categoryEq]
  · exact refuse_alike alike state

theorem leave_alike (alike : first.Alike second) (state : State) (node : Node)
    (around : Surroundings) :
    (state.leave node around first).mapError Located.cause =
      (state.leave node around second).mapError Located.cause := by
  rw [leave, leave, alike.category?_eq]
  split
  · rfl
  · rfl
  · rfl
  · exact refuse_alike alike state

/-- Alike tokens make the same move or are refused for the same cause. -/
theorem step_alike (alike : first.Alike second) (state : State) :
    (state.step first).mapError Located.cause =
      (state.step second).mapError Located.cause := by
  have refused := refuse_alike alike
  cases state with
  | outside | parameters name =>
      simp only [step, alike.category?_eq]
      split
      · rfl
      · exact refused _
  | definitionName | nextParameter name read =>
      simp only [step, alike.category?_eq]
      split
      · next categoryEq => rw [alike.lexeme_eq_of_identifier categoryEq]
      · exact refused _
  | firstParameter name =>
      simp only [step, alike.category?_eq]
      split
      · rfl
      · next categoryEq => rw [alike.lexeme_eq_of_identifier categoryEq]
      · exact refused _
  | moreParameters name read =>
      simp only [step, alike.category?_eq]
      split
      · rfl
      · rfl
      · exact refused _
  | body header =>
      simp only [step, alike.category?_eq]
      split
      · rfl
      · exact enter_alike alike _ _
  | expression => exact enter_alike alike _ _
  | firstArgument name around =>
      simp only [step, alike.category?_eq]
      split
      · rfl
      · exact enter_alike alike _ _
  | nextArgument around => exact enter_alike alike _ _
  | identifier name around =>
      simp only [step, alike.category?_eq]
      split
      · rfl
      · exact leave_alike alike _ _ _
  | complete node around => exact leave_alike alike _ _ _

end State

section Sequences

variable {firsts seconds : List Token}

theorem Progress.result_alike
    (alike : List.Forall₂ Token.Alike firsts seconds) (progress : Progress) :
    (progress.result firsts).mapError Located.cause =
      (progress.result seconds).mapError Located.cause := by
  induction alike generalizing progress with
  | nil => rfl
  | @cons first second firsts seconds head tail ih =>
      simp only [result_cons, read]
      rcases exists_of_mapError_cause_eq
          (State.step_alike head progress.state) with
        ⟨move, moved, movedSecond⟩ |
        ⟨located, found, refused, refusedSecond, causeEq⟩
      · rw [moved, movedSecond]
        exact ih (progress.after move)
      · rw [refused, refusedSecond]
        exact congrArg Except.error causeEq

namespace Entry

variable {entry : Entry}

theorem exists_results_of_alike (entry : Entry)
    (alike : List.Forall₂ Token.Alike firsts seconds) :
    (∃ tree, (entry.read firsts).result = .ok tree ∧
        (entry.read seconds).result = .ok tree) ∨
      ∃ located found, (entry.read firsts).result = .error located ∧
        (entry.read seconds).result = .error found ∧
        located.cause = found.cause := by
  rw [result_eq, result_eq]
  exact exists_of_mapError_cause_eq (Progress.result_alike alike entry.start)

theorem Reads.of_alike (alike : List.Forall₂ Token.Alike firsts seconds)
    (reads : entry.Reads seconds) : entry.Reads firsts := by
  intro located failed
  rcases entry.exists_results_of_alike alike with
    ⟨tree, accepted, -⟩ | ⟨other, found, failedOther, failedSecond, causeEq⟩
  · rw [failed] at accepted
    cases accepted
  · rw [failed] at failedOther
    cases failedOther
    rw [causeEq]
    exact reads found failedSecond

theorem reads_alike (alike : List.Forall₂ Token.Alike firsts seconds) :
    entry.Reads firsts ↔ entry.Reads seconds := by
  constructor
  · apply Reads.of_alike
    exact alike.flip.imp fun _ _ => Token.Alike.symm
  · exact Reads.of_alike alike

/-- Sequences of alike tokens are read to the same tree, or both readings fail
at the same index for the same cause. -/
theorem read_alike_agrees (entry : Entry)
    (alike : List.Forall₂ Token.Alike firsts seconds) :
    (∃ tree, (entry.read firsts).result = .ok tree ∧
        (entry.read seconds).result = .ok tree) ∨
      ∃ index cause firstToken secondToken,
        entry.FailsAt firsts index ⟨firstToken, cause⟩ ∧
          entry.FailsAt seconds index ⟨secondToken, cause⟩ := by
  rcases entry.exists_results_of_alike alike with
    accepted | ⟨⟨firstToken, cause⟩, ⟨secondToken, _⟩, first, second, rfl⟩
  · exact Or.inl accepted
  · obtain ⟨index, fails⟩ := exists_failsAt first
    obtain ⟨other, failsSecond⟩ := exists_failsAt second
    have indexEq : other = index :=
      fails.index_eq failsSecond rfl alike.length_eq fun length =>
        reads_alike (List.forall₂_take length alike)
    subst indexEq
    exact Or.inr ⟨other, cause, firstToken, secondToken, fails, failsSecond⟩

/-- Two texts of a keyword, at two places, behind which the same name is
followed by a token that fits nowhere. -/
theorem read_alike_agrees_spelled_anew :
    let firsts : List Token := [⟨some (.silent "def"), "def", ⟨0, 1, 1⟩⟩,
      ⟨some (.silent "identifier"), "f", ⟨4, 1, 5⟩⟩,
      ⟨some (.silent "space"), " ", ⟨5, 1, 6⟩⟩]
    let seconds : List Token := [⟨some (.silent "def"), "define", ⟨7, 2, 1⟩⟩,
      ⟨some (.silent "identifier"), "f", ⟨14, 2, 8⟩⟩,
      ⟨some (.silent "space"), "\t", ⟨15, 2, 9⟩⟩]
    List.Forall₂ Token.Alike firsts seconds ∧
      ∃ index cause firstToken secondToken,
        program.FailsAt firsts index ⟨firstToken, cause⟩ ∧
          program.FailsAt seconds index ⟨secondToken, cause⟩ := by
  intro firsts seconds
  have alike : List.Forall₂ Token.Alike firsts seconds := by
    refine .cons ⟨rfl, by decide⟩ (.cons ⟨rfl, fun _ => rfl⟩
      (.cons ⟨rfl, by decide⟩ .nil))
  refine ⟨alike, ?_⟩
  rcases read_alike_agrees program alike with ⟨tree, accepted, -⟩ | fails
  · cases accepted
  · exact fails

end Entry

end Sequences

end Defun
