import Defun.Proofs.Grammar.Concatenation
import Defun.Proofs.Text.Lines
import Defun.Proofs.Token.Concatenation
import Defun.Proofs.Tree.Rendering
import Defun.Transpiler

/-!
# Transpiling line by line

The output of a program is the text of its definitions, one line each.  Behind
the lines of a program, further lines are transpiled as if they stood alone,
apart from the places of errors.  Lines with an error that is not an early end
have that error whatever follows.
-/

namespace Defun

namespace Derivation

mutual

theorem Expression.isComplete_tree :
    (expression : Expression) → expression.tree.isComplete = true
  | .integer _ => rfl
  | .reference _ => rfl
  | .call _ _ arguments _ => arguments.areComplete_trees

theorem Arguments.areComplete_trees :
    (arguments : Arguments) → Node.areComplete arguments.trees = true
  | .none => rfl
  | .some first others => by
      rw [Arguments.trees, Node.areComplete, first.isComplete_tree,
        others.areComplete_trees]
      rfl

theorem MoreArguments.areComplete_trees :
    (others : MoreArguments) → Node.areComplete others.trees = true
  | .none => rfl
  | .next _ argument others => by
      rw [MoreArguments.trees, Node.areComplete, argument.isComplete_tree,
        others.areComplete_trees]
      rfl

end

theorem Definition.isComplete_tree (definition : Definition) :
    definition.tree.isComplete = true := by
  rw [Definition.tree, Node.isComplete]
  cases definition.body with
  | none => rfl
  | some expression =>
      rw [Option.map_some, Option.toList_some, Node.areComplete,
        expression.isComplete_tree]
      rfl

@[simp]
theorem Program.isComplete_tree (program : Program) :
    program.tree.isComplete = true := by
  rw [Program.tree, Node.isComplete, Node.areComplete_iff]
  simp [Definition.isComplete_tree]

theorem Definition.rendered_tree_ne_nil (definition : Definition) :
    definition.tree.rendered ≠ [] := by
  rw [Definition.tree, Node.rendered, List.append_assoc, List.append_assoc,
    List.append_assoc, List.append_assoc]
  exact List.append_ne_nil_of_left_ne_nil (by decide) _

end Derivation

/-- The output of a program is the text of its definitions. -/
theorem generate_of_parse {tokens : List Token} {root : Node}
    (accepted : parse tokens = .ok root) :
    ∃ body, root = .root body ∧
      root.generate = .ok (Bytes.stacked (body.map Node.rendered)) := by
  obtain ⟨program, -, rfl⟩ := Derivation.parse_eq_ok_iff.mp accepted
  refine ⟨_, rfl, ?_⟩
  have complete := program.isComplete_tree
  have textsNe : ∀ text ∈ (program.definitions.map
      Derivation.Definition.tree).map Node.rendered, text ≠ [] := by
    simp [Derivation.Definition.rendered_tree_ne_nil]
  rw [Node.generate_eq complete, Bytes.stacked_of_ne_nil textsNe,
    ← Node.renderedAll_eq_map]
  rfl

section Transpile

variable {kinds : List Kind} {source : Bytes}

theorem transpile_of_parse {body : List Node}
    (accepted : parse (tokenize kinds source) = .ok (.root body)) :
    transpile kinds source =
      .ok (Bytes.stacked (body.map Node.rendered)) := by
  obtain ⟨definitions, rootEq, generated⟩ := generate_of_parse accepted
  cases rootEq
  rw [transpile, accepted]
  simp only [generated]

theorem exists_body_of_transpile {output : Bytes}
    (transpiled : transpile kinds source = .ok output) :
    ∃ body, parse (tokenize kinds source) = .ok (.root body) ∧
      output = Bytes.stacked (body.map Node.rendered) := by
  cases parsed : parse (tokenize kinds source) with
  | error located =>
      rw [transpile, parsed] at transpiled
      cases transpiled
  | ok root =>
      obtain ⟨body, rfl, _⟩ := generate_of_parse parsed
      rw [transpile_of_parse parsed] at transpiled
      cases transpiled
      exact ⟨body, rfl, rfl⟩

theorem exists_located_of_transpile {error : TranspileError}
    (failed : transpile kinds source = .error error) :
    ∃ located, error = .syntactic located ∧
      parse (tokenize kinds source) = .error located := by
  cases parsed : parse (tokenize kinds source) with
  | error located =>
      rw [transpile, parsed] at failed
      cases failed
      exact ⟨located, rfl, rfl⟩
  | ok root =>
      obtain ⟨body, rfl, _⟩ := generate_of_parse parsed
      rw [transpile_of_parse parsed] at failed
      cases failed

theorem transpile_of_parse_error {located : Located SyntaxError}
    (refused : parse (tokenize kinds source) = .error located) :
    transpile kinds source = .error (.syntactic located) := by
  rw [transpile, refused]

end Transpile

/-- The same error seen from further up in a text. -/
def TranspileError.moved (octets lines : Nat) :
    TranspileError → TranspileError
  | syntactic located =>
      syntactic (located.relocated fun position =>
        position.moved octets lines)
  | incomplete error => incomplete error

section Append

variable {first others output : Bytes}

theorem parse_others_moved (others : Bytes) (octets lines : Nat) :
    parse ((tokenize Registry.default others).map fun token =>
        token.moved octets lines) =
      (parse (tokenize Registry.default others)).mapError
        (Located.relocated fun position => position.moved octets lines) :=
  parse_relocated _ _

/-- Lines behind a program are transpiled as if they stood alone. -/
theorem transpile_append_of_ok
    (firstEq : transpile Registry.default first = .ok output) :
    transpile Registry.default (first ++ Bytes.newline :: others) =
      match transpile Registry.default others with
      | .ok after => .ok (Bytes.stacked [output, after])
      | .error error => .error (error.moved (first.length + 1)
          (first.count Bytes.newline + 1)) := by
  obtain ⟨before, parsedFirst, rfl⟩ := exists_body_of_transpile firstEq
  have moved := parse_others_moved others (first.length + 1)
    (first.count Bytes.newline + 1)
  cases transpiled : transpile Registry.default others with
  | ok after =>
      obtain ⟨body, parsed, rfl⟩ := exists_body_of_transpile transpiled
      rw [parsed] at moved
      -- Moving the tokens of the other lines does not change their tree.
      have joined := parse_append_of_ok parsedFirst moved
      rw [← tokenize_append_newline] at joined
      rw [transpile_of_parse joined, List.map_append, Bytes.stacked_append]
  | error error =>
      obtain ⟨located, rfl, refused⟩ := exists_located_of_transpile transpiled
      rw [refused] at moved
      have joined := parse_append_of_error parsedFirst moved
      rw [← tokenize_append_newline] at joined
      exact transpile_of_parse_error joined

/-- Lines with an error that is not an early end have it whatever follows. -/
theorem transpile_append_of_error {error : TranspileError}
    (firstEq : transpile Registry.default first = .error error)
    (notEnd : error.isUnexpectedEnd = false) (others : Bytes) :
    transpile Registry.default (first ++ Bytes.newline :: others) =
      .error error := by
  obtain ⟨located, rfl, refused⟩ := exists_located_of_transpile firstEq
  apply transpile_of_parse_error
  rw [tokenize_append_newline]
  exact parse_append_of_refused refused notEnd _

end Append

end Defun
