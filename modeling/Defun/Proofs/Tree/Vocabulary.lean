import Defun.Proofs.Token.Pieces
import Defun.Proofs.Tree.Rendering
import Defun.Proofs.Tree.Words

/-!
# Trees over a vocabulary

A vocabulary says which names and which integers may stand in a tree.  The tree
of a program has nothing but names and integers of its tokens, nested in the
way of the grammar.  With the default registry the names are words of letters
that are identifiers of the source, and the integers are not negative.
-/

namespace Defun

/-- The names and the integers that may stand in a tree. -/
structure Vocabulary where
  isName : Bytes → Prop
  isValue : Int → Prop

namespace Node

variable (vocabulary : Vocabulary)

inductive ExpressionOver : Node → Prop where
  | integer {value : Int} (isValue : vocabulary.isValue value) :
      ExpressionOver (.integer value)
  | reference {name : Bytes} (isName : vocabulary.isName name) :
      ExpressionOver (.reference name)
  | call {name : Bytes} {arguments : List Node}
      (isName : vocabulary.isName name)
      (isOver : ∀ argument ∈ arguments, ExpressionOver argument) :
      ExpressionOver (.call name arguments)

/-- The body is empty or one expression. -/
inductive DefinitionOver : Node → Prop where
  | define {name : Bytes} {parameters : List Bytes} {body : Option Node}
      (isName : vocabulary.isName name)
      (areNames : ∀ parameter ∈ parameters, vocabulary.isName parameter)
      (isOver : ∀ expression ∈ body, ExpressionOver vocabulary expression) :
      DefinitionOver (.define name parameters body.toList)

inductive ProgramOver : Node → Prop where
  | root {body : List Node}
      (isOver : ∀ definition ∈ body, DefinitionOver vocabulary definition) :
      ProgramOver (.root body)

variable {vocabulary}

theorem ExpressionOver.isComplete {node : Node}
    (isOver : node.ExpressionOver vocabulary) : node.isComplete = true := by
  induction isOver with
  | integer isValue => rfl
  | reference isName => rfl
  | call isName isOver ih => exact areComplete_iff.mpr ih

theorem DefinitionOver.isComplete {node : Node}
    (isOver : node.DefinitionOver vocabulary) : node.isComplete = true := by
  obtain ⟨_, _, isOver⟩ := isOver
  apply areComplete_iff.mpr
  intro expression member
  exact (isOver expression (Option.mem_toList.mp member)).isComplete

theorem ProgramOver.generate_eq {node : Node}
    (isOver : node.ProgramOver vocabulary) :
    node.generate = .ok node.rendered := by
  obtain ⟨isOver⟩ := isOver
  apply Node.generate_eq
  apply areComplete_iff.mpr
  intro definition member
  exact (isOver definition member).isComplete

end Node

/-- What a token contributes to a tree belongs to the vocabulary. -/
structure Vocabulary.Admits (vocabulary : Vocabulary) (token : Token) :
    Prop where
  isName : token.category? = some .identifier →
    vocabulary.isName token.lexeme
  isValue : token.category? = some .integer → ∀ value,
    Decimal.toWord? token.lexeme = some value → vocabulary.isValue value

namespace Derivation

variable {vocabulary : Vocabulary}

mutual

theorem Expression.tree_over : (expression : Expression) →
    (∀ token ∈ expression.tokens, vocabulary.Admits token) →
    expression.tree.ExpressionOver vocabulary
  | .integer numeral, admits => by
      have admitsNumeral := admits numeral.token List.mem_cons_self
      exact .integer (admitsNumeral.isValue numeral.category? numeral.value
        numeral.denotes)
  | .reference name, admits => by
      have admitsName := admits name.token List.mem_cons_self
      exact .reference (admitsName.isName name.category?)
  | .call name opening arguments closing, admits => by
      have admitsName := admits name.token List.mem_cons_self
      refine .call (admitsName.isName name.category?) ?_
      apply arguments.trees_over
      intro token member
      apply admits
      simp [Expression.tokens, member]

theorem Arguments.trees_over : (arguments : Arguments) →
    (∀ token ∈ arguments.tokens, vocabulary.Admits token) →
    ∀ tree ∈ arguments.trees, tree.ExpressionOver vocabulary
  | .none, _ => by simp [Arguments.trees]
  | .some first others, admits => by
      simp only [Arguments.tokens, List.mem_append] at admits
      simp only [Arguments.trees, List.mem_cons]
      rintro tree (rfl | later)
      · exact first.tree_over fun token member => admits token (Or.inl member)
      · exact others.trees_over (fun token member => admits token (Or.inr member))
          tree later

theorem MoreArguments.trees_over : (others : MoreArguments) →
    (∀ token ∈ others.tokens, vocabulary.Admits token) →
    ∀ tree ∈ others.trees, tree.ExpressionOver vocabulary
  | .none, _ => by simp [MoreArguments.trees]
  | .next comma argument others, admits => by
      simp only [MoreArguments.tokens, List.mem_cons, List.mem_append]
        at admits
      simp only [MoreArguments.trees, List.mem_cons]
      rintro tree (rfl | later)
      · exact argument.tree_over fun token member =>
          admits token (Or.inr (Or.inl member))
      · exact others.trees_over
          (fun token member => admits token (Or.inr (Or.inr member)))
          tree later

end

theorem Parameters.names_over (parameters : Parameters)
    (admits : ∀ token ∈ parameters.tokens, vocabulary.Admits token) :
    ∀ name ∈ parameters.names, vocabulary.isName name := by
  intro name member
  cases parameters with
  | none => cases member
  | some first others =>
      have admitsTerminal (terminal : Terminal .identifier)
          (inTokens : terminal.token ∈
            (Parameters.some first others).tokens) :
          vocabulary.isName terminal.token.lexeme :=
        (admits terminal.token inTokens).isName terminal.category?
      simp only [Parameters.names, List.mem_cons, List.mem_map] at member
      rcases member with rfl | ⟨⟨comma, other⟩, otherMem, rfl⟩
      · exact admitsTerminal first List.mem_cons_self
      · apply admitsTerminal other
        apply List.mem_cons_of_mem
        exact List.mem_flatMap.mpr ⟨(comma, other), otherMem, by simp⟩

theorem Definition.tree_over (definition : Definition)
    (admits : ∀ token ∈ definition.tokens, vocabulary.Admits token) :
    definition.tree.DefinitionOver vocabulary := by
  obtain ⟨define, name, opening, parameters, closing, body, finish⟩ :=
    definition
  simp only [Definition.tokens, List.mem_cons, List.mem_append] at admits
  refine .define ?_ ?_ ?_
  · exact (admits name.token (by simp)).isName name.category?
  · apply parameters.names_over
    intro token member
    exact admits token (by simp [member])
  · intro tree isBody
    obtain ⟨expression, rfl, rfl⟩ := Option.map_eq_some_iff.mp isBody
    apply expression.tree_over
    intro token member
    exact admits token (by simp [bodyTokens, member])

theorem Program.tree_over (program : Program)
    (admits : ∀ token ∈ program.tokens, vocabulary.Admits token) :
    program.tree.ProgramOver vocabulary := by
  refine .root fun tree member => ?_
  obtain ⟨definition, definitionMem, rfl⟩ := List.mem_map.mp member
  apply definition.tree_over
  intro token tokenMem
  exact admits token (List.mem_flatMap.mpr ⟨definition, definitionMem, tokenMem⟩)

end Derivation

namespace Vocabulary

/-- The names that are identifiers of a source, and the integers that can be
written. -/
def ofSource (source : Bytes) : Vocabulary where
  isName name := name.isName = true ∧
    ∃ token ∈ tokenize Registry.default source,
      token.kind = some Category.identifier.kind ∧ token.lexeme = name
  isValue value := 0 ≤ value ∧ value ≤ 2147483647

theorem ofSource_admits {source : Bytes} {token : Token}
    (member : token ∈ tokenize Registry.default source) :
    (ofSource source).Admits token := by
  obtain ⟨category, kindEq, spells⟩ := spells_of_mem_tokenize member
  have categoryEq : token.category? = some category :=
    Token.category?_eq_some_iff.mpr (Token.kindName?_of_kind kindEq)
  constructor
  · intro isIdentifier
    obtain rfl := Option.some.inj (categoryEq.symm.trans isIdentifier)
    exact ⟨spells, token, member, kindEq, rfl⟩
  · intro isInteger value denotes
    obtain rfl := Option.some.inj (categoryEq.symm.trans isInteger)
    obtain ⟨lexemeNe, areDigits⟩ := Category.spells_integer_iff.mp spells
    obtain ⟨rfl, small⟩ :=
      (Decimal.toWord?_eq_some_iff_of_isDigits ⟨lexemeNe, areDigits⟩).mp denotes
    exact ⟨Int.natCast_nonneg _, by omega⟩

end Vocabulary

theorem programOver_of_parse {source : Bytes} {root : Node}
    (accepted : parse (tokenize Registry.default source) = .ok root) :
    root.ProgramOver (.ofSource source) := by
  obtain ⟨program, tokensEq, rfl⟩ := Derivation.parse_eq_ok_iff.mp accepted
  apply program.tree_over
  intro token member
  rw [tokensEq] at member
  exact Vocabulary.ofSource_admits member

end Defun
