import Defun.Proofs.Transpiler
import Defun.Proofs.Tree.Vocabulary

/-!
# The language of the output

The output of any source that is a program has one line for each keyword that
begins a definition, and each line is a function of a fixed form.  Between the
fixed wording there are only canonical numerals, which are not too large, and
names, which are identifiers of the source.  Nothing else of the source reaches
the output.
-/

namespace Defun

namespace Output

/-- Decimal digits without superfluous zeros, of a value that fits. -/
structure IsNumeral (text : Bytes) : Prop where
  ne_nil : text ≠ []
  digits : ∀ octet ∈ text, Decimal.isDigit octet = true
  canonical : text.head? = some (Bytes.octet '0') → text = "0"
  small : Decimal.value text ≤ 2147483647

inductive IsExpression (isName : Bytes → Prop) : Bytes → Prop where
  | numeral {text : Bytes} (isNumeral : IsNumeral text) :
      IsExpression isName text
  | name {name : Bytes} (known : isName name) : IsExpression isName name
  | call {name : Bytes} {arguments : List Bytes} (known : isName name)
      (expressions : ∀ argument ∈ arguments, IsExpression isName argument) :
      IsExpression isName (name ++ "(" ++ Bytes.join ", " arguments ++ ")")

inductive IsFunction (isName : Bytes → Prop) : Bytes → Prop where
  | empty {name : Bytes} {parameters : List Bytes} (known : isName name)
      (knownAll : ∀ parameter ∈ parameters, isName parameter) :
      IsFunction isName ("function " ++ name ++ "(" ++
        Bytes.join ", " parameters ++ ") \x7b \x7d")
  | returning {name : Bytes} {parameters : List Bytes} {expression : Bytes}
      (known : isName name)
      (knownAll : ∀ parameter ∈ parameters, isName parameter)
      (isExpression : IsExpression isName expression) :
      IsFunction isName ("function " ++ name ++ "(" ++
        Bytes.join ", " parameters ++ ") \x7b return " ++ expression ++
        " \x7d")

theorem IsFunction.ne_nil {isName : Bytes → Prop} {line : Bytes}
    (isFunction : IsFunction isName line) : line ≠ [] := by
  have wordingNe : ("function " : Bytes) ≠ [] := by decide
  cases isFunction <;> simp [wordingNe]

theorem isNumeral_ofInt {value : Int}
    (inRange : 0 ≤ value ∧ value ≤ 2147483647) :
    IsNumeral (Decimal.ofInt value) := by
  obtain ⟨number, rfl⟩ := Int.eq_ofNat_of_zero_le inRange.1
  have unsigned : Decimal.ofInt number = Decimal.ofNat number := by
    rw [Decimal.ofInt, if_neg (by omega), Int.natAbs_natCast]
  rw [unsigned]
  refine ⟨Decimal.ofNat_ne_nil number,
    fun _ => Decimal.isDigit_of_mem_ofNat, ?_, ?_⟩
  · intro beginsWithZero
    rcases Nat.eq_zero_or_pos number with rfl | positive
    · rfl
    · exact absurd beginsWithZero (Decimal.head?_ofNat_ne_zero positive)
  · rw [Decimal.value_ofNat]
    omega

section Rendered

variable {vocabulary : Vocabulary}
  (small : ∀ value, vocabulary.isValue value →
    0 ≤ value ∧ value ≤ 2147483647)
include small

theorem isExpression_rendered {node : Node}
    (isOver : node.ExpressionOver vocabulary) :
    IsExpression vocabulary.isName node.rendered := by
  induction isOver with
  | integer isValue => exact .numeral (isNumeral_ofInt (small _ isValue))
  | reference isName => exact .name isName
  | call isName isOver ih =>
      rw [Node.rendered, Node.renderedAll_eq_map]
      refine .call isName fun text member => ?_
      obtain ⟨argument, argumentMem, rfl⟩ := List.mem_map.mp member
      exact ih argument argumentMem

theorem isFunction_rendered {node : Node}
    (isOver : node.DefinitionOver vocabulary) :
    IsFunction vocabulary.isName node.rendered := by
  obtain @⟨name, parameters, body, isName, areNames, isOver⟩ := isOver
  cases body with
  | none =>
      have lineEq : (Node.define name parameters []).rendered =
          "function " ++ name ++ "(" ++ Bytes.join ", " parameters ++
            ") \x7b \x7d" := by
        rw [Node.rendered, Node.renderedAll, Node.blockText,
          List.append_assoc]
        rfl
      rw [Option.toList_none, lineEq]
      exact .empty isName areNames
  | some expression =>
      have lineEq : (Node.define name parameters [expression]).rendered =
          "function " ++ name ++ "(" ++ Bytes.join ", " parameters ++
            ") \x7b return " ++ expression.rendered ++ " \x7d" := by
        simp only [Node.rendered, Node.renderedAll, Node.blockText,
          Node.statementText, List.append_assoc]
        rfl
      rw [Option.toList_some, lineEq]
      exact .returning isName areNames
        (isExpression_rendered small (isOver expression rfl))

end Rendered

end Output

/-- Whether a token is the keyword that begins a definition. -/
def Token.defines (token : Token) : Bool :=
  token.hasKind Category.define.name

theorem Terminal.defines_eq {category : Category}
    (terminal : Terminal category) :
    terminal.token.defines = decide (category = .define) := by
  rw [Token.defines, Token.hasKind, terminal.kindName?_eq]
  cases category <;> rfl

namespace Derivation

mutual

theorem Expression.not_defines : (expression : Expression) →
    ∀ token ∈ expression.tokens, token.defines = false
  | .integer numeral => by
      simpa [Expression.tokens] using numeral.toTerminal.defines_eq
  | .reference name => by
      simpa [Expression.tokens] using name.defines_eq
  | .call name opening arguments closing => by
      have inside := arguments.not_defines
      simp only [Expression.tokens, List.mem_cons, List.mem_append,
        List.not_mem_nil, or_false]
      rintro token (rfl | rfl | member | rfl)
      · exact name.defines_eq
      · exact opening.defines_eq
      · exact inside token member
      · exact closing.defines_eq

theorem Arguments.not_defines : (arguments : Arguments) →
    ∀ token ∈ arguments.tokens, token.defines = false
  | .none => by simp [Arguments.tokens]
  | .some first others => by
      have inFirst := first.not_defines
      have inOthers := others.not_defines
      simp only [Arguments.tokens, List.mem_append]
      rintro token (member | member)
      · exact inFirst token member
      · exact inOthers token member

theorem MoreArguments.not_defines : (others : MoreArguments) →
    ∀ token ∈ others.tokens, token.defines = false
  | .none => by simp [MoreArguments.tokens]
  | .next comma argument others => by
      have inArgument := argument.not_defines
      have inOthers := others.not_defines
      simp only [MoreArguments.tokens, List.mem_cons, List.mem_append]
      rintro token (rfl | member | member)
      · exact comma.defines_eq
      · exact inArgument token member
      · exact inOthers token member

end

theorem Parameters.not_defines (parameters : Parameters) :
    ∀ token ∈ parameters.tokens, token.defines = false := by
  cases parameters with
  | none => simp [Parameters.tokens]
  | some first others =>
      simp only [Parameters.tokens, List.mem_cons, List.mem_flatMap,
        List.not_mem_nil, or_false]
      rintro token (rfl | ⟨⟨comma, name⟩, _, rfl | rfl⟩)
      · exact first.defines_eq
      · exact comma.defines_eq
      · exact name.defines_eq

@[simp]
theorem Definition.countP_defines (definition : Definition) :
    definition.tokens.countP Token.defines = 1 := by
  obtain ⟨define, name, opening, parameters, closing, body, finish⟩ :=
    definition
  have noneInParameters : parameters.tokens.countP Token.defines = 0 := by
    rw [List.countP_eq_zero]
    intro token member
    simp [parameters.not_defines token member]
  have noneInBody : (bodyTokens body).countP Token.defines = 0 := by
    rw [List.countP_eq_zero]
    intro token member
    cases body with
    | none => cases member
    | some expression => simp [expression.not_defines token member]
  simp [Definition.tokens, List.countP_append, noneInParameters, noneInBody,
    Terminal.defines_eq]

@[simp]
theorem Program.countP_defines (program : Program) :
    program.tokens.countP Token.defines = program.definitions.length := by
  obtain ⟨definitions⟩ := program
  rw [Program.tokens]
  induction definitions with
  | nil => rfl
  | cons definition others ih =>
      rw [List.flatMap_cons, List.countP_append, definition.countP_defines,
        ih, List.length_cons, Nat.add_comm]

end Derivation

/-- The output has a function for each definition, made of fixed wording, small
numerals and identifiers of the source. -/
theorem transpile_output_language {source output : Bytes}
    (transpiled : transpile Registry.default source = .ok output) :
    ∃ lines : List Bytes, output = Bytes.unlines lines ∧
      lines.length =
        (tokenize Registry.default source).countP Token.defines ∧
      ∀ line ∈ lines,
        Output.IsFunction (Vocabulary.ofSource source).isName line := by
  obtain ⟨body, accepted, rfl⟩ := exists_body_of_transpile transpiled
  obtain ⟨isOver⟩ := programOver_of_parse accepted
  have functions : ∀ line ∈ body.map Node.rendered,
      Output.IsFunction (Vocabulary.ofSource source).isName line := by
    intro line member
    obtain ⟨definition, definitionMem, rfl⟩ := List.mem_map.mp member
    exact Output.isFunction_rendered (fun _ inRange => inRange)
      (isOver definition definitionMem)
  refine ⟨body.map Node.rendered, ?_, ?_, functions⟩
  · apply Bytes.stacked_of_ne_nil
    intro line member
    exact (functions line member).ne_nil
  · obtain ⟨program, tokensEq, treeEq⟩ :=
      Derivation.parse_eq_ok_iff.mp accepted
    cases treeEq
    rw [← tokensEq, program.countP_defines, List.length_map, List.length_map]

/-- Skipped bytes and leading zeros stay behind. -/
theorem transpile_output_language_skipped :
    transpile Registry.default "; def return(9_y) # f(007, y) end" =
      .ok "function return(y) \x7b return f(7, y) \x7d" ∧
    ∃ lines : List Bytes,
      Bytes.ofString "function return(y) \x7b return f(7, y) \x7d" =
        Bytes.unlines lines ∧
      lines.length = (tokenize Registry.default
        "; def return(9_y) # f(007, y) end").countP Token.defines ∧
      ∀ line ∈ lines, Output.IsFunction (Vocabulary.ofSource
        "; def return(9_y) # f(007, y) end").isName line := by
  have transpiled : transpile Registry.default
      "; def return(9_y) # f(007, y) end" =
      .ok "function return(y) \x7b return f(7, y) \x7d" := by
    decide +kernel
  exact ⟨transpiled, transpile_output_language transpiled⟩

end Defun
