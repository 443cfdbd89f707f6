import Defun.Proofs.Grammar.Places

/-!
# Derivations

The grammar, written as a type of derivations: a program is any number of
definitions, a definition is `def name ( parameters ) body end`, and an
expression is an integer, a name, or a name with arguments in parentheses.  A
derivation holds all its terminals.  Its tokens are those terminals in order,
and its tree is what they mean.

The tokens of an expression end where the next token cannot open a list of
arguments, so that a sequence of tokens has at most one derivation.
-/

namespace Defun

namespace Derivation

mutual

/-- `expr = INTEGER | IDENT | IDENT "(" arguments ")"` -/
inductive Expression where
  | integer (numeral : Numeral)
  | reference (name : Terminal .identifier)
  | call (name : Terminal .identifier) (opening : Terminal .opening)
      (arguments : Arguments) (closing : Terminal .closing)

/-- `arguments = (expr ("," expr)*)?` -/
inductive Arguments where
  | none
  | some (first : Expression) (others : MoreArguments)

/-- The arguments behind the first, each behind a comma. -/
inductive MoreArguments where
  | none
  | next (comma : Terminal .comma) (argument : Expression)
      (others : MoreArguments)

end

/-- `parameters = (IDENT ("," IDENT)*)?` -/
inductive Parameters where
  | none
  | some (first : Terminal .identifier)
      (others : List (Terminal .comma × Terminal .identifier))

/-- `def = DEF IDENT "(" parameters ")" expr? END` -/
structure Definition where
  define : Terminal .define
  name : Terminal .identifier
  opening : Terminal .opening
  parameters : Parameters
  closing : Terminal .closing
  body : Option Expression
  finish : Terminal .finish

/-- `root = def*` -/
structure Program where
  definitions : List Definition

mutual

def Expression.tokens : Expression → List Token
  | .integer numeral => [numeral.token]
  | .reference name => [name.token]
  | .call name opening arguments closing =>
      name.token :: opening.token :: (arguments.tokens ++ [closing.token])

def Arguments.tokens : Arguments → List Token
  | .none => []
  | .some first others => first.tokens ++ others.tokens

def MoreArguments.tokens : MoreArguments → List Token
  | .none => []
  | .next comma argument others =>
      comma.token :: (argument.tokens ++ others.tokens)

end

mutual

def Expression.tree : Expression → Node
  | .integer numeral => .integer numeral.value
  | .reference name => .reference name.token.lexeme
  | .call name _ arguments _ => .call name.token.lexeme arguments.trees

def Arguments.trees : Arguments → List Node
  | .none => []
  | .some first others => first.tree :: others.trees

def MoreArguments.trees : MoreArguments → List Node
  | .none => []
  | .next _ argument others => argument.tree :: others.trees

end

def Parameters.tokens : Parameters → List Token
  | .none => []
  | .some first others =>
      first.token :: others.flatMap fun (comma, name) =>
        [comma.token, name.token]

def Parameters.names : Parameters → List Bytes
  | .none => []
  | .some first others =>
      first.token.lexeme :: others.map fun (_, name) => name.token.lexeme

/-- The tokens of a body, which may be empty. -/
def bodyTokens : Option Expression → List Token
  | none => []
  | some expression => expression.tokens

def Definition.tokens (definition : Definition) : List Token :=
  definition.define.token :: definition.name.token ::
    definition.opening.token ::
      (definition.parameters.tokens ++ definition.closing.token ::
        (bodyTokens definition.body ++ [definition.finish.token]))

def Definition.tree (definition : Definition) : Node :=
  .define definition.name.token.lexeme definition.parameters.names
    (definition.body.map Expression.tree).toList

def Program.tokens (program : Program) : List Token :=
  program.definitions.flatMap Definition.tokens

def Program.tree (program : Program) : Node :=
  .root (program.definitions.map Definition.tree)

/-- An expression begins with an integer or an identifier. -/
theorem Expression.exists_tokens_cons (expression : Expression) :
    ∃ token rest, expression.tokens = token :: rest ∧
      (token.category? = some .integer ∨
        token.category? = some .identifier) := by
  cases expression with
  | integer numeral =>
      exact ⟨_, _, rfl, Or.inl numeral.category?⟩
  | reference name => exact ⟨_, _, rfl, Or.inr name.category?⟩
  | call name opening arguments closing =>
      exact ⟨_, _, rfl, Or.inr name.category?⟩

theorem notOpening_cons {category : Category} (terminal : Terminal category)
    (different : category ≠ .opening) (rest : List Token) :
    NotOpening (terminal.token :: rest) := by
  intro token first
  cases first
  rw [terminal.category?]
  simpa using different

theorem MoreArguments.notOpening (others : MoreArguments)
    (closing : Terminal .closing) (rest : List Token) :
    NotOpening (others.tokens ++ closing.token :: rest) := by
  cases others with
  | none => exact notOpening_cons closing (by decide) rest
  | next comma argument others =>
      exact notOpening_cons comma (by decide) _

/-- The tokens of an expression never begin like a terminal of another
category. -/
theorem Expression.tokens_append_ne {category : Category}
    (expression : Expression) (terminal : Terminal category)
    (notInteger : category ≠ .integer)
    (notIdentifier : category ≠ .identifier) (rest following : List Token) :
    terminal.token :: rest ≠ expression.tokens ++ following := by
  intro equal
  obtain ⟨token, others, tokensEq, begins⟩ := expression.exists_tokens_cons
  rw [tokensEq, List.cons_append, List.cons.injEq] at equal
  rw [← equal.1, terminal.category?] at begins
  rcases begins with isInteger | isIdentifier
  · exact notInteger (Option.some.inj isInteger)
  · exact notIdentifier (Option.some.inj isIdentifier)

mutual

theorem Expression.unique :
    (first second : Expression) → {afterFirst afterSecond : List Token} →
    first.tokens ++ afterFirst = second.tokens ++ afterSecond →
    NotOpening afterFirst → NotOpening afterSecond →
    first = second ∧ afterFirst = afterSecond
  | .integer first, .integer second, _, _, equal, _, _ => by
      simp only [Expression.tokens, List.cons_append, List.nil_append,
        List.cons.injEq] at equal
      exact ⟨congrArg _ (Numeral.eq_of_token equal.1), equal.2⟩
  | .integer first, .reference second, _, _, equal, _, _ => by
      cases Terminal.category_eq first.toTerminal second
        (List.cons.inj equal).1
  | .integer first, .call second _ _ _, _, _, equal, _, _ => by
      cases Terminal.category_eq first.toTerminal second
        (List.cons.inj equal).1
  | .reference first, .integer second, _, _, equal, _, _ => by
      cases Terminal.category_eq first second.toTerminal
        (List.cons.inj equal).1
  | .reference first, .reference second, _, _, equal, _, _ => by
      simp only [Expression.tokens, List.cons_append, List.nil_append,
        List.cons.injEq] at equal
      exact ⟨congrArg _ (Terminal.ext equal.1), equal.2⟩
  | .reference first, .call second opening _ _, _, _, equal, firstEnds, _ => by
      simp only [Expression.tokens, List.cons_append, List.nil_append,
        List.cons.injEq] at equal
      rw [equal.2] at firstEnds
      exact (firstEnds opening.token rfl opening.category?).elim
  | .call first _ _ _, .integer second, _, _, equal, _, _ => by
      cases Terminal.category_eq first second.toTerminal
        (List.cons.inj equal).1
  | .call first opening _ _, .reference second, _, _, equal, _, secondEnds => by
      simp only [Expression.tokens, List.cons_append, List.nil_append,
        List.cons.injEq] at equal
      rw [← equal.2] at secondEnds
      exact (secondEnds opening.token rfl opening.category?).elim
  | .call first opening arguments closing,
      .call second opening' arguments' closing', _, _, equal, _, _ => by
      simp only [Expression.tokens, List.cons_append, List.append_assoc,
        List.nil_append, List.cons.injEq] at equal
      obtain ⟨nameEq, openingEq, insideEq⟩ := equal
      obtain ⟨argumentsEq, closingEq, afterEq⟩ :=
        Arguments.unique arguments arguments' insideEq
      rw [Terminal.ext nameEq, Terminal.ext openingEq, argumentsEq, closingEq]
      exact ⟨rfl, afterEq⟩

theorem Arguments.unique :
    (first second : Arguments) → {firstClosing secondClosing :
      Terminal .closing} → {afterFirst afterSecond : List Token} →
    first.tokens ++ firstClosing.token :: afterFirst =
      second.tokens ++ secondClosing.token :: afterSecond →
    first = second ∧ firstClosing = secondClosing ∧ afterFirst = afterSecond
  | .none, .none, _, _, _, _, equal => by
      simp only [Arguments.tokens, List.nil_append, List.cons.injEq] at equal
      exact ⟨rfl, Terminal.ext equal.1, equal.2⟩
  | .none, .some first _, closing, _, _, _, equal => by
      simp only [Arguments.tokens, List.nil_append, List.append_assoc] at equal
      exact (first.tokens_append_ne closing (by decide) (by decide) _ _
        equal).elim
  | .some first _, .none, _, closing, _, _, equal => by
      simp only [Arguments.tokens, List.nil_append, List.append_assoc] at equal
      exact (first.tokens_append_ne closing (by decide) (by decide) _ _
        equal.symm).elim
  | .some first others, .some second others', closing, closing', _, _,
      equal => by
      simp only [Arguments.tokens, List.append_assoc] at equal
      obtain ⟨firstEq, restEq⟩ := Expression.unique first second equal
        (others.notOpening closing _) (others'.notOpening closing' _)
      obtain ⟨othersEq, closingEq, afterEq⟩ :=
        MoreArguments.unique others others' restEq
      exact ⟨by rw [firstEq, othersEq], closingEq, afterEq⟩

theorem MoreArguments.unique :
    (first second : MoreArguments) → {firstClosing secondClosing :
      Terminal .closing} → {afterFirst afterSecond : List Token} →
    first.tokens ++ firstClosing.token :: afterFirst =
      second.tokens ++ secondClosing.token :: afterSecond →
    first = second ∧ firstClosing = secondClosing ∧ afterFirst = afterSecond
  | .none, .none, _, _, _, _, equal => by
      simp only [MoreArguments.tokens, List.nil_append, List.cons.injEq]
        at equal
      exact ⟨rfl, Terminal.ext equal.1, equal.2⟩
  | .none, .next comma _ _, closing, _, _, _, equal => by
      cases Terminal.category_eq closing comma (List.cons.inj equal).1
  | .next comma _ _, .none, _, closing, _, _, equal => by
      cases Terminal.category_eq comma closing (List.cons.inj equal).1
  | .next comma argument others, .next comma' argument' others',
      closing, closing', _, _, equal => by
      simp only [MoreArguments.tokens, List.cons_append, List.append_assoc,
        List.cons.injEq] at equal
      obtain ⟨argumentEq, restEq⟩ := Expression.unique argument argument'
        equal.2 (others.notOpening closing _) (others'.notOpening closing' _)
      obtain ⟨othersEq, closingEq, afterEq⟩ :=
        MoreArguments.unique others others' restEq
      exact ⟨by rw [Terminal.ext equal.1, argumentEq, othersEq], closingEq,
        afterEq⟩

end

private theorem moreParameters_unique
    (first second : List (Terminal .comma × Terminal .identifier))
    {firstClosing secondClosing : Terminal .closing}
    {afterFirst afterSecond : List Token}
    (equal : (first.flatMap fun (comma, name) => [comma.token, name.token]) ++
        firstClosing.token :: afterFirst =
      (second.flatMap fun (comma, name) => [comma.token, name.token]) ++
        secondClosing.token :: afterSecond) :
    first = second ∧ firstClosing = secondClosing ∧
      afterFirst = afterSecond := by
  induction first generalizing second with
  | nil =>
      cases second with
      | nil =>
          simp only [List.flatMap_nil, List.nil_append, List.cons.injEq]
            at equal
          exact ⟨rfl, Terminal.ext equal.1, equal.2⟩
      | cons parameter others =>
          cases Terminal.category_eq firstClosing parameter.1
            (List.cons.inj equal).1
  | cons parameter others ih =>
      cases second with
      | nil =>
          cases Terminal.category_eq parameter.1 secondClosing
            (List.cons.inj equal).1
      | cons parameter' others' =>
          simp only [List.flatMap_cons, List.cons_append, List.nil_append,
            List.cons.injEq] at equal
          obtain ⟨commaEq, nameEq, restEq⟩ := equal
          obtain ⟨othersEq, closingEq, afterEq⟩ := ih others' restEq
          rw [othersEq, Prod.ext (Terminal.ext commaEq) (Terminal.ext nameEq)]
          exact ⟨rfl, closingEq, afterEq⟩

theorem Parameters.unique (first second : Parameters)
    {firstClosing secondClosing : Terminal .closing}
    {afterFirst afterSecond : List Token}
    (equal : first.tokens ++ firstClosing.token :: afterFirst =
      second.tokens ++ secondClosing.token :: afterSecond) :
    first = second ∧ firstClosing = secondClosing ∧
      afterFirst = afterSecond := by
  cases first with
  | none =>
      cases second with
      | none =>
          simp only [Parameters.tokens, List.nil_append, List.cons.injEq]
            at equal
          exact ⟨rfl, Terminal.ext equal.1, equal.2⟩
      | some name others =>
          cases Terminal.category_eq firstClosing name
            (List.cons.inj equal).1
  | some name others =>
      cases second with
      | none =>
          cases Terminal.category_eq name secondClosing
            (List.cons.inj equal).1
      | some name' others' =>
          simp only [Parameters.tokens, List.cons_append, List.cons.injEq]
            at equal
          obtain ⟨othersEq, closingEq, afterEq⟩ :=
            moreParameters_unique others others' equal.2
          rw [Terminal.ext equal.1, othersEq]
          exact ⟨rfl, closingEq, afterEq⟩

theorem body_unique (first second : Option Expression)
    {firstFinish secondFinish : Terminal .finish}
    {afterFirst afterSecond : List Token}
    (equal : bodyTokens first ++ firstFinish.token :: afterFirst =
      bodyTokens second ++ secondFinish.token :: afterSecond) :
    first = second ∧ firstFinish = secondFinish ∧
      afterFirst = afterSecond := by
  cases first with
  | none =>
      cases second with
      | none =>
          simp only [bodyTokens, List.nil_append, List.cons.injEq] at equal
          exact ⟨rfl, Terminal.ext equal.1, equal.2⟩
      | some expression =>
          exact (expression.tokens_append_ne firstFinish (by decide)
            (by decide) _ _ equal).elim
  | some expression =>
      cases second with
      | none =>
          exact (expression.tokens_append_ne secondFinish (by decide)
            (by decide) _ _ equal.symm).elim
      | some expression' =>
          obtain ⟨expressionEq, restEq⟩ := expression.unique expression' equal
            (notOpening_cons firstFinish (by decide) _)
            (notOpening_cons secondFinish (by decide) _)
          rw [List.cons.injEq] at restEq
          rw [expressionEq]
          exact ⟨rfl, Terminal.ext restEq.1, restEq.2⟩

theorem Definition.unique (first second : Definition)
    {afterFirst afterSecond : List Token}
    (equal : first.tokens ++ afterFirst = second.tokens ++ afterSecond) :
    first = second ∧ afterFirst = afterSecond := by
  obtain ⟨define, name, opening, parameters, closing, body, finish⟩ := first
  obtain ⟨define', name', opening', parameters', closing', body', finish'⟩ :=
    second
  simp only [Definition.tokens, List.cons_append, List.append_assoc,
    List.nil_append, List.cons.injEq] at equal
  obtain ⟨defineEq, nameEq, openingEq, insideEq⟩ := equal
  obtain ⟨parametersEq, closingEq, bodyTokensEq⟩ :=
    parameters.unique parameters' insideEq
  obtain ⟨bodyEq, finishEq, afterEq⟩ := body_unique body body' bodyTokensEq
  rw [Terminal.ext defineEq, Terminal.ext nameEq, Terminal.ext openingEq,
    parametersEq, closingEq, bodyEq, finishEq]
  exact ⟨rfl, afterEq⟩

/-- A sequence of tokens is derived from at most one program. -/
theorem Program.tokens_injective : Function.Injective Program.tokens := by
  rintro ⟨first⟩ ⟨second⟩ equal
  rw [Program.mk.injEq]
  simp only [Program.tokens] at equal
  induction first generalizing second with
  | nil =>
      cases second with
      | nil => rfl
      | cons definition others => cases equal
  | cons definition others ih =>
      cases second with
      | nil => cases equal
      | cons definition' others' =>
          rw [List.flatMap_cons, List.flatMap_cons] at equal
          obtain ⟨definitionEq, restEq⟩ := definition.unique definition' equal
          rw [definitionEq, ih others' restEq]

/-- A sequence of tokens is derived from at most one expression. -/
theorem Expression.tokens_injective :
    Function.Injective Expression.tokens := by
  intro first second equal
  exact (first.unique second (by rw [equal]) notOpening_nil
    notOpening_nil).1

end Derivation

end Defun
