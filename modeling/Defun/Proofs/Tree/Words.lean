import Defun.Proofs.Grammar.Recognition
import Defun.Proofs.Text.Numeral
import Defun.Proofs.Token.Layout

/-!
# The words of a program

The trees of programs that can be written down are those whose names are words
of letters and whose integers are not negative.  Their words, in order, are
derived from the grammar with the tree that they come from.
-/

namespace Defun

namespace Node

mutual

/-- Whether a tree is an expression that can be written. -/
def isExpression : Node → Bool
  | integer value => decide (0 ≤ value ∧ value ≤ 2147483647)
  | reference name => name.isName
  | call name arguments => name.isName && areExpressions arguments
  | _ => false

/-- Whether trees are expressions that can be written. -/
def areExpressions : List Node → Bool
  | [] => true
  | node :: rest => node.isExpression && areExpressions rest

end

/-- Whether a tree is a definition that can be written. -/
def isDefinition : Node → Bool
  | define name parameters body =>
      name.isName && parameters.all Bytes.isName &&
        decide (body.length ≤ 1) && areExpressions body
  | _ => false

/-- Whether a tree is a program that can be written. -/
def isProgram : Node → Bool
  | root body => body.all isDefinition
  | _ => false

end Node

namespace Word

/-- A name as a word. -/
def name (text : Bytes) : Word := ⟨.identifier, text⟩

/-- The words that are always written alike. -/
def define : Word := ⟨.define, "def"⟩

def finish : Word := ⟨.finish, "end"⟩

def opening : Word := ⟨.opening, "("⟩

def closing : Word := ⟨.closing, ")"⟩

def comma : Word := ⟨.comma, ","⟩

/-- The words of some parts with commas between them. -/
def separated : List (List Word) → List Word
  | [] => []
  | first :: rest => first ++ rest.flatMap fun part => comma :: part

/-- The words of some parts in parentheses. -/
def listed (parts : List (List Word)) : List Word :=
  opening :: (separated parts ++ [closing])

end Word

namespace Node

mutual

/-- The words of a tree in order. -/
def words : Node → List Word
  | root body => (wordsAll body).flatten
  | define name parameters body =>
      .define :: .name name ::
        (Word.listed (parameters.map fun parameter => [.name parameter]) ++
          (wordsAll body).flatten ++ [.finish])
  | call name arguments => .name name :: Word.listed (wordsAll arguments)
  | integer value => [⟨.integer, Decimal.ofInt value⟩]
  | reference name => [.name name]
  | missing => []

/-- The words of some trees. -/
def wordsAll : List Node → List (List Word)
  | [] => []
  | node :: rest => node.words :: wordsAll rest

end

end Node

namespace Word

theorem isPlain_numeral {value : Int} (notNegative : 0 ≤ value) :
    (⟨.integer, Decimal.ofInt value⟩ : Word).isPlain = true := by
  rw [isPlain, Decimal.ofInt, if_neg (by omega), Category.spells_integer_iff]
  exact ⟨Decimal.ofNat_ne_nil _, fun _ => Decimal.isDigit_of_mem_ofNat⟩

theorem isPlain_of_mem_listed {parts : List (List Word)}
    (plain : ∀ part ∈ parts, ∀ word ∈ part, word.isPlain = true)
    {word : Word} (member : word ∈ listed parts) : word.isPlain = true := by
  cases parts with
  | nil =>
      simp only [listed, separated, List.nil_append, List.mem_cons,
        List.not_mem_nil, or_false] at member
      rcases member with rfl | rfl <;> rfl
  | cons first rest =>
      simp only [listed, separated, List.mem_cons, List.mem_append,
        List.mem_flatMap, List.not_mem_nil, or_false] at member
      rcases member with rfl | (inFirst | ⟨part, partMem, rfl | inPart⟩) | rfl
      · rfl
      · exact plain first List.mem_cons_self word inFirst
      · rfl
      · exact plain part (List.mem_cons_of_mem _ partMem) word inPart
      · rfl

end Word

namespace Node

mutual

theorem isPlain_of_mem_words : (node : Node) → node.isExpression = true →
    ∀ word ∈ node.words, word.isPlain = true
  | integer value, isExpression, word, member => by
      rw [Node.isExpression, decide_eq_true_eq] at isExpression
      rw [words, List.mem_singleton] at member
      rw [member]
      exact Word.isPlain_numeral isExpression.1
  | reference name, isExpression, word, member => by
      rw [words, List.mem_singleton] at member
      rw [member]
      exact isExpression
  | call name arguments, isExpression, word, member => by
      rw [Node.isExpression, Bool.and_eq_true] at isExpression
      rw [words, List.mem_cons] at member
      rcases member with rfl | listed
      · exact isExpression.1
      · exact Word.isPlain_of_mem_listed
          (isPlain_of_mem_wordsAll arguments isExpression.2) listed

theorem isPlain_of_mem_wordsAll : (nodes : List Node) →
    areExpressions nodes = true →
    ∀ part ∈ wordsAll nodes, ∀ word ∈ part, word.isPlain = true
  | [], _, part, member => by cases member
  | node :: rest, areExpressions, part, member => by
      rw [Node.areExpressions, Bool.and_eq_true] at areExpressions
      rw [wordsAll, List.mem_cons] at member
      rcases member with rfl | later
      · exact isPlain_of_mem_words node areExpressions.1
      · exact isPlain_of_mem_wordsAll rest areExpressions.2 part later

end

theorem isPlain_of_mem_definition {node : Node}
    (isDefinition : node.isDefinition = true) {word : Word}
    (member : word ∈ node.words) : word.isPlain = true := by
  cases node with
  | define name parameters body =>
      simp only [Node.isDefinition, Bool.and_eq_true, List.all_eq_true]
        at isDefinition
      obtain ⟨⟨⟨isName, areNames⟩, _⟩, areExpressions⟩ := isDefinition
      have plainParameters : ∀ part ∈ parameters.map fun parameter =>
          [Word.name parameter], ∀ word ∈ part, word.isPlain = true := by
        intro part partMem word wordMem
        obtain ⟨parameter, parameterMem, rfl⟩ := List.mem_map.mp partMem
        rw [List.mem_singleton.mp wordMem]
        exact areNames parameter parameterMem
      simp only [words, List.mem_cons, List.mem_append, List.not_mem_nil,
        or_false] at member
      rcases member with rfl | rfl | (listed | inBody) | rfl
      · rfl
      · exact isName
      · exact Word.isPlain_of_mem_listed plainParameters listed
      · obtain ⟨part, partMem, wordMem⟩ := List.mem_flatten.mp inBody
        exact isPlain_of_mem_wordsAll body areExpressions part partMem word
          wordMem
      · rfl
  | _ => cases isDefinition

@[simp]
theorem wordsAll_eq_map (nodes : List Node) :
    wordsAll nodes = nodes.map words := by
  induction nodes with
  | nil => rfl
  | cons node rest ih => rw [wordsAll, ih, List.map_cons]

/-- The default registry reads every word of a program back. -/
theorem isPlain_of_mem_program {root : Node}
    (isProgram : root.isProgram = true) :
    ∀ word ∈ root.words, word.isPlain = true := by
  cases root with
  | root body =>
      rw [Node.isProgram, List.all_eq_true] at isProgram
      intro word member
      rw [words, wordsAll_eq_map, ← List.flatMap_def] at member
      obtain ⟨node, nodeMem, wordMem⟩ := List.mem_flatMap.mp member
      exact isPlain_of_mem_definition (isProgram node nodeMem) wordMem
  | _ => cases isProgram

end Node

theorem exists_append_of_forall₂ {tokens : List Token}
    {first second : List Word}
    (writes : List.Forall₂ Token.Writes tokens (first ++ second)) :
    ∃ before after, tokens = before ++ after ∧
      List.Forall₂ Token.Writes before first ∧
      List.Forall₂ Token.Writes after second :=
  ⟨_, _, (List.take_append_drop first.length tokens).symm,
    List.forall₂_take_append tokens first second writes,
    List.forall₂_drop_append tokens first second writes⟩

namespace Token.Writes

/-- The terminal that a token of a word is. -/
def terminal {token : Token} {word : Word} (writes : token.Writes word) :
    Terminal word.category :=
  ⟨token, Token.kindName?_of_kind writes.1⟩

theorem lexeme_eq {token : Token} {text : Bytes}
    (writes : token.Writes (.name text)) : token.lexeme = text := by
  obtain ⟨zeros, lexemeEq⟩ := writes.2
  exact lexemeEq

theorem toWord?_eq {token : Token} {value : Int}
    (writes : token.Writes ⟨.integer, Decimal.ofInt value⟩)
    (fits : 0 ≤ value ∧ value ≤ 2147483647) :
    Decimal.toWord? token.lexeme = some value := by
  obtain ⟨number, rfl⟩ := Int.eq_ofNat_of_zero_le fits.1
  obtain ⟨zeros, lexemeEq⟩ := writes.2
  rw [lexemeEq, Word.written, if_pos rfl, Decimal.ofInt,
    if_neg (by omega)]
  exact Decimal.toWord?_zeros_ofNat zeros (by omega)

end Token.Writes

namespace Derivation

mutual

/-- The tokens of an expression are derived with its tree. -/
theorem exists_expression_of_words : (node : Node) →
    node.isExpression = true → (tokens : List Token) →
    List.Forall₂ Token.Writes tokens node.words →
    ∃ expression : Expression, expression.tokens = tokens ∧
      expression.tree = node
  | .integer value, isExpression, tokens, writes => by
      rw [Node.isExpression, decide_eq_true_eq] at isExpression
      rw [Node.words] at writes
      cases writes with
      | cons writesFirst writesRest =>
          cases writesRest
          exact ⟨.integer ⟨writesFirst.terminal, value,
            writesFirst.toWord?_eq isExpression⟩, rfl, rfl⟩
  | .reference name, isExpression, tokens, writes => by
      rw [Node.words] at writes
      cases writes with
      | cons writesName writesRest =>
          cases writesRest
          exact ⟨.reference writesName.terminal, rfl,
            congrArg Node.reference writesName.lexeme_eq⟩
  | .call name arguments, isExpression, tokens, writes => by
      rw [Node.isExpression, Bool.and_eq_true] at isExpression
      rw [Node.words, Word.listed] at writes
      cases writes with
      | cons writesName writesList =>
          cases writesList with
          | cons writesOpening writesRest =>
              obtain ⟨between, last, rfl, writesArguments, writesLast⟩ :=
                exists_append_of_forall₂ writesRest
              cases writesLast with
              | cons writesClosing writesNothing =>
                  cases writesNothing
                  obtain ⟨derived, rfl, treesEq⟩ :=
                    exists_arguments_of_words arguments isExpression.2 between
                      writesArguments
                  exact ⟨.call writesName.terminal writesOpening.terminal
                    derived writesClosing.terminal, rfl,
                    congrArg₂ Node.call writesName.lexeme_eq treesEq⟩

theorem exists_arguments_of_words : (nodes : List Node) →
    Node.areExpressions nodes = true → (tokens : List Token) →
    List.Forall₂ Token.Writes tokens
      (Word.separated (Node.wordsAll nodes)) →
    ∃ arguments : Arguments, arguments.tokens = tokens ∧
      arguments.trees = nodes
  | [], _, tokens, writes => by
      cases writes
      exact ⟨.none, rfl, rfl⟩
  | node :: rest, areExpressions, tokens, writes => by
      rw [Node.areExpressions, Bool.and_eq_true] at areExpressions
      rw [Node.wordsAll, Word.separated] at writes
      obtain ⟨before, after, rfl, writesFirst, writesOthers⟩ :=
        exists_append_of_forall₂ writes
      obtain ⟨first, rfl, firstTree⟩ := exists_expression_of_words node
        areExpressions.1 before writesFirst
      obtain ⟨others, rfl, otherTrees⟩ := exists_moreArguments_of_words rest
        areExpressions.2 after writesOthers
      exact ⟨.some first others, rfl,
        congrArg₂ List.cons firstTree otherTrees⟩

theorem exists_moreArguments_of_words : (nodes : List Node) →
    Node.areExpressions nodes = true → (tokens : List Token) →
    List.Forall₂ Token.Writes tokens
      ((Node.wordsAll nodes).flatMap fun part => .comma :: part) →
    ∃ others : MoreArguments, others.tokens = tokens ∧ others.trees = nodes
  | [], _, tokens, writes => by
      cases writes
      exact ⟨.none, rfl, rfl⟩
  | node :: rest, areExpressions, tokens, writes => by
      rw [Node.areExpressions, Bool.and_eq_true] at areExpressions
      rw [Node.wordsAll, List.flatMap_cons, List.cons_append] at writes
      cases writes with
      | cons writesComma writesRest =>
          obtain ⟨before, after, rfl, writesFirst, writesOthers⟩ :=
            exists_append_of_forall₂ writesRest
          obtain ⟨argument, rfl, argumentTree⟩ := exists_expression_of_words
            node areExpressions.1 before writesFirst
          obtain ⟨others, rfl, otherTrees⟩ := exists_moreArguments_of_words
            rest areExpressions.2 after writesOthers
          exact ⟨.next writesComma.terminal argument others, rfl,
            congrArg₂ List.cons argumentTree otherTrees⟩

end

theorem exists_moreParameters_of_words {names : List Bytes}
    {tokens : List Token}
    (writes : List.Forall₂ Token.Writes tokens
      ((names.map fun name => [Word.name name]).flatMap fun part =>
        .comma :: part)) :
    ∃ others : List (Terminal .comma × Terminal .identifier),
      (others.flatMap fun (comma, name) => [comma.token, name.token]) =
          tokens ∧
        (others.map fun (_, name) => name.token.lexeme) = names := by
  induction names generalizing tokens with
  | nil =>
      cases writes
      exact ⟨[], rfl, rfl⟩
  | cons name rest ih =>
      cases writes with
      | cons writesComma writesRest =>
          cases writesRest with
          | cons writesName writesOthers =>
              obtain ⟨others, rfl, otherNames⟩ := ih writesOthers
              exact ⟨(writesComma.terminal, writesName.terminal) :: others,
                rfl, congrArg₂ List.cons writesName.lexeme_eq otherNames⟩

theorem exists_parameters_of_words {names : List Bytes}
    {tokens : List Token}
    (writes : List.Forall₂ Token.Writes tokens
      (Word.separated (names.map fun name => [Word.name name]))) :
    ∃ parameters : Parameters, parameters.tokens = tokens ∧
      parameters.names = names := by
  cases names with
  | nil =>
      cases writes
      exact ⟨.none, rfl, rfl⟩
  | cons name rest =>
      cases writes with
      | cons writesName writesOthers =>
          obtain ⟨others, rfl, otherNames⟩ :=
            exists_moreParameters_of_words writesOthers
          exact ⟨.some writesName.terminal others, rfl,
            congrArg₂ List.cons writesName.lexeme_eq otherNames⟩

theorem exists_body_of_words {body : List Node}
    (short : body.length ≤ 1)
    (areExpressions : Node.areExpressions body = true) {tokens : List Token}
    (writes : List.Forall₂ Token.Writes tokens
      (Node.wordsAll body).flatten) :
    ∃ expression : Option Expression, bodyTokens expression = tokens ∧
      (expression.map Expression.tree).toList = body := by
  cases body with
  | nil =>
      cases writes
      exact ⟨none, rfl, rfl⟩
  | cons node rest =>
      obtain rfl : rest = [] := by
        rw [List.length_cons] at short
        exact List.eq_nil_of_length_eq_zero (by omega)
      rw [Node.areExpressions, Bool.and_eq_true] at areExpressions
      rw [Node.wordsAll, Node.wordsAll, List.flatten_cons, List.flatten_nil,
        List.append_nil] at writes
      obtain ⟨expression, rfl, treeEq⟩ :=
        exists_expression_of_words node areExpressions.1 tokens writes
      exact ⟨some expression, rfl, congrArg (fun tree => [tree]) treeEq⟩

theorem exists_definition_of_words {node : Node}
    (isDefinition : node.isDefinition = true) {tokens : List Token}
    (writes : List.Forall₂ Token.Writes tokens node.words) :
    ∃ definition : Definition, definition.tokens = tokens ∧
      definition.tree = node := by
  cases node with
  | define name parameters body =>
      simp only [Node.isDefinition, Bool.and_eq_true, decide_eq_true_eq]
        at isDefinition
      obtain ⟨⟨_, short⟩, areExpressions⟩ := isDefinition
      simp only [Node.words, Word.listed, List.cons_append,
        List.append_assoc, List.nil_append] at writes
      obtain _ | ⟨writesDefine, _ | ⟨writesName, _ | ⟨writesOpening,
        writesRest⟩⟩⟩ := writes
      obtain ⟨before, after, rfl, writesParameters, writesAfter⟩ :=
        exists_append_of_forall₂ writesRest
      obtain _ | ⟨writesClosing, writesLast⟩ := writesAfter
      obtain ⟨between, last, rfl, writesBody, writesFinish⟩ :=
        exists_append_of_forall₂ writesLast
      obtain _ | ⟨writesFinish, writesNothing⟩ := writesFinish
      cases writesNothing
      obtain ⟨derived, rfl, namesEq⟩ :=
        exists_parameters_of_words writesParameters
      obtain ⟨expression, rfl, bodyEq⟩ :=
        exists_body_of_words short areExpressions writesBody
      refine ⟨⟨writesDefine.terminal, writesName.terminal,
        writesOpening.terminal, derived, writesClosing.terminal, expression,
        writesFinish.terminal⟩, rfl, ?_⟩
      rw [Definition.tree, namesEq, bodyEq]
      exact congrArg (Node.define · parameters body) writesName.lexeme_eq
  | _ => cases isDefinition

theorem exists_definitions_of_words {nodes : List Node}
    (areDefinitions : ∀ node ∈ nodes, node.isDefinition = true)
    {tokens : List Token}
    (writes : List.Forall₂ Token.Writes tokens (nodes.flatMap Node.words)) :
    ∃ definitions : List Definition,
      definitions.flatMap Definition.tokens = tokens ∧
        definitions.map Definition.tree = nodes := by
  induction nodes generalizing tokens with
  | nil =>
      cases writes
      exact ⟨[], rfl, rfl⟩
  | cons node rest ih =>
      rw [List.flatMap_cons] at writes
      obtain ⟨before, after, rfl, writesFirst, writesOthers⟩ :=
        exists_append_of_forall₂ writes
      obtain ⟨definition, rfl, treeEq⟩ := exists_definition_of_words
        (areDefinitions node List.mem_cons_self) writesFirst
      obtain ⟨others, rfl, otherTrees⟩ := ih
        (fun other member => areDefinitions other
          (List.mem_cons_of_mem _ member)) writesOthers
      exact ⟨definition :: others, rfl,
        congrArg₂ List.cons treeEq otherTrees⟩

/-- The tokens of a program are derived with its tree. -/
theorem exists_program_of_words {root : Node}
    (isProgram : root.isProgram = true) {tokens : List Token}
    (writes : List.Forall₂ Token.Writes tokens root.words) :
    ∃ program : Program, program.tokens = tokens ∧ program.tree = root := by
  cases root with
  | root body =>
      rw [Node.isProgram, List.all_eq_true] at isProgram
      rw [Node.words, Node.wordsAll_eq_map, ← List.flatMap_def] at writes
      obtain ⟨definitions, tokensEq, treesEq⟩ :=
        exists_definitions_of_words isProgram writes
      exact ⟨⟨definitions⟩, tokensEq, congrArg Node.root treesEq⟩
  | _ => cases isProgram

end Derivation

end Defun
