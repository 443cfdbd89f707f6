import Defun.Proofs.Tree.Vocabulary

/-!
# Reading the text of an expression

The text of an expression is a layout of its words: names and numerals touch
parentheses and commas only, and a space stands behind every comma.  So the
text of an expression that was read from some source is read as the same
expression.
-/

namespace Defun

namespace Layout

variable {afterWord : Bool} {word : Word} {words : List Word} {rest : Bytes}

theorem of_afterWord (layout : Layout true words rest) :
    Layout afterWord words rest := by
  cases layout with
  | last blank => exact .last blank
  | next zeros blank apart following =>
      exact .next zeros blank (fun _ => apart rfl) following

theorem gap_append {gap : Bytes} (blank : gap.all Bytes.isGap = true)
    (layout : Layout false words rest) : Layout false words (gap ++ rest) := by
  cases layout with
  | last otherBlank =>
      apply Layout.last
      rw [List.all_append, blank, otherBlank]
      rfl
  | next zeros otherBlank apart following =>
      rw [List.append_assoc, ← List.append_assoc gap, ← List.append_assoc]
      refine .next zeros ?_ nofun following
      rw [List.all_append, blank, otherBlank]
      rfl

/-- A word may touch what stands in front unless both are made of letters or
digits. -/
theorem cons_touching
    (apart : afterWord = true → word.category.isWordlike = false)
    (following : Layout word.category.isWordlike words rest) :
    Layout afterWord (word :: words) (word.lexeme ++ rest) := by
  have writtenEq : word.written 0 = word.lexeme := by
    simp [Word.written]
  have notWordlike : afterWord = true →
      word.category.isWordlike = true → ([] : Bytes) ≠ [] := by
    intro isAfter isWordlike
    rw [apart isAfter] at isWordlike
    cases isWordlike
  have layout := Layout.next 0 rfl notWordlike following
  rwa [writtenEq] at layout

end Layout

namespace Node

/-- The text of a tree is a layout of its words in front of whatever may stand
behind a word. -/
def IsLaidOut (node : Node) : Prop :=
  ∀ words rest, Layout true words rest →
    Layout false (node.words ++ words) (node.rendered ++ rest)

theorem layout_others {nodes : List Node}
    (areLaidOut : ∀ node ∈ nodes, node.IsLaidOut) {words : List Word}
    {rest : Bytes} (following : Layout true words rest) :
    Layout true
      ((wordsAll nodes).flatMap (fun part => Word.comma :: part) ++ words)
      ((renderedAll nodes).flatMap (fun next => (", " : Bytes) ++ next) ++
        rest) := by
  induction nodes with
  | nil => exact following
  | cons node nodes ih =>
      have others := ih fun other member =>
        areLaidOut other (List.mem_cons_of_mem node member)
      have argument := areLaidOut node List.mem_cons_self _ _ others
      have blank : List.all (" " : Bytes) Bytes.isGap = true := rfl
      have spaced : Layout Word.comma.category.isWordlike _ _ :=
        argument.gap_append blank
      have layout : Layout true _ _ := spaced.cons_touching fun _ => rfl
      simp only [wordsAll, renderedAll, List.flatMap_cons, List.append_assoc,
        List.cons_append]
      exact layout

theorem layout_arguments {nodes : List Node}
    (areLaidOut : ∀ node ∈ nodes, node.IsLaidOut) {words : List Word}
    {rest : Bytes} (following : Layout true words rest) :
    Layout false (Word.separated (wordsAll nodes) ++ words)
      (Bytes.join ", " (renderedAll nodes) ++ rest) := by
  cases nodes with
  | nil => exact following.of_afterWord
  | cons node nodes =>
      have others := layout_others (fun other member =>
        areLaidOut other (List.mem_cons_of_mem node member)) following
      have layout := areLaidOut node List.mem_cons_self _ _ others
      rw [wordsAll, renderedAll, Word.separated, Bytes.join_cons,
        List.append_assoc, List.append_assoc]
      exact layout

theorem ExpressionOver.isLaidOut {vocabulary : Vocabulary} {node : Node}
    (isOver : node.ExpressionOver vocabulary) : node.IsLaidOut := by
  induction isOver with
  | @integer value isValue =>
      intro words rest following
      exact @Layout.cons_touching false ⟨.integer, Decimal.ofInt value⟩ _ _
        nofun following
  | @reference name isName =>
      intro words rest following
      exact @Layout.cons_touching false (.name name) _ _ nofun following
  | @call name arguments isName isOver ih =>
      intro words rest following
      have closing : Layout true (.closing :: words) (")" ++ rest) :=
        Layout.cons_touching (fun _ => rfl) following.of_afterWord
      have opening : Layout true (.opening :: _) ("(" ++ _) :=
        Layout.cons_touching (fun _ => rfl) (layout_arguments ih closing)
      have layout := @Layout.cons_touching false (.name name) _ _ nofun opening
      simpa [Node.words, Node.rendered, Word.listed, Word.name] using layout

@[simp]
theorem areExpressions_iff {nodes : List Node} :
    areExpressions nodes = true ↔
      ∀ node ∈ nodes, node.isExpression = true := by
  induction nodes with
  | nil => simp [areExpressions]
  | cons node rest ih => simp [areExpressions, ih]

theorem ExpressionOver.isExpression {source : Bytes} {node : Node}
    (isOver : node.ExpressionOver (.ofSource source)) :
    node.isExpression = true := by
  induction isOver with
  | integer isValue => exact decide_eq_true isValue
  | reference isName => exact isName.1
  | call isName isOver ih =>
      rw [Node.isExpression, Bool.and_eq_true]
      exact ⟨isName.1, areExpressions_iff.mpr ih⟩

end Node

theorem expressionOver_of_parseExpression {source : Bytes} {node : Node}
    (accepted : parseExpression (tokenize Registry.default source) =
      .ok node) : node.ExpressionOver (.ofSource source) := by
  obtain ⟨expression, tokensEq, rfl⟩ :=
    Derivation.parseExpression_eq_ok_iff.mp accepted
  apply expression.tree_over
  intro token member
  rw [tokensEq] at member
  exact Vocabulary.ofSource_admits member

theorem Layout.parseExpression_eq {node : Node} {text : Bytes}
    (isExpression : node.isExpression = true)
    (layout : Layout false node.words text) :
    parseExpression (tokenize Registry.default text) = .ok node := by
  have writes := layout.tokensFrom (node.isPlain_of_mem_words isExpression)
    Position.start
  obtain ⟨expression, tokensEq, treeEq⟩ :=
    Derivation.exists_expression_of_words node isExpression _ writes
  exact Derivation.parseExpression_eq_ok_iff.mpr ⟨expression, tokensEq, treeEq⟩

/-- The text of the expression that a source is, if it is one. -/
def expressionText? (source : Bytes) : Option Bytes :=
  (parseExpression (tokenize Registry.default source)).toOption.bind
    fun node => node.generate.toOption

theorem expressionText?_of_parse {source text : Bytes} {node : Node}
    (accepted : parseExpression (tokenize Registry.default source) = .ok node)
    (generated : node.generate = .ok text) :
    expressionText? source = some text := by
  rw [expressionText?, accepted]
  exact congrArg Except.toOption generated

/-- The text of an expression that was read is read as the same expression, so
writing it once more changes nothing. -/
theorem generate_reparses {source : Bytes} {node : Node}
    (accepted : parseExpression (tokenize Registry.default source) =
      .ok node) :
    ∃ text, node.generate = .ok text ∧
      parseExpression (tokenize Registry.default text) = .ok node ∧
      expressionText? source = some text ∧
      expressionText? text = some text := by
  have isOver := expressionOver_of_parseExpression accepted
  have generated : node.generate = .ok node.rendered :=
    Node.generate_eq isOver.isComplete
  have layout : Layout false node.words node.rendered := by
    simpa using isOver.isLaidOut [] [] (.last rfl)
  have reparsed := layout.parseExpression_eq isOver.isExpression
  exact ⟨node.rendered, generated, reparsed,
    expressionText?_of_parse accepted generated,
    expressionText?_of_parse reparsed generated⟩

/-- Zeros in front of a numeral and octets outside tokens are not written
again. -/
theorem generate_reparses_respaced :
    let source := Bytes.ofString "f(-007;,g( x ,\ny()))"
    let text := Bytes.ofString "f(7, g(x, y()))"
    let node := Node.call "f"
      [.integer 7, .call "g" [.reference "x", .call "y" []]]
    parseExpression (tokenize Registry.default source) = .ok node ∧
      node.generate = .ok text ∧
      parseExpression (tokenize Registry.default text) = .ok node ∧
      expressionText? source = some text ∧
      expressionText? text = some text := by
  intro source text node
  have accepted :
      parseExpression (tokenize Registry.default source) = .ok node := rfl
  have generated : node.generate = .ok text := rfl
  obtain ⟨other, generatedOther, rewritten⟩ := generate_reparses accepted
  obtain rfl : text = other :=
    Except.ok.inj (generated.symm.trans generatedOther)
  exact ⟨accepted, generated, rewritten⟩

end Defun
