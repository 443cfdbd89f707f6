import Mathlib.Order.Bounds.Basic
import Defun.Proofs.Transpiler
import Defun.Proofs.Tree.Unambiguous

/-!
# Parentheses of the output

The parentheses in the text of a tree are balanced, as long as names bring none
of their own, and they are nested as deeply as the calls of the tree.  Texts in
sequence keep the balance and have the depth of the deeper one, and parentheses
around a text add one level.
-/

namespace Defun

namespace Bytes

def openings (text : Bytes) : Nat :=
  text.count (octet '(')

def closings (text : Bytes) : Nat :=
  text.count (octet ')')

@[simp]
theorem openings_append (first second : Bytes) :
    openings (first ++ second) = openings first + openings second :=
  List.count_append

@[simp]
theorem closings_append (first second : Bytes) :
    closings (first ++ second) = closings first + closings second :=
  List.count_append

/-- Parentheses are balanced, and at most so many are open at once. -/
structure Nests (text : Bytes) (depth : Nat) : Prop where
  closings_le {front : Bytes} : front <+: text → closings front ≤ openings front
  openings_le {front : Bytes} :
    front <+: text → openings front ≤ closings front + depth
  exists_deepest : ∃ front, front <+: text ∧
    openings front = closings front + depth
  openings_eq : openings text = closings text

/-- A name or some wording without parentheses. -/
def IsFlat (text : Bytes) : Prop :=
  octet '(' ∉ text ∧ octet ')' ∉ text

instance (text : Bytes) : Decidable text.IsFlat :=
  inferInstanceAs (Decidable (_ ∧ _))

@[simp]
theorem isFlat_nil : IsFlat [] :=
  ⟨List.not_mem_nil, List.not_mem_nil⟩

/-- A text that another one begins with ends in its first part, or goes on in
its second part. -/
theorem front_of_append {first second front : Bytes}
    (isFront : front <+: first ++ second) :
    front <+: first ∨ ∃ rest, front = first ++ rest ∧ rest <+: second := by
  obtain ⟨after, wholeEq⟩ := isFront
  rcases List.append_eq_append_iff.mp wholeEq with
    ⟨rest, firstEq, _⟩ | ⟨rest, frontEq, secondEq⟩
  · exact Or.inl ⟨rest, firstEq.symm⟩
  · exact Or.inr ⟨rest, frontEq, after, secondEq.symm⟩

namespace Nests

variable {text first second : Bytes} {depth firstDepth secondDepth : Nat}

theorem of_isFlat (isFlat : text.IsFlat) : text.Nests 0 := by
  have none {front : Bytes} (isFront : front <+: text) :
      openings front = 0 ∧ closings front = 0 := by
    constructor
    · exact List.count_eq_zero.mpr fun member =>
        isFlat.1 (isFront.subset member)
    · exact List.count_eq_zero.mpr fun member =>
        isFlat.2 (isFront.subset member)
  constructor
  · intro front isFront
    have := none isFront
    omega
  · intro front isFront
    have := none isFront
    omega
  · exact ⟨[], List.nil_prefix, rfl⟩
  · have := none (List.prefix_refl text)
    omega

theorem append (nests : first.Nests firstDepth)
    (nestsSecond : second.Nests secondDepth) :
    (first ++ second).Nests (max firstDepth secondDepth) := by
  have closed := nests.openings_eq
  constructor
  · intro front isFront
    rcases front_of_append isFront with inFirst | ⟨rest, rfl, inSecond⟩
    · exact nests.closings_le inFirst
    · have := nestsSecond.closings_le inSecond
      rw [openings_append, closings_append]
      omega
  · intro front isFront
    rcases front_of_append isFront with inFirst | ⟨rest, rfl, inSecond⟩
    · have := nests.openings_le inFirst
      omega
    · have := nestsSecond.openings_le inSecond
      rw [openings_append, closings_append]
      omega
  · rcases Nat.le_total firstDepth secondDepth with deeper | deeper
    · obtain ⟨rest, inSecond, isDeepest⟩ := nestsSecond.exists_deepest
      refine ⟨first ++ rest, (List.prefix_append_right_inj first).mpr inSecond,
        ?_⟩
      rw [openings_append, closings_append]
      omega
    · obtain ⟨front, inFirst, isDeepest⟩ := nests.exists_deepest
      refine ⟨front, inFirst.trans (List.prefix_append first second), ?_⟩
      omega
  · have := nestsSecond.openings_eq
    rw [openings_append, closings_append]
    omega

theorem parenthesized (nests : text.Nests depth) :
    ("(" ++ text ++ ")" : Bytes).Nests (depth + 1) := by
  have counts (front : Bytes) :
      openings ("(" ++ front) = openings front + 1 ∧
        closings ("(" ++ front) = closings front := by
    constructor
    · rw [openings_append]
      exact Nat.add_comm 1 _
    · rw [closings_append]
      exact Nat.zero_add _
  have countsClosed :
      openings ("(" ++ text ++ ")") = openings text + 1 ∧
        closings ("(" ++ text ++ ")") = closings text + 1 := by
    rw [openings_append, closings_append, (counts text).1, (counts text).2]
    exact ⟨rfl, rfl⟩
  -- What begins the whole is empty, ends within the text or is the whole.
  have fronts {front : Bytes} (isFront : front <+: "(" ++ text ++ ")") :
      front = [] ∨ (∃ inner, front = "(" ++ inner ∧ inner <+: text) ∨
        front = "(" ++ text ++ ")" := by
    rcases List.prefix_concat_iff.mp isFront with rfl | inOpened
    · exact Or.inr (Or.inr rfl)
    · rcases List.prefix_cons_iff.mp inOpened with rfl | ⟨inner, rfl, inText⟩
      · exact Or.inl rfl
      · exact Or.inr (Or.inl ⟨inner, rfl, inText⟩)
  have closed := nests.openings_eq
  constructor
  · intro front isFront
    rcases fronts isFront with rfl | ⟨inner, rfl, inText⟩ | rfl
    · exact Nat.le_refl _
    · have := nests.closings_le inText
      have := counts inner
      omega
    · omega
  · intro front isFront
    rcases fronts isFront with rfl | ⟨inner, rfl, inText⟩ | rfl
    · exact Nat.zero_le _
    · have := nests.openings_le inText
      have := counts inner
      omega
    · omega
  · obtain ⟨inner, inText, isDeepest⟩ := nests.exists_deepest
    refine ⟨"(" ++ inner, ?_, ?_⟩
    · rw [List.append_assoc, List.prefix_append_right_inj]
      exact inText.trans (List.prefix_append text _)
    · have := counts inner
      omega
  · omega

theorem append_flat (nests : first.Nests depth) (isFlat : second.IsFlat) :
    (first ++ second).Nests depth := by
  have appended := nests.append (of_isFlat isFlat)
  rwa [Nat.max_zero] at appended

theorem flat_append (isFlat : first.IsFlat) (nests : second.Nests depth) :
    (first ++ second).Nests depth := by
  have appended := (of_isFlat isFlat).append nests
  rwa [Nat.zero_max] at appended

end Nests

theorem IsFlat.append {first second : Bytes} (isFlat : first.IsFlat)
    (isFlatSecond : second.IsFlat) : (first ++ second).IsFlat := by
  simp only [IsFlat, List.mem_append, not_or]
  exact ⟨⟨isFlat.1, isFlatSecond.1⟩, isFlat.2, isFlatSecond.2⟩

theorem IsFlat.join {separator : Bytes} (isFlat : separator.IsFlat)
    {parts : List Bytes} (areFlat : ∀ part ∈ parts, part.IsFlat) :
    (join separator parts).IsFlat := by
  induction parts with
  | nil => exact isFlat_nil
  | cons part rest ih =>
      rw [List.forall_mem_cons] at areFlat
      cases rest with
      | nil => simpa [Bytes.join] using areFlat.1
      | cons second rest =>
          rw [join_cons_cons]
          exact (areFlat.1.append isFlat).append (ih areFlat.2)

end Bytes

namespace Node

mutual

/-- How deeply calls are nested.  The parameters of a definition stand in
parentheses of their own. -/
def nesting : Node → Nat
  | root body => deepest body
  | define _ _ body => max 1 (deepest body)
  | call _ arguments => deepest arguments + 1
  | integer _ => 0
  | reference _ => 0
  | missing => 0

def deepest : List Node → Nat
  | [] => 0
  | node :: rest => max node.nesting (deepest rest)

end

section Lists

variable {nodes : List Node}
  (nests : ∀ node ∈ nodes, node.rendered.Nests node.nesting)
include nests

theorem nests_join {separator : Bytes} (isFlat : separator.IsFlat) :
    (Bytes.join separator (renderedAll nodes)).Nests (deepest nodes) := by
  induction nodes with
  | nil => exact .of_isFlat Bytes.isFlat_nil
  | cons node rest ih =>
      rw [List.forall_mem_cons] at nests
      have nestsRest := ih nests.2
      cases rest with
      | nil => simpa [renderedAll, Bytes.join, deepest] using nests.1
      | cons second rest =>
          rw [renderedAll, renderedAll, Bytes.join_cons_cons, deepest]
          exact (nests.1.append_flat isFlat).append nestsRest

theorem nests_statementText :
    (statementText (renderedAll nodes)).Nests (deepest nodes) := by
  induction nodes with
  | nil => exact .of_isFlat Bytes.isFlat_nil
  | cons node rest ih =>
      rw [List.forall_mem_cons] at nests
      have nestsRest := ih nests.2
      cases rest with
      | nil =>
          have returned : ("return " ++ node.rendered : Bytes).Nests
              node.nesting :=
            nests.1.flat_append (by decide)
          simpa [renderedAll, statementText, deepest] using returned
      | cons second rest =>
          rw [renderedAll, renderedAll, statementText, deepest]
          exact (nests.1.append_flat (by decide)).append nestsRest

theorem nests_blockText :
    (blockText (renderedAll nodes)).Nests (deepest nodes) := by
  have statements := nests_statementText nests
  cases nodes with
  | nil => exact .of_isFlat (by decide)
  | cons node rest =>
      exact (statements.flat_append (by decide)).append_flat (by decide)

end Lists

theorem nests_rendered {node : Node}
    (areFlat : ∀ name ∈ node.names, name.IsFlat) :
    node.rendered.Nests node.nesting := by
  induction node with
  | root body ih =>
      have nests := fun child member =>
        ih child member (forall_names_of_child rfl areFlat child member)
      exact nests_join nests (by decide)
  | define name parameters body ih =>
      have ownFlat := forall_ownNames rfl areFlat
      rw [ownNames, List.forall_mem_cons] at ownFlat
      have nests := fun child member =>
        ih child member (forall_names_of_child rfl areFlat child member)
      have wording : ("function " ++ name : Bytes).IsFlat :=
        Bytes.IsFlat.append (by decide) ownFlat.1
      have listed : (Bytes.join ", " parameters).Nests 0 :=
        .of_isFlat (Bytes.IsFlat.join (by decide) ownFlat.2)
      have header : ("function " ++ name ++
          ("(" ++ Bytes.join ", " parameters ++ ")") ++ " " : Bytes).Nests 1 :=
        (listed.parenthesized.flat_append wording).append_flat (by decide)
      have whole := header.append (nests_blockText nests)
      have closing : (") " : Bytes) = ")" ++ " " := rfl
      rw [rendered, nesting, closing]
      simpa only [List.append_assoc] using whole
  | call name arguments ih =>
      have nameFlat := forall_ownNames rfl areFlat name List.mem_cons_self
      have nests := fun child member =>
        ih child member (forall_names_of_child rfl areFlat child member)
      have listed : (Bytes.join ", " (renderedAll arguments)).Nests
          (deepest arguments) :=
        nests_join nests (by decide)
      have called := listed.parenthesized.flat_append nameFlat
      rw [rendered, nesting]
      simpa only [List.append_assoc] using called
  | integer value =>
      exact .of_isFlat ⟨Decimal.notMem_ofInt rfl value,
        Decimal.notMem_ofInt rfl value⟩
  | reference name => exact .of_isFlat (areFlat name List.mem_cons_self)
  | missing => exact .of_isFlat Bytes.isFlat_nil

/-- The trees that come from tokens: programs, the definitions of programs, and
expressions. -/
inductive IsParsed : Node → Prop where
  | program {tokens : List Token} {root : Node}
      (accepted : parse tokens = .ok root) : IsParsed root
  | definition {tokens : List Token} {body : List Node} {definition : Node}
      (accepted : parse tokens = .ok (.root body))
      (member : definition ∈ body) : IsParsed definition
  | expression {tokens : List Token} {expression : Node}
      (accepted : parseExpression tokens = .ok expression) :
      IsParsed expression

theorem isComplete_of_parse {tokens : List Token} {root : Node}
    (accepted : parse tokens = .ok root) : root.isComplete = true := by
  obtain ⟨program, -, rfl⟩ := Derivation.parse_eq_ok_iff.mp accepted
  exact program.isComplete_tree

theorem IsParsed.isComplete {node : Node} (isParsed : node.IsParsed) :
    node.isComplete = true := by
  cases isParsed with
  | program accepted => exact isComplete_of_parse accepted
  | definition accepted member =>
      exact areComplete_iff.mp (isComplete_of_parse accepted) node member
  | expression accepted =>
      obtain ⟨expression, -, rfl⟩ :=
        Derivation.parseExpression_eq_ok_iff.mp accepted
      exact expression.isComplete_tree

/-- Parentheses mirror the calls of every tree without missing nodes, and the
trees that come from tokens have none missing. -/
theorem generate_parentheses_mirror_calls :
    (∀ node : Node, node.IsParsed → node.isComplete = true) ∧
    ∀ node : Node, node.isComplete = true →
      (∀ name ∈ node.names, Bytes.octet '(' ∉ name ∧ Bytes.octet ')' ∉ name) →
      ∃ text, node.generate = .ok text ∧
        (∀ front, front <+: text →
          front.count (Bytes.octet ')') ≤ front.count (Bytes.octet '(')) ∧
        text.count (Bytes.octet '(') = text.count (Bytes.octet ')') ∧
        IsGreatest {depth | ∃ front, front <+: text ∧
          front.count (Bytes.octet '(') =
            front.count (Bytes.octet ')') + depth} node.nesting := by
  constructor
  · intro node isParsed
    exact isParsed.isComplete
  · intro node complete areFlat
    have nests := nests_rendered areFlat
    refine ⟨node.rendered, generate_eq complete,
      fun front isFront => nests.closings_le isFront, nests.openings_eq,
      nests.exists_deepest, ?_⟩
    rintro depth ⟨front, isFront, levelEq⟩
    have bound := nests.openings_le isFront
    rw [Bytes.openings, Bytes.closings] at bound
    omega

theorem generate_parentheses_mirror_two_definitions :
    ∃ root text,
      parse (tokenize Registry.default
        "def f(x) g(h(1), y) end def k() end") = .ok root ∧
      root.generate = .ok text ∧
      (∀ front, front <+: text →
        front.count (Bytes.octet ')') ≤ front.count (Bytes.octet '(')) ∧
      text.count (Bytes.octet '(') = text.count (Bytes.octet ')') ∧
      IsGreatest {depth | ∃ front, front <+: text ∧
        front.count (Bytes.octet '(') =
          front.count (Bytes.octet ')') + depth} 2 := by
  let root := Node.root
    [define "f" ["x"] [call "g" [call "h" [integer 1], reference "y"]],
      define "k" [] []]
  have accepted : parse (tokenize Registry.default
      "def f(x) g(h(1), y) end def k() end") = .ok root := by
    rfl
  have complete :=
    generate_parentheses_mirror_calls.1 root (.program accepted)
  have areFlat : ∀ name ∈ root.names,
      Bytes.octet '(' ∉ name ∧ Bytes.octet ')' ∉ name := by
    decide +kernel
  obtain ⟨text, generated, mirrors⟩ :=
    generate_parentheses_mirror_calls.2 root complete areFlat
  exact ⟨root, text, accepted, generated, mirrors⟩

end Node

end Defun
