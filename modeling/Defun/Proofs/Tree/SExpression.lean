import Defun.Proofs.Tree.Unambiguous
import Defun.Tree.SExpression

/-!
# Reading S-expressions back

An S-expression is an atom or a list of S-expressions, and every tree is one.
The writer of a tree appends the text of its S-expression to whatever a buffer
holds.  As long as atoms are free of spaces and parentheses, an S-expression can
be told from its text, and so can the tree.
-/

namespace Defun

inductive SExpression where
  | atom (name : Bytes)
  | list (items : List SExpression)

namespace SExpression

mutual

/-- The items of a list stand in parentheses with spaces between them. -/
def text : SExpression → Bytes
  | atom name => name
  | list items => "(" ++ Bytes.join " " (texts items) ++ ")"

def texts : List SExpression → List Bytes
  | [] => []
  | item :: rest => item.text :: texts rest

end

@[simp]
theorem texts_eq_map (items : List SExpression) :
    texts items = items.map text := by
  induction items with
  | nil => rfl
  | cons item rest ih => rw [texts, ih, List.map_cons]

end SExpression

namespace Node

mutual

/-- A tree as a list that begins with its tag. -/
def toSExpression : Node → SExpression
  | root body => .list (.atom "root" :: toSExpressions body)
  | define name parameters body =>
      .list (.atom "def" :: .atom name :: .list (parameters.map .atom) ::
        toSExpressions body)
  | call name arguments =>
      .list (.atom "call" :: .atom name :: toSExpressions arguments)
  | integer value => .list [.atom "int", .atom (Decimal.ofInt value)]
  | reference name => .list [.atom "var", .atom name]
  | missing => .list []

def toSExpressions : List Node → List SExpression
  | [] => []
  | node :: rest => node.toSExpression :: toSExpressions rest

end

@[simp]
theorem toSExpressions_eq_map (nodes : List Node) :
    toSExpressions nodes = nodes.map toSExpression := by
  induction nodes with
  | nil => rfl
  | cons node rest ih => rw [toSExpressions, ih, List.map_cons]

end Node

namespace Writer

theorem Appends.all_append {first second : List Writer} {before after : Bytes}
    (appendsFirst : (all first).Appends before)
    (appendsSecond : (all second).Appends after) :
    (all (first ++ second)).Appends (before ++ after) := by
  intro buffer
  have inTurn : all (first ++ second) buffer = all second (all first buffer) :=
    List.foldl_append
  rw [inTurn, appendsSecond, appendsFirst, List.append_assoc]

end Writer

namespace Node

theorem appends_listWriter (tag : Bytes) {writers : List Writer}
    {texts : List Bytes}
    (appends : List.Forall₂ Writer.Appends writers texts) :
    (listWriter tag writers).Appends
      ("(" ++ Bytes.join " " (tag :: texts) ++ ")") := by
  have elements : (Writer.all
      (writers.flatMap fun writer => [Writer.atom " ", writer])).Appends
        (texts.flatMap fun text => (" " : Bytes) ++ text) := by
    induction appends with
    | nil =>
        intro buffer
        simp [Writer.all]
    | cons appendsFirst appendsRest ih =>
        exact ((Writer.appends_atom " ").then appendsFirst).then ih
  have opened := (Writer.appends_atom "(").then
    ((Writer.appends_atom tag).then elements)
  have closing : (Writer.all [Writer.atom ")"]).Appends ")" :=
    Writer.appends_atom ")"
  rw [Bytes.join_cons]
  exact Writer.Appends.all_append opened closing

theorem sexpressions_respects :
    sexpressions.Respects fun node writer =>
      writer.Appends node.toSExpression.text := by
  have texts {nodes : List Node} {writers : List Writer}
      (fit : List.Forall₂
        (fun node writer => writer.Appends node.toSExpression.text)
        nodes writers) :
      List.Forall₂ Writer.Appends writers
        (SExpression.texts (toSExpressions nodes)) := by
    rw [SExpression.texts_eq_map, toSExpressions_eq_map,
      List.forall₂_map_right_iff, List.forall₂_map_right_iff]
    exact fit.flip
  constructor
  · intro body writers fit
    exact Always.of_id (appends_listWriter "root" (texts fit))
  · intro name parameters body writers fit
    have namesEq : SExpression.texts (parameters.map .atom) = parameters := by
      simp [Function.comp_def, SExpression.text]
    have listed : (Writer.atom ("(" ++ Bytes.join " " parameters ++ ")")).Appends
        (SExpression.list (parameters.map .atom)).text := by
      rw [SExpression.text, namesEq]
      exact Writer.appends_atom _
    exact Always.of_id (appends_listWriter "def"
      (.cons (Writer.appends_atom name) (.cons listed (texts fit))))
  · intro name arguments writers fit
    exact Always.of_id (appends_listWriter "call"
      (.cons (Writer.appends_atom name) (texts fit)))
  · intro value
    exact Always.of_id (appends_listWriter "int"
      (.cons (Writer.appends_atom _) .nil))
  · intro name
    exact Always.of_id (appends_listWriter "var"
      (.cons (Writer.appends_atom name) .nil))

theorem sexpression_eq {node : Node} (complete : node.isComplete = true) :
    node.sexpression = .ok node.toSExpression.text := by
  obtain ⟨writer, foldEq, appends⟩ := sexpressions_respects.exists_fold complete
  rw [sexpression, foldEq]
  exact congrArg Except.ok appends.text_eq

/-- Writers that share a buffer leave what it holds and append the texts that
are defined by recursion on the tree. -/
theorem writers_append_texts :
    (∀ (name : Bytes) (parameters : List Bytes) (earlier : List Node)
      (last : Node), (define name parameters (earlier ++ [last])).rendered =
        "function " ++ name ++ "(" ++ Bytes.join ", " parameters ++ ") \x7b " ++
          Bytes.join ";" (earlier.map rendered ++ ["return " ++ last.rendered]) ++
          " \x7d") ∧
    ∀ node : Node, node.isComplete = true →
      (∃ writer, node.fold javaScript = .ok writer ∧
        ∀ buffer : Buffer,
          (writer buffer).toList = buffer.toList ++ node.rendered) ∧
      (∃ writer, node.fold sexpressions = .ok writer ∧
        ∀ buffer : Buffer,
          (writer buffer).toList = buffer.toList ++ node.toSExpression.text) ∧
      node.generate = .ok node.rendered ∧
      node.sexpression = .ok node.toSExpression.text := by
  constructor
  · intro name parameters earlier last
    have opening : (") \x7b " : Bytes) = ") " ++ "\x7b " := rfl
    rw [rendered, renderedAll_eq_map, List.map_append, List.map_singleton,
      blockText_concat, opening]
    simp only [List.append_assoc]
  · intro node complete
    exact ⟨node.exists_writer complete,
      sexpressions_respects.exists_fold complete, generate_eq complete,
      sexpression_eq complete⟩

/-- A body of several statements behind some text. -/
theorem writers_append_statements :
    let node := define "f" ["x"]
      [call "g" [], root [integer (-3), reference "y"], reference "x"]
    ∃ javaScriptWriter listWriter,
      node.fold javaScript = .ok javaScriptWriter ∧
      node.fold sexpressions = .ok listWriter ∧
      (javaScriptWriter #[59]).toList =
        ";function f(x) \x7b g();-3\ny;return x \x7d" ∧
      (listWriter #[59]).toList =
        ";(def f (x) (call g) (root (int -3) (var y)) (var x))" := by
  intro node
  obtain ⟨⟨javaScriptWriter, javaScriptEq, appends⟩,
    ⟨listWriter, listEq, appendsList⟩, _⟩ := writers_append_texts.2 node rfl
  exact ⟨javaScriptWriter, listWriter, javaScriptEq, listEq,
    appends #[59], appendsList #[59]⟩

end Node

namespace Bytes

/-- A name that is one word of an S-expression. -/
def IsAtom (name : Bytes) : Prop :=
  name ≠ [] ∧ octet ' ' ∉ name ∧ octet '(' ∉ name ∧ octet ')' ∉ name

instance (name : Bytes) : Decidable name.IsAtom :=
  inferInstanceAs (Decidable (_ ∧ _))

def isAtomic (character : UInt8) : Bool :=
  character != octet ' ' && character != octet '(' && character != octet ')'

/-- The octets that stand behind the items of a list. -/
def stopsElement (character : UInt8) : Bool :=
  character == octet ' ' || character == octet ')'

theorem not_isAtomic_of_stopsElement (character : UInt8)
    (isStop : stopsElement character = true) :
    (!isAtomic character) = true := by
  rw [stopsElement, Bool.or_eq_true, beq_iff_eq, beq_iff_eq] at isStop
  rcases isStop with rfl | rfl <;> rfl

theorem IsAtom.all_isAtomic {name : Bytes} (isAtom : name.IsAtom) :
    ∀ character ∈ name, isAtomic character = true := by
  obtain ⟨_, noSpace, noOpening, noClosing⟩ := isAtom
  intro character member
  have notSpace := ne_of_mem_of_not_mem member noSpace
  have notOpening := ne_of_mem_of_not_mem member noOpening
  have notClosing := ne_of_mem_of_not_mem member noClosing
  simp [Bytes.isAtomic, notSpace, notOpening, notClosing]

theorem IsAtom.exists_head {name : Bytes} (isAtom : name.IsAtom) :
    ∃ character ∈ name.head?, isAtomic character = true := by
  obtain ⟨character, rest, rfl⟩ := List.exists_cons_of_ne_nil isAtom.1
  exact ⟨character, rfl, isAtom.all_isAtomic character List.mem_cons_self⟩

end Bytes

namespace SExpression

inductive IsPlain : SExpression → Prop where
  | atom {name : Bytes} (isAtom : name.IsAtom) : IsPlain (.atom name)
  | list {items : List SExpression}
      (arePlain : ∀ item ∈ items, IsPlain item) : IsPlain (.list items)

theorem text_list_append (items : List SExpression) (rest : Bytes) :
    (list items).text ++ rest =
      Bytes.octet '(' :: (Bytes.join [Bytes.octet ' '] (items.map text) ++
        Bytes.octet ')' :: rest) := by
  simp only [text, texts_eq_map, List.append_assoc]
  rfl

theorem IsPlain.begins {expression : SExpression}
    (isPlain : expression.IsPlain) :
    ∃ character ∈ expression.text.head?,
      Bytes.stopsElement character = false := by
  cases isPlain with
  | atom isAtom =>
      obtain ⟨character, isHead, isAtomic⟩ := isAtom.exists_head
      refine ⟨character, isHead, ?_⟩
      rw [Bool.eq_false_iff]
      intro isStop
      have notAtomic := Bytes.not_isAtomic_of_stopsElement character isStop
      simp [isAtomic] at notAtomic
  | @list items arePlain =>
      refine ⟨Bytes.octet '(', ?_, rfl⟩
      rw [← List.append_nil (text _), text_list_append]
      rfl

theorem atom_append_ne_list {name : Bytes} (isAtom : name.IsAtom)
    (items : List SExpression) (before after : Bytes) :
    (atom name).text ++ before ≠ (list items).text ++ after := by
  intro same
  obtain ⟨character, isHead, isAtomic⟩ := isAtom.exists_head
  have sameHead := congrArg List.head? same
  rw [text, text_list_append, List.head?_append, isHead] at sameHead
  obtain rfl := Option.some.inj sameHead
  cases isAtomic

/-- An S-expression ends where its text says so. -/
theorem IsPlain.determines {expression : SExpression}
    (isPlain : expression.IsPlain) :
    Bytes.Determines IsPlain text Bytes.stopsElement expression := by
  induction isPlain with
  | atom isAtom =>
      intro second isPlainSecond before after ends otherEnds same
      cases isPlainSecond with
      | atom isOther =>
          obtain ⟨rfl, sameEnd⟩ := Bytes.run_append_inj
            isAtom.all_isAtomic isOther.all_isAtomic
            (ends.mono Bytes.not_isAtomic_of_stopsElement)
            (otherEnds.mono Bytes.not_isAtomic_of_stopsElement) same
          exact ⟨rfl, sameEnd⟩
      | list _ => exact absurd same (atom_append_ne_list isAtom _ _ _)
  | list arePlain ih =>
      intro second isPlainSecond before after ends otherEnds same
      cases isPlainSecond with
      | atom isOther =>
          exact absurd same.symm (atom_append_ne_list isOther _ _ _)
      | list areOthers =>
          rw [text_list_append, text_list_append] at same
          obtain ⟨rfl, sameEnd⟩ := Bytes.join_append_inj rfl
            (fun _ => IsPlain.begins)
            (fun item member => ⟨arePlain item member, ih item member⟩)
            areOthers (Bytes.ends_cons rfl _) (Bytes.ends_cons rfl _)
            (List.cons.inj same).2
          exact ⟨rfl, (List.cons.inj sameEnd).2⟩

theorem IsPlain.eq_of_text_eq {first second : SExpression}
    (isPlain : first.IsPlain) (isOther : second.IsPlain)
    (same : first.text = second.text) : first = second := by
  have determined := isPlain.determines second isOther [] []
    (Bytes.ends_nil _) (Bytes.ends_nil _) (congrArg (· ++ []) same)
  exact determined.1

end SExpression

theorem Decimal.isAtom_ofInt (value : Int) : (ofInt value).IsAtom :=
  ⟨ofInt_ne_nil value, notMem_ofInt rfl value, notMem_ofInt rfl value,
    notMem_ofInt rfl value⟩

namespace Node

theorem isPlain_toSExpressions {nodes : List Node}
    (arePlain : ∀ node ∈ nodes, node.toSExpression.IsPlain) :
    ∀ item ∈ toSExpressions nodes, item.IsPlain := by
  rw [toSExpressions_eq_map]
  simpa using arePlain

theorem isPlain_list {tag : Bytes} {items : List SExpression}
    (isAtom : tag.IsAtom) (arePlain : ∀ item ∈ items, item.IsPlain) :
    (SExpression.list (.atom tag :: items)).IsPlain :=
  .list (List.forall_mem_cons.mpr ⟨.atom isAtom, arePlain⟩)

theorem isPlain_toSExpression {node : Node}
    (areAtoms : ∀ name ∈ node.names, name.IsAtom) :
    node.toSExpression.IsPlain := by
  induction node with
  | root body ih =>
      have arePlain := isPlain_toSExpressions fun child member =>
        ih child member (forall_names_of_child rfl areAtoms child member)
      exact isPlain_list (by decide) arePlain
  | define name parameters body ih =>
      have ownAtoms := forall_ownNames rfl areAtoms
      rw [ownNames, List.forall_mem_cons] at ownAtoms
      have arePlain := isPlain_toSExpressions fun child member =>
        ih child member (forall_names_of_child rfl areAtoms child member)
      have parametersPlain : (SExpression.list (parameters.map .atom)).IsPlain := by
        refine .list fun item member => ?_
        obtain ⟨parameter, parameterMem, rfl⟩ := List.mem_map.mp member
        exact .atom (ownAtoms.2 parameter parameterMem)
      refine isPlain_list (by decide) ?_
      rw [List.forall_mem_cons, List.forall_mem_cons]
      exact ⟨.atom ownAtoms.1, parametersPlain, arePlain⟩
  | call name arguments ih =>
      have ownAtoms := forall_ownNames rfl areAtoms
      have arePlain := isPlain_toSExpressions fun child member =>
        ih child member (forall_names_of_child rfl areAtoms child member)
      refine isPlain_list (by decide) ?_
      rw [List.forall_mem_cons]
      exact ⟨.atom (ownAtoms name List.mem_cons_self), arePlain⟩
  | integer value =>
      refine isPlain_list (by decide) ?_
      rw [List.forall_mem_singleton]
      exact .atom (Decimal.isAtom_ofInt value)
  | reference name =>
      refine isPlain_list (by decide) ?_
      rw [List.forall_mem_singleton]
      exact .atom (areAtoms name List.mem_cons_self)
  | missing => exact .list (List.forall_mem_nil _)

theorem eq_of_toSExpressions_eq {nodes others : List Node}
    (determines : ∀ node ∈ nodes, ∀ other : Node,
      node.toSExpression = other.toSExpression → node = other)
    (same : toSExpressions nodes = toSExpressions others) : nodes = others := by
  induction nodes generalizing others with
  | nil =>
      cases others with
      | nil => rfl
      | cons other others => cases same
  | cons node nodes ih =>
      cases others with
      | nil => cases same
      | cons other others =>
          rw [List.forall_mem_cons] at determines
          obtain ⟨sameFirst, sameRest⟩ := List.cons.inj same
          rw [determines.1 other sameFirst, ih determines.2 sameRest]

/-- The tag of a list tells the variant of the tree. -/
theorem toSExpression_injective : Function.Injective toSExpression := by
  intro first
  induction first with
  | root body ih =>
      intro second same
      cases second with
      | root other =>
          simp only [toSExpression, SExpression.list.injEq, List.cons.injEq,
            true_and] at same
          rw [eq_of_toSExpressions_eq ih same]
      | _ => simp +decide [toSExpression] at same
  | define name parameters body ih =>
      intro second same
      cases second with
      | define other others otherBody =>
          simp only [toSExpression, SExpression.list.injEq, List.cons.injEq,
            SExpression.atom.injEq, true_and] at same
          obtain ⟨rfl, sameParameters, sameBody⟩ := same
          have atoms : Function.Injective SExpression.atom := by
            intro name other sameAtom
            exact SExpression.atom.inj sameAtom
          rw [List.map_injective_iff.mpr atoms sameParameters,
            eq_of_toSExpressions_eq ih sameBody]
      | _ => simp +decide [toSExpression] at same
  | call name arguments ih =>
      intro second same
      cases second with
      | call other others =>
          simp only [toSExpression, SExpression.list.injEq, List.cons.injEq,
            SExpression.atom.injEq, true_and] at same
          obtain ⟨rfl, sameArguments⟩ := same
          rw [eq_of_toSExpressions_eq ih sameArguments]
      | _ => simp +decide [toSExpression] at same
  | integer value =>
      intro second same
      cases second with
      | integer other =>
          simp only [toSExpression, SExpression.list.injEq, List.cons.injEq,
            SExpression.atom.injEq, true_and, and_true] at same
          rw [Decimal.ofInt_injective same]
      | _ => simp +decide [toSExpression] at same
  | reference name =>
      intro second same
      cases second with
      | reference other =>
          simp only [toSExpression, SExpression.list.injEq, List.cons.injEq,
            SExpression.atom.injEq, true_and, and_true] at same
          rw [same]
      | _ => simp +decide [toSExpression] at same
  | missing =>
      intro second same
      cases second with
      | missing => rfl
      | _ => simp [toSExpression] at same

/-- The S-expression determines the tree, if names are words of their own. -/
theorem sexpression_determines_tree {first second : Node}
    (completeFirst : first.isComplete = true)
    (completeSecond : second.isComplete = true)
    (areAtoms : ∀ name ∈ first.names, name.IsAtom)
    (areOthers : ∀ name ∈ second.names, name.IsAtom)
    (same : first.sexpression = second.sexpression) : first = second := by
  rw [sexpression_eq completeFirst, sexpression_eq completeSecond] at same
  have sameExpression := (isPlain_toSExpression areAtoms).eq_of_text_eq
    (isPlain_toSExpression areOthers) (Except.ok.inj same)
  exact toSExpression_injective sameExpression

/-- A deep copy, which has children where a program has none. -/
theorem sexpression_determines_copy :
    ∃ first second : Node, first.fold builder = .ok second ∧
      first.sexpression = .ok "(root (def f (x y) (root) (call g (int -2))))" ∧
      first.sexpression = second.sexpression ∧ first = second := by
  let node := root [define "f" ["x", "y"] [root [], call "g" [integer (-2)]]]
  have areAtoms : ∀ name ∈ node.names, name.IsAtom := by
    decide +kernel
  refine ⟨node, node, rfl, rfl, rfl, ?_⟩
  exact sexpression_determines_tree rfl rfl areAtoms areAtoms rfl

/-- A name with spaces and parentheses can be taken for arguments. -/
example : (call "f (var x)" []).toSExpression.text =
    (call "f" [reference "x"]).toSExpression.text := by
  decide +kernel

end Node

end Defun
