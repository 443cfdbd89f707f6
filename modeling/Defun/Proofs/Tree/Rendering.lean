import Defun.Proofs.Text.Lines
import Defun.Proofs.Tree.Traversal
import Defun.Tree.JavaScript

/-!
# The text of a tree

The text of a tree is defined by recursion on the tree alone.  The writer of a
tree without missing nodes appends exactly this text to whatever a buffer
holds.
-/

namespace Defun

namespace Writer

/-- A writer adds a text behind what a buffer holds. -/
def Appends (writer : Writer) (text : Bytes) : Prop :=
  ∀ buffer : Buffer, (writer buffer).toList = buffer.toList ++ text

theorem appends_atom (text : Bytes) : (atom text).Appends text := by
  intro buffer
  simp [atom]

theorem Appends.then {first second : Writer} {before after : Bytes}
    (appendsFirst : first.Appends before)
    (appendsSecond : second.Appends after) :
    Appends (fun buffer => second (first buffer)) (before ++ after) := by
  intro buffer
  rw [appendsSecond, appendsFirst, List.append_assoc]

theorem Appends.text_eq {writer : Writer} {text : Bytes}
    (appends : writer.Appends text) : writer.text = text := by
  rw [Writer.text, appends]
  rfl

theorem appends_separated (separator : Bytes) {writers : List Writer}
    {texts : List Bytes} (appends : List.Forall₂ Appends writers texts) :
    (separated separator writers).Appends (Bytes.join separator texts) := by
  induction appends with
  | nil =>
      intro buffer
      simp [separated, Bytes.join]
  | @cons first before rest others appendsFirst appendsRest ih =>
      cases appendsRest with
      | nil => simpa [Bytes.join, separated] using appendsFirst
      | cons appendsSecond appendsRest =>
          rw [Bytes.join_cons_cons]
          exact (appendsFirst.then (appends_atom separator)).then ih

end Writer

namespace Node

/-- The statements of a function body. -/
def statementText : List Bytes → Bytes
  | [] => []
  | [last] => "return " ++ last
  | first :: second :: rest => first ++ ";" ++ statementText (second :: rest)

/-- The braces of a function around its statements. -/
def blockText : List Bytes → Bytes
  | [] => "\x7b \x7d"
  | statements => "\x7b " ++ statementText statements ++ " \x7d"

mutual

/-- The text of a tree. -/
def rendered : Node → Bytes
  | root body => Bytes.unlines (renderedAll body)
  | define name parameters body =>
      "function " ++ name ++ "(" ++ Bytes.join ", " parameters ++ ") " ++
        blockText (renderedAll body)
  | call name arguments =>
      name ++ "(" ++ Bytes.join ", " (renderedAll arguments) ++ ")"
  | integer value => Decimal.ofInt value
  | reference name => name
  | missing => []

/-- The texts of some trees. -/
def renderedAll : List Node → List Bytes
  | [] => []
  | node :: rest => node.rendered :: renderedAll rest

end

theorem appends_statementWriter {writers : List Writer} {texts : List Bytes}
    (appends : List.Forall₂ Writer.Appends writers texts) :
    (statementWriter writers).Appends (statementText texts) := by
  induction appends with
  | nil =>
      intro buffer
      simp [statementWriter, statementText]
  | @cons first before rest others appendsFirst appendsRest ih =>
      cases appendsRest with
      | nil => exact (Writer.appends_atom "return ").then appendsFirst
      | cons appendsSecond appendsRest =>
          exact (appendsFirst.then (Writer.appends_atom ";")).then ih

/-- Semicolons stand between the statements, and only the last one is
returned. -/
@[simp]
theorem statementText_concat (earlier : List Bytes) (last : Bytes) :
    statementText (earlier ++ [last]) =
      Bytes.join ";" (earlier ++ ["return " ++ last]) := by
  induction earlier with
  | nil => simp [statementText, Bytes.join]
  | cons first rest ih =>
      cases rest with
      | nil => simp [statementText, Bytes.join]
      | cons second rest =>
          have joined := Bytes.join_cons_cons ";" first second
            (rest ++ ["return " ++ last])
          rw [List.cons_append, List.cons_append, statementText,
            ← List.cons_append, ih]
          exact joined.symm

theorem appends_define (name : Bytes) (parameters : List Bytes)
    {writers : List Writer} {texts : List Bytes}
    (appends : List.Forall₂ Writer.Appends writers texts) :
    Writer.Appends (javaScript.define name parameters writers)
      ("function " ++ name ++ "(" ++ Bytes.join ", " parameters ++ ") " ++
        blockText texts) := by
  cases appends with
  | nil => exact (Writer.appends_atom _).then (Writer.appends_atom _)
  | cons appendsFirst appendsRest =>
      have statements :=
        appends_statementWriter (.cons appendsFirst appendsRest)
      have block := ((Writer.appends_atom "\x7b ").then statements).then
        (Writer.appends_atom " \x7d")
      exact (Writer.appends_atom _).then block

theorem appends_call (name : Bytes) {writers : List Writer}
    {texts : List Bytes}
    (appends : List.Forall₂ Writer.Appends writers texts) :
    Writer.Appends (javaScript.call name writers)
      (name ++ "(" ++ Bytes.join ", " texts ++ ")") :=
  (((Writer.appends_atom name).then (Writer.appends_atom "(")).then
    (Writer.appends_separated ", " appends)).then (Writer.appends_atom ")")

@[simp]
theorem renderedAll_eq_map (nodes : List Node) :
    renderedAll nodes = nodes.map rendered := by
  induction nodes with
  | nil => rfl
  | cons node rest ih => rw [renderedAll, ih, List.map_cons]

@[simp]
theorem blockText_concat (earlier : List Bytes) (last : Bytes) :
    blockText (earlier ++ [last]) =
      "\x7b " ++ Bytes.join ";" (earlier ++ ["return " ++ last]) ++ " \x7d" := by
  rw [← statementText_concat]
  cases earlier with
  | nil => rfl
  | cons first rest => rfl

theorem javaScript_respects :
    javaScript.Respects fun node writer => writer.Appends node.rendered := by
  have texts {nodes : List Node} {writers : List Writer}
      (fit : List.Forall₂ (fun node writer => writer.Appends node.rendered)
        nodes writers) :
      List.Forall₂ Writer.Appends writers (renderedAll nodes) := by
    rw [renderedAll_eq_map, List.forall₂_map_right_iff]
    exact fit.flip
  constructor
  · intro body writers fit
    exact Always.of_id (Writer.appends_separated "\n" (texts fit))
  · intro name parameters body writers fit
    exact Always.of_id (appends_define name parameters (texts fit))
  · intro name arguments writers fit
    exact Always.of_id (appends_call name (texts fit))
  · intro value
    exact Always.of_id (Writer.appends_atom _)
  · intro name
    exact Always.of_id (Writer.appends_atom _)

/-- The writer of a tree appends the text of the tree. -/
theorem exists_writer (node : Node) (complete : node.isComplete = true) :
    ∃ writer, fold javaScript node = .ok writer ∧
      writer.Appends node.rendered :=
  javaScript_respects.exists_fold complete

/-- A tree without missing nodes has its text. -/
theorem generate_eq {node : Node} (complete : node.isComplete = true) :
    node.generate = .ok node.rendered := by
  obtain ⟨writer, foldEq, appends⟩ := node.exists_writer complete
  rw [generate, foldEq]
  exact congrArg Except.ok appends.text_eq

/-- The names that a node holds besides its children. -/
def ownNames : Node → List Bytes
  | define name parameters _ => name :: parameters
  | call name _ => [name]
  | reference name => [name]
  | _ => []

/-- The names of all nodes of a tree. -/
def names (node : Node) : List Bytes :=
  node.postorder.flatMap ownNames

theorem mem_postorderAll {nodes : List Node} {node other : Node} :
    node ∈ nodes → other ∈ node.postorder → other ∈ postorderAll nodes := by
  intro member otherMem
  induction nodes with
  | nil => cases member
  | cons first rest ih =>
      rw [postorderAll, List.mem_append]
      rcases List.mem_cons.mp member with rfl | later
      · exact Or.inl otherMem
      · exact Or.inr (ih later)

section NamesOfParents

variable {node : Node} {children : List Node} {isName : Bytes → Prop}
  (postorderEq : node.postorder = postorderAll children ++ [node])
  (areNames : ∀ name ∈ node.names, isName name)
include postorderEq areNames

theorem forall_ownNames : ∀ name ∈ node.ownNames, isName name := by
  intro name member
  apply areNames
  rw [names, postorderEq, List.flatMap_append, List.mem_append]
  right
  simpa using member

theorem forall_names_of_child :
    ∀ child ∈ children, ∀ name ∈ child.names, isName name := by
  intro child childMem name member
  obtain ⟨other, otherMem, nameMem⟩ := List.mem_flatMap.mp member
  apply areNames
  rw [names, postorderEq, List.flatMap_append, List.mem_append]
  left
  exact List.mem_flatMap.mpr
    ⟨other, mem_postorderAll childMem otherMem, nameMem⟩

end NamesOfParents

end Node

end Defun
