import Mathlib.Data.List.Forall2
import Defun.Tree

/-!
# The order of a traversal

A traversal calls one method for every node in front of the first missing one,
where children stand in order and before their parent.  It returns exactly if no
node is missing.  Neither depends on what the methods do and return, so both are
shown for methods with effects in any monad.
-/

namespace Defun

namespace Node

/-- Induction on trees, where the statement is known for all children. -/
@[elab_as_elim, induction_eliminator]
theorem treeInduction {motive : Node → Prop}
    (root : ∀ body, (∀ child ∈ body, motive child) → motive (.root body))
    (define : ∀ name parameters body, (∀ child ∈ body, motive child) →
      motive (.define name parameters body))
    (call : ∀ name arguments, (∀ child ∈ arguments, motive child) →
      motive (.call name arguments))
    (integer : ∀ value, motive (.integer value))
    (reference : ∀ name, motive (.reference name))
    (missing : motive .missing) : (node : Node) → motive node
  | .root body => root body fun child _ =>
      treeInduction root define call integer reference missing child
  | .define name parameters body => define name parameters body fun child _ =>
      treeInduction root define call integer reference missing child
  | .call name arguments => call name arguments fun child _ =>
      treeInduction root define call integer reference missing child
  | .integer value => integer value
  | .reference name => reference name
  | .missing => missing

mutual

/-- Whether no node of a tree is missing. -/
def isComplete : Node → Bool
  | root body => areComplete body
  | define _ _ body => areComplete body
  | call _ arguments => areComplete arguments
  | integer _ => true
  | reference _ => true
  | missing => false

/-- Whether no node of some trees is missing. -/
def areComplete : List Node → Bool
  | [] => true
  | node :: rest => node.isComplete && areComplete rest

end

theorem areComplete_iff {nodes : List Node} :
    areComplete nodes = true ↔ ∀ node ∈ nodes, node.isComplete = true := by
  induction nodes with
  | nil => simp [areComplete]
  | cons node rest ih => simp [areComplete, ih]

mutual

/-- The nodes of a tree, children in order and before their parent. -/
def postorder : Node → List Node
  | root body => postorderAll body ++ [root body]
  | define name parameters body =>
      postorderAll body ++ [define name parameters body]
  | call name arguments => postorderAll arguments ++ [call name arguments]
  | integer value => [integer value]
  | reference name => [reference name]
  | missing => [missing]

def postorderAll : List Node → List Node
  | [] => []
  | node :: rest => node.postorder ++ postorderAll rest

end

def isPresent : Node → Bool
  | missing => false
  | _ => true

/-- The nodes of a tree in front of the first missing one. -/
def reached (node : Node) : List Node :=
  node.postorder.takeWhile isPresent

def reachedAll (nodes : List Node) : List Node :=
  (postorderAll nodes).takeWhile isPresent

end Node

/-- All results of a program satisfy a condition. -/
def Always {m : Type → Type} [Monad m] {β : Type} (holds : β → Prop)
    (program : m β) : Prop :=
  ∃ checked : m {result // holds result}, Subtype.val <$> checked = program

namespace Always

variable {m : Type → Type} [Monad m] [LawfulMonad m] {β γ : Type}
  {holds : β → Prop} {program : m β}

theorem of_forall (always : ∀ result, holds result) (program : m β) :
    Always holds program := by
  refine ⟨(fun result => ⟨result, always result⟩) <$> program, ?_⟩
  simp

theorem of_pure {result : β} (isTrue : holds result) :
    Always holds (pure result : m β) :=
  ⟨pure ⟨result, isTrue⟩, by simp⟩

theorem bind {others : γ → Prop} {next : β → m γ}
    (always : Always holds program)
    (following : ∀ result, holds result → Always others (next result)) :
    Always others (program >>= next) := by
  obtain ⟨checked, rfl⟩ := always
  choose rest restEq using following
  refine ⟨checked >>= fun result => rest result.1 result.2, ?_⟩
  simp [restEq]

theorem map {others : γ → Prop} {convert : β → γ}
    (always : Always holds program)
    (implies : ∀ result, holds result → others (convert result)) :
    Always others (convert <$> program) := by
  rw [← bind_pure_comp]
  exact always.bind fun result isTrue => of_pure (implies result isTrue)

theorem bind_congr {first second : β → m γ} (always : Always holds program)
    (same : ∀ result, holds result → first result = second result) :
    program >>= first = program >>= second := by
  obtain ⟨checked, rfl⟩ := always
  simp only [bind_map_left]
  congr 1
  funext result
  exact same result.1 result.2

theorem run_state {σ : Type} {program : StateM σ β}
    (always : Always holds program) (state : σ) :
    holds (program.run state).1 := by
  obtain ⟨checked, rfl⟩ := always
  exact (checked.run state).1.2

theorem of_id {program : Id β} (isTrue : holds program.run) :
    Always holds program :=
  ⟨⟨program.run, isTrue⟩, rfl⟩

theorem run_id {program : Id β} (always : Always holds program) :
    holds program.run := by
  obtain ⟨checked, rfl⟩ := always
  exact checked.run.2

end Always

/-- A traversal of complete trees returns a value that fits, and a traversal of
other trees stops at a missing node. -/
def Yields {α : Type} (complete : Bool) (fits : α → Prop) :
    Except MissingNode α → Prop
  | .ok value => complete = true ∧ fits value
  | .error _ => complete = false

theorem Yields.exists_value {α : Type} {fits : α → Prop}
    {result : Except MissingNode α} (yields : Yields true fits result) :
    ∃ value, result = .ok value ∧ fits value := by
  cases result with
  | ok value => exact ⟨value, rfl, yields.2⟩
  | error fault => cases yields

theorem Yields.eq_error_iff {α : Type} {complete : Bool} {fits : α → Prop}
    {result : Except MissingNode α} (yields : Yields complete fits result) :
    result = .error ⟨⟩ ↔ complete = false := by
  cases result with
  | ok value => simp [yields.1]
  | error fault => exact ⟨fun _ => yields, fun _ => rfl⟩

namespace Algebra

variable {m : Type → Type} [Monad m] {α : Type}

/-- The value of every node fits it as soon as the values of its children fit
them. -/
structure Respects (algebra : Algebra m α) (fits : Node → α → Prop) :
    Prop where
  root {body : List Node} {values : List α}
    (fit : List.Forall₂ fits body values) :
    Always (fits (.root body)) (algebra.root values)
  define {name : Bytes} {parameters : List Bytes} {body : List Node}
    {values : List α} (fit : List.Forall₂ fits body values) :
    Always (fits (.define name parameters body))
      (algebra.define name parameters values)
  call {name : Bytes} {arguments : List Node} {values : List α}
    (fit : List.Forall₂ fits arguments values) :
    Always (fits (.call name arguments)) (algebra.call name values)
  integer (value : Int) :
    Always (fits (.integer value)) (algebra.integer value)
  reference (name : Bytes) :
    Always (fits (.reference name)) (algebra.reference name)

namespace Respects

variable [LawfulMonad m] {algebra : Algebra m α} {fits : Node → α → Prop}

theorem foldAllM {nodes : List Node}
    (yields : ∀ node ∈ nodes,
      Always (Yields node.isComplete (fits node)) (node.foldM algebra).run) :
    Always (Yields (Node.areComplete nodes) (List.Forall₂ fits nodes))
      (Node.foldAllM algebra nodes).run := by
  induction nodes with
  | nil =>
      rw [Node.foldAllM]
      exact Always.of_pure ⟨rfl, .nil⟩
  | cons node rest ih =>
      have yieldsRest := ih fun other member =>
        yields other (List.mem_cons_of_mem node member)
      rw [Node.foldAllM]
      simp only [ExceptT.run_bind, ExceptT.run_pure]
      apply (yields node List.mem_cons_self).bind
      rintro (fault | value) outcome
      · have incomplete : node.isComplete = false := outcome
        apply Always.of_pure
        simp [Yields, Node.areComplete, incomplete]
      · apply yieldsRest.bind
        rintro (fault | values) others
        · have incomplete : Node.areComplete rest = false := others
          apply Always.of_pure
          simp [Yields, Node.areComplete, incomplete]
        · apply Always.of_pure
          refine ⟨?_, .cons outcome.2 others.2⟩
          rw [Node.areComplete, outcome.1, others.1]
          rfl

theorem parent {nodes : List Node} {node : Node} {method : List α → m α}
    (completeEq : node.isComplete = Node.areComplete nodes)
    (fit : ∀ values, List.Forall₂ fits nodes values →
      Always (fits node) (method values))
    (yields : Always (Yields (Node.areComplete nodes) (List.Forall₂ fits nodes))
      (Node.foldAllM algebra nodes).run) :
    Always (Yields node.isComplete (fits node))
      (do method (← Node.foldAllM algebra nodes) :
        ExceptT MissingNode m α).run := by
  rw [ExceptT.run_bind]
  apply yields.bind
  rintro (fault | values) outcome
  · exact Always.of_pure (completeEq.trans outcome)
  · exact (fit values outcome.2).map fun value fitsNode =>
      ⟨completeEq.trans outcome.1, fitsNode⟩

/-- When a traversal returns, and what it returns. -/
theorem foldM (respects : algebra.Respects fits) (node : Node) :
    Always (Yields node.isComplete (fits node)) (node.foldM algebra).run := by
  induction node with
  | root body ih =>
      rw [Node.foldM]
      exact parent rfl (fun _ => respects.root) (foldAllM ih)
  | define name parameters body ih =>
      rw [Node.foldM]
      exact parent rfl (fun _ => respects.define) (foldAllM ih)
  | call name arguments ih =>
      rw [Node.foldM]
      exact parent rfl (fun _ => respects.call) (foldAllM ih)
  | integer value =>
      rw [Node.foldM]
      exact (respects.integer value).map fun _ fit => ⟨rfl, fit⟩
  | reference name =>
      rw [Node.foldM]
      exact (respects.reference name).map fun _ fit => ⟨rfl, fit⟩
  | missing =>
      rw [Node.foldM]
      exact Always.of_pure rfl

theorem of_true (algebra : Algebra m α) :
    algebra.Respects fun _ _ => True where
  root _ := .of_forall (fun _ => trivial) _
  define _ := .of_forall (fun _ => trivial) _
  call _ := .of_forall (fun _ => trivial) _
  integer _ := .of_forall (fun _ => trivial) _
  reference _ := .of_forall (fun _ => trivial) _

end Respects

theorem Respects.exists_fold {algebra : Algebra Id α}
    {fits : Node → α → Prop} (respects : algebra.Respects fits) {node : Node}
    (complete : node.isComplete = true) :
    ∃ value, node.fold algebra = .ok value ∧ fits node value := by
  have yields := (respects.foldM node).run_id
  rw [complete] at yields
  exact yields.exists_value

end Algebra

namespace Node

theorem all_isPresent_postorderAll {nodes : List Node}
    (presentEq : ∀ node ∈ nodes,
      node.postorder.all isPresent = node.isComplete) :
    (postorderAll nodes).all isPresent = areComplete nodes := by
  induction nodes with
  | nil => rfl
  | cons node rest ih =>
      have restEq := ih fun other member =>
        presentEq other (List.mem_cons_of_mem node member)
      rw [postorderAll, List.all_append, presentEq node List.mem_cons_self,
        restEq, areComplete]

@[simp]
theorem all_isPresent_postorder (node : Node) :
    node.postorder.all isPresent = node.isComplete := by
  induction node with
  | root body ih =>
      simp [postorder, isPresent, isComplete, all_isPresent_postorderAll ih]
  | define name parameters body ih =>
      simp [postorder, isPresent, isComplete, all_isPresent_postorderAll ih]
  | call name arguments ih =>
      simp [postorder, isPresent, isComplete, all_isPresent_postorderAll ih]
  | integer value => rfl
  | reference name => rfl
  | missing => rfl

/-- What is reached in front of further nodes. -/
theorem takeWhile_isPresent_append {before : List Node} {complete : Bool}
    (presentEq : before.all isPresent = complete) (after : List Node) :
    (before ++ after).takeWhile isPresent =
      before.takeWhile isPresent ++
        if complete then after.takeWhile isPresent else [] := by
  subst presentEq
  induction before with
  | nil => simp
  | cons first rest ih =>
      cases firstEq : first.isPresent with
      | false => simp [firstEq]
      | true => simp [firstEq, ih]

@[simp]
theorem reachedAll_cons (node : Node) (rest : List Node) :
    reachedAll (node :: rest) =
      node.reached ++ if node.isComplete then reachedAll rest else [] :=
  takeWhile_isPresent_append node.all_isPresent_postorder (postorderAll rest)

theorem reached_parent {node : Node} {children : List Node}
    (present : node.isPresent = true)
    (postorderEq : node.postorder = postorderAll children ++ [node]) :
    node.reached =
      reachedAll children ++ if areComplete children then [node] else [] := by
  have presentEq : (postorderAll children).all isPresent =
      areComplete children :=
    all_isPresent_postorderAll fun child _ => child.all_isPresent_postorder
  rw [reached, postorderEq, takeWhile_isPresent_append presentEq,
    List.takeWhile_cons_of_pos present, List.takeWhile_nil, reachedAll]

end Node

/-- A program does the same as another one, and appends entries to a record. -/
def Notes {m : Type → Type} [Monad m] {β γ ε : Type}
    (program : StateT (List ε) m γ) (original : m β) (convert : β → γ)
    (entries : List ε) : Prop :=
  ∀ record, program.run record =
    (fun result => (convert result, record ++ entries)) <$> original

/-- A traversal stops where another one does, and appends entries to a record on
the way. -/
def Recorded {m : Type → Type} [Monad m] {β γ ε : Type}
    (program : ExceptT MissingNode (StateT (List ε) m) γ)
    (original : ExceptT MissingNode m β) (convert : β → γ)
    (entries : List ε) : Prop :=
  Notes program.run original.run (Except.map convert) entries

namespace Recorded

variable {m : Type → Type} [Monad m] [LawfulMonad m] {β γ β' γ' ε : Type}
  {program : ExceptT MissingNode (StateT (List ε) m) γ}
  {original : ExceptT MissingNode m β} {convert : β → γ} {entries : List ε}
  {next : γ → ExceptT MissingNode (StateT (List ε) m) γ'}
  {originalNext : β → ExceptT MissingNode m β'} {convertNext : β' → γ'}

theorem pure_nil (convert : β → γ) (result : β) :
    Recorded (pure (convert result) :
      ExceptT MissingNode (StateT (List ε) m) γ) (pure result) convert [] := by
  intro record
  rw [ExceptT.run_pure, ExceptT.run_pure, StateT.run_pure, map_pure,
    List.append_nil]
  rfl

theorem throw_nil (convert : β → γ) (fault : MissingNode) :
    Recorded (throw fault : ExceptT MissingNode (StateT (List ε) m) γ)
      (throw fault) convert [] := by
  intro record
  rw [ExceptT.run_throw, ExceptT.run_throw, StateT.run_pure, map_pure,
    List.append_nil]
  rfl

theorem lift {method : StateT (List ε) m γ} {originalMethod : m β}
    (notes : Notes method originalMethod convert entries) :
    Recorded (liftM method : ExceptT MissingNode (StateT (List ε) m) γ)
      (liftM originalMethod : ExceptT MissingNode m β) convert entries := by
  intro record
  change StateT.run (Except.ok <$> method) record =
    _ <$> (Except.ok <$> originalMethod)
  rw [StateT.run_map, notes, Functor.map_map, Functor.map_map]
  rfl

/-- What follows is recorded only if the first program returns. -/
theorem bind {complete : Bool} {holds : β → Prop} {more : List ε}
    (recorded : Recorded program original convert entries)
    (yields : Always (Yields complete holds) original.run)
    (following : ∀ value, holds value →
      Recorded (next (convert value)) (originalNext value) convertNext more) :
    Recorded (program >>= next) (original >>= originalNext) convertNext
      (entries ++ if complete then more else []) := by
  intro record
  rw [ExceptT.run_bind, ExceptT.run_bind, StateT.run_bind, recorded,
    bind_map_left, map_bind]
  apply yields.bind_congr
  rintro (fault | value) outcome
  · have incomplete : complete = false := outcome
    subst incomplete
    have stopped : Recorded (throw fault) (throw fault) convertNext [] :=
      throw_nil (m := m) (ε := ε) convertNext fault
    rw [if_neg Bool.false_ne_true, ← List.append_assoc]
    exact stopped (record ++ entries)
  · obtain ⟨rfl, isTrue⟩ := outcome
    rw [if_pos rfl, ← List.append_assoc]
    exact following value isTrue (record ++ entries)

end Recorded

namespace Algebra

variable {m : Type → Type} [Monad m] {α β ε : Type}

/-- A second interpretation does the same as the first one, and appends the
entry of a node to a record at the call of its method. -/
structure Records (recorder : Algebra (StateT (List ε) m) β)
    (algebra : Algebra m α) (entry : Node → Option ε)
    (pair : Node → α → β) : Prop where
  root {body : List Node} {values : List α}
    (lengthEq : body.length = values.length) :
    Notes (recorder.root (List.zipWith pair body values))
      (algebra.root values) (pair (.root body)) (entry (.root body)).toList
  define {name : Bytes} {parameters : List Bytes} {body : List Node}
    {values : List α} (lengthEq : body.length = values.length) :
    Notes (recorder.define name parameters (List.zipWith pair body values))
      (algebra.define name parameters values)
      (pair (.define name parameters body))
      (entry (.define name parameters body)).toList
  call {name : Bytes} {arguments : List Node} {values : List α}
    (lengthEq : arguments.length = values.length) :
    Notes (recorder.call name (List.zipWith pair arguments values))
      (algebra.call name values) (pair (.call name arguments))
      (entry (.call name arguments)).toList
  integer (value : Int) :
    Notes (recorder.integer value) (algebra.integer value)
      (pair (.integer value)) (entry (.integer value)).toList
  reference (name : Bytes) :
    Notes (recorder.reference name) (algebra.reference name)
      (pair (.reference name)) (entry (.reference name)).toList

namespace Records

variable {algebra : Algebra m α} {recorder : Algebra (StateT (List ε) m) β}
  {entry : Node → Option ε} {pair : Node → α → β}

omit [Monad m] in
theorem filterMap_ite_singleton (entry : Node → Option ε) (node : Node)
    (complete : Bool) :
    (if complete then [node] else []).filterMap entry =
      if complete then (entry node).toList else [] := by
  cases complete with
  | false => rfl
  | true => cases isEntry : entry node <;> simp [isEntry]

variable [LawfulMonad m]

theorem foldAllM {nodes : List Node}
    (recorded : ∀ node ∈ nodes,
      Recorded (node.foldM recorder) (node.foldM algebra) (pair node)
        (node.reached.filterMap entry)) :
    Recorded (Node.foldAllM recorder nodes) (Node.foldAllM algebra nodes)
      (List.zipWith pair nodes) ((Node.reachedAll nodes).filterMap entry) := by
  induction nodes with
  | nil =>
      rw [Node.foldAllM, Node.foldAllM]
      exact Recorded.pure_nil (List.zipWith pair []) []
  | cons node rest ih =>
      have recordedRest := ih fun other member =>
        recorded other (List.mem_cons_of_mem node member)
      have yieldsRest : Always _ (Node.foldAllM algebra rest).run :=
        Respects.foldAllM fun other _ => (Respects.of_true algebra).foldM other
      rw [Node.foldAllM, Node.foldAllM, Node.reachedAll_cons,
        List.filterMap_append, apply_ite (List.filterMap entry)]
      apply (recorded node List.mem_cons_self).bind
        ((Respects.of_true algebra).foldM node)
      intro value _
      have noMore : (Node.reachedAll rest).filterMap entry =
          (Node.reachedAll rest).filterMap entry ++
            if Node.areComplete rest then [] else [] := by
        simp
      rw [noMore]
      apply recordedRest.bind yieldsRest
      intro values _
      exact Recorded.pure_nil (List.zipWith pair (node :: rest))
        (value :: values)

theorem parent {nodes : List Node} {node : Node}
    (present : node.isPresent = true)
    (postorderEq : node.postorder = Node.postorderAll nodes ++ [node])
    {method : List β → StateT (List ε) m β} {original : List α → m α}
    (called : ∀ values, nodes.length = values.length →
      Notes (method (List.zipWith pair nodes values)) (original values)
        (pair node) (entry node).toList)
    (recorded : Recorded (Node.foldAllM recorder nodes)
      (Node.foldAllM algebra nodes) (List.zipWith pair nodes)
      ((Node.reachedAll nodes).filterMap entry)) :
    Recorded (do method (← Node.foldAllM recorder nodes))
      (do original (← Node.foldAllM algebra nodes)) (pair node)
      (node.reached.filterMap entry) := by
  have yields : Always _ (Node.foldAllM algebra nodes).run :=
    Respects.foldAllM fun child _ => (Respects.of_true algebra).foldM child
  rw [Node.reached_parent present postorderEq, List.filterMap_append,
    filterMap_ite_singleton]
  apply recorded.bind yields
  intro values fit
  exact Recorded.lift (called values fit.length_eq)

/-- The record of a traversal has one entry for every node that is reached, in
order. -/
theorem foldM (records : recorder.Records algebra entry pair) (node : Node) :
    Recorded (node.foldM recorder) (node.foldM algebra) (pair node)
      (node.reached.filterMap entry) := by
  induction node with
  | root body ih =>
      rw [Node.foldM, Node.foldM]
      exact parent rfl rfl (fun _ => records.root) (foldAllM ih)
  | define name parameters body ih =>
      rw [Node.foldM, Node.foldM]
      exact parent rfl rfl (fun _ => records.define) (foldAllM ih)
  | call name arguments ih =>
      rw [Node.foldM, Node.foldM]
      exact parent rfl rfl (fun _ => records.call) (foldAllM ih)
  | integer value =>
      have reachedEq : (Node.integer value).reached.filterMap entry =
          (entry (.integer value)).toList :=
        filterMap_ite_singleton entry (.integer value) true
      rw [Node.foldM, Node.foldM, reachedEq]
      exact Recorded.lift (records.integer value)
  | reference name =>
      have reachedEq : (Node.reference name).reached.filterMap entry =
          (entry (.reference name)).toList :=
        filterMap_ite_singleton entry (.reference name) true
      rw [Node.foldM, Node.foldM, reachedEq]
      exact Recorded.lift (records.reference name)
  | missing =>
      rw [Node.foldM, Node.foldM]
      exact Recorded.throw_nil (pair .missing) ⟨⟩

end Records

/-- Enters a tree in the record and calls its method. -/
def enter (node : Node) (method : m α) :
    StateT (List Node) m (Node × α) := do
  modify (· ++ [node])
  return (node, ← method)

/-- The interpretation that keeps a record of its calls.  Every value stands
beside its tree, and so each call names the tree that it was made for. -/
def recorded (algebra : Algebra m α) :
    Algebra (StateT (List Node) m) (Node × α) where
  root body := enter (.root (body.map Prod.fst))
    (algebra.root (body.map Prod.snd))
  define name parameters body :=
    enter (.define name parameters (body.map Prod.fst))
      (algebra.define name parameters (body.map Prod.snd))
  call name arguments := enter (.call name (arguments.map Prod.fst))
    (algebra.call name (arguments.map Prod.snd))
  integer value := enter (.integer value) (algebra.integer value)
  reference name := enter (.reference name) (algebra.reference name)

theorem notes_enter [LawfulMonad m] {method original : m α}
    {named node : Node} (namedEq : named = node)
    (methodEq : method = original) :
    Notes (enter named method) original (Prod.mk node) [node] := by
  subst namedEq methodEq
  intro record
  simp [enter]

theorem recorded_records [LawfulMonad m] (algebra : Algebra m α) :
    algebra.recorded.Records algebra some Prod.mk := by
  have trees {nodes : List Node} {values : List α}
      (lengthEq : nodes.length = values.length) :
      (nodes.zip values).map Prod.fst = nodes :=
    List.map_fst_zip (Nat.le_of_eq lengthEq)
  have results {nodes : List Node} {values : List α}
      (lengthEq : nodes.length = values.length) :
      (nodes.zip values).map Prod.snd = values :=
    List.map_snd_zip (Nat.le_of_eq lengthEq.symm)
  constructor
  · intro body values lengthEq
    exact notes_enter (congrArg Node.root (trees lengthEq))
      (congrArg algebra.root (results lengthEq))
  · intro name parameters body values lengthEq
    exact notes_enter (congrArg (Node.define name parameters) (trees lengthEq))
      (congrArg (algebra.define name parameters) (results lengthEq))
  · intro name arguments values lengthEq
    exact notes_enter (congrArg (Node.call name) (trees lengthEq))
      (congrArg (algebra.call name) (results lengthEq))
  · intro value
    exact notes_enter rfl rfl
  · intro name
    exact notes_enter rfl rfl

/-- The interpretation without effects and results. -/
def silent : Algebra Id Unit where
  root _ := ()
  define _ _ _ := ()
  call _ _ := ()
  integer _ := ()
  reference _ := ()

end Algebra

namespace Node

/-- How a node is listed among the visits. -/
def visit? : Node → Option Visit
  | root _ => some .root
  | define name _ _ => some (.define name)
  | call name _ => some (.call name)
  | integer value => some (.integer value)
  | reference name => some (.reference name)
  | missing => none

theorem visitor_records :
    visitor.Records Algebra.silent visit? fun _ _ => () where
  root _ _ := rfl
  define _ _ := rfl
  call _ _ := rfl
  integer _ _ := rfl
  reference _ _ := rfl

theorem builder_respects : builder.Respects Eq := by
  have listEq {nodes copies : List Node}
      (fit : List.Forall₂ Eq nodes copies) : nodes = copies := by
    rwa [List.forall₂_eq_eq_eq] at fit
  constructor
  · intro body copies fit
    exact Always.of_id (congrArg root (listEq fit))
  · intro name parameters body copies fit
    exact Always.of_id (congrArg (define name parameters) (listEq fit))
  · intro name arguments copies fit
    exact Always.of_id (congrArg (call name) (listEq fit))
  · intro value
    exact Always.of_id rfl
  · intro name
    exact Always.of_id rfl

/-- A traversal stops exactly if a node is missing.  Up to there it calls one
method for each node in order, whatever the methods do, and the visits that are
listed are these calls.  A complete tree is rebuilt by its own constructors. -/
theorem foldM_calls_in_postorder (node : Node) :
    (∀ {α : Type} (algebra : Algebra Id α),
      node.fold algebra = .error ⟨⟩ ↔ node.isComplete = false) ∧
    (∀ {σ α : Type} (algebra : Algebra (StateM σ) α) (state : σ),
      ((node.foldM algebra).run.run state).1 = .error ⟨⟩ ↔
        node.isComplete = false) ∧
    (∀ {m : Type → Type} [Monad m] [LawfulMonad m] {α : Type}
      (algebra : Algebra m α) (record : List Node),
      (node.foldM algebra.recorded).run.run record =
        (fun result => (result.map (Prod.mk node), record ++ node.reached)) <$>
          (node.foldM algebra).run) ∧
    node.visits = node.reached.filterMap visit? ∧
    (node.isComplete = true → ∃ copy, node.fold builder = .ok copy ∧
      copy = node ∧
      ∀ {m : Type → Type} [Monad m] {α : Type} (algebra : Algebra m α),
        copy.foldM algebra = node.foldM algebra) := by
  refine ⟨?_, ?_, ?_, ?_, ?_⟩
  · intro α algebra
    have yields := ((Algebra.Respects.of_true algebra).foldM node).run_id
    exact yields.eq_error_iff
  · intro σ α algebra state
    have yields :=
      ((Algebra.Respects.of_true algebra).foldM node).run_state state
    exact yields.eq_error_iff
  · intro m _ _ α algebra record
    have recorded := algebra.recorded_records.foldM node record
    rw [List.filterMap_some] at recorded
    exact recorded
  · have recorded := visitor_records.foldM node []
    exact congrArg Prod.snd recorded
  · intro complete
    obtain ⟨copy, foldEq, rfl⟩ := builder_respects.exists_fold complete
    exact ⟨node, foldEq, rfl, fun algebra => rfl⟩

/-- The calls behind a gap in the arguments are not made, and neither is the
call for the node around it. -/
theorem foldM_calls_up_to_gap :
    let argument := Node.call "g" [.integer 1, .reference "x"]
    let torn := Node.call "f" [argument, .missing, .integer 2]
    (torn.foldM depths.recorded).run.run [] =
        (.error ⟨⟩, [.integer 1, .reference "x", argument]) ∧
      argument.fold builder = .ok argument := by
  intro argument torn
  have stopped := (foldM_calls_in_postorder torn).2.2.1 depths []
  obtain ⟨copy, foldEq, rfl, _⟩ :=
    (foldM_calls_in_postorder argument).2.2.2.2 rfl
  exact ⟨stopped, foldEq⟩

end Node

end Defun
