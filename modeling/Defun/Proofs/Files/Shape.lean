import Defun.Proofs.Files.Tree

/-!
# Trees of the same shape

What the files of a tree hold makes no difference to which directories and files
can be made in it.
-/

namespace Defun

/-- An entry without the content of a file. -/
def FileEntry.shape : FileEntry → FileEntry
  | file _ => file []
  | entry => entry

def FileNode.shape (node : FileNode) : FileNode :=
  ⟨node.entry.shape, node.refusals⟩

section Node

variable {node other : FileNode} (same : other.shape = node.shape)

include same

theorem FileNode.refusals_eq_of_shape : other.refusals = node.refusals := by
  change other.shape.refusals = node.shape.refusals
  rw [same]

theorem FileNode.entry_eq_of_shape {entry : FileEntry}
    (isEntry : node.entry = entry)
    (notFile : ∀ content, entry ≠ .file content) : other.entry = entry := by
  have shapeEq := congrArg FileNode.entry same
  rw [shape, shape, isEntry] at shapeEq
  cases entry with
  | file content => exact absurd rfl (notFile content)
  | _ =>
      cases otherEntry : other.entry <;> rw [otherEntry] at shapeEq <;>
        cases shapeEq <;> rfl

theorem FileNode.isFile_of_shape {content : Bytes}
    (isFile : node.entry = .file content) :
    ∃ content, other.entry = .file content := by
  have shapeEq := congrArg FileNode.entry same
  rw [shape, shape, isFile] at shapeEq
  cases otherEntry : other.entry with
  | file content => exact ⟨content, rfl⟩
  | _ =>
      rw [otherEntry] at shapeEq
      cases shapeEq

theorem FileNode.isDirectory_eq_of_shape :
    (other.entry == .directory) = (node.entry == .directory) := by
  cases isEntry : node.entry with
  | file content =>
      obtain ⟨otherContent, otherEntry⟩ := FileNode.isFile_of_shape same isEntry
      rw [otherEntry]
      rfl
  | _ =>
      rw [FileNode.entry_eq_of_shape same isEntry
        (fun _ isFile => by cases isFile)]

end Node

namespace FileTree

theorem makeDirectory_eq_ok_iff {tree made : FileTree} {path : Bytes} :
    tree.makeDirectory path = .ok made ↔
      ∃ around names, tree.locateAround path = .ok around ∧
        tree.enter around ((Path.names path).getLastD Path.here) = .ok names ∧
        tree.find? names = none ∧ tree.make names .directory = .ok made := by
  rw [makeDirectory]
  constructor
  · intro makes
    split at makes
    · cases makes
    · next around located =>
        split at makes
        · cases makes
        · next names entered =>
            split at makes
            · cases makes
            · next vacant => exact ⟨around, names, located, entered, vacant, makes⟩
  · rintro ⟨around, names, located, entered, vacant, makes⟩
    rw [located]
    dsimp only
    rw [entered]
    dsimp only
    rw [vacant]
    exact makes

/-- Trees that differ in the contents of files only. -/
structure SameShape (tree other : FileTree) : Prop where
  here_eq : other.here = tree.here
  shape_eq : ∀ names, (other.find? names).map FileNode.shape =
    (tree.find? names).map FileNode.shape

namespace SameShape

theorem refl (tree : FileTree) : tree.SameShape tree := ⟨rfl, fun _ => rfl⟩

variable {tree other third : FileTree}

theorem symm (same : tree.SameShape other) : other.SameShape tree :=
  ⟨same.here_eq.symm, fun names => (same.shape_eq names).symm⟩

theorem trans (first : tree.SameShape other) (second : other.SameShape third) :
    tree.SameShape third :=
  ⟨second.here_eq.trans first.here_eq,
    fun names => (second.shape_eq names).trans (first.shape_eq names)⟩

theorem put {names : List Bytes} {node otherNode : FileNode}
    (same : tree.SameShape other) (sameNode : otherNode.shape = node.shape) :
    (tree.put names node).SameShape (other.put names otherNode) where
  here_eq := same.here_eq
  shape_eq place := by
    by_cases isHere : place = names
    · simp [isHere, sameNode]
    · rw [find?_put_of_ne isHere, find?_put_of_ne isHere]
      exact same.shape_eq place

theorem append {names : List Bytes} {text : Bytes}
    (appends : tree.append names text = .ok other) : tree.SameShape other := by
  rw [FileTree.append] at appends
  split at appends
  · next content refusals found =>
      split at appends
      · cases appends
      · cases appends
        refine ⟨rfl, ?_⟩
        intro place
        by_cases isHere : place = names
        · rw [isHere, find?_put_self, found]
          rfl
        · rw [find?_put_of_ne isHere]
  · cases appends

variable (same : tree.SameShape other)

include same

theorem find?_none {names : List Bytes} (vacant : tree.find? names = none) :
    other.find? names = none := by
  have shapeEq := same.shape_eq names
  rwa [vacant, Option.map_none, Option.map_eq_none_iff] at shapeEq

theorem find?_some {names : List Bytes} {node : FileNode}
    (found : tree.find? names = some node) :
    ∃ otherNode, other.find? names = some otherNode ∧
      otherNode.shape = node.shape := by
  have shapeEq := same.shape_eq names
  rwa [found, Option.map_some, Option.map_eq_some_iff] at shapeEq

theorem link?_eq_some {names : List Bytes} {target : Bytes}
    (linked : tree.link? names = some target) :
    other.link? names = some target := by
  rw [link?] at linked
  split at linked
  · next isTarget refusals found =>
      obtain ⟨⟨entry, others⟩, otherFound, shapeEq⟩ := same.find?_some found
      obtain rfl : entry = .link isTarget :=
        FileNode.entry_eq_of_shape shapeEq rfl (fun _ isFile => by cases isFile)
      rw [link?, otherFound, ← linked]
  · cases linked

theorem search_eq {place : List Bytes} (searched : tree.search place = .ok ()) :
    other.search place = .ok () := by
  rw [search] at searched ⊢
  cases found : tree.find? place with
  | none =>
      rw [found] at searched
      cases searched
  | some node =>
      obtain ⟨otherNode, otherFound, shapeEq⟩ := same.find?_some found
      rw [found] at searched
      rw [otherFound]
      dsimp only at searched ⊢
      rw [FileNode.refusals_eq_of_shape shapeEq]
      cases isEntry : node.entry with
      | directory =>
          rw [FileNode.entry_eq_of_shape shapeEq isEntry
            (fun _ isFile => by cases isFile)]
          rwa [isEntry] at searched
      | _ =>
          rw [isEntry] at searched
          cases searched

theorem sameWays : tree.SameWays other where
  here_eq := same.here_eq
  link?_eq names := by
    cases linked : tree.link? names with
    | some target => exact same.link?_eq_some linked
    | none =>
        cases otherLinked : other.link? names with
        | none => rfl
        | some target =>
            rw [same.symm.link?_eq_some otherLinked] at linked
            cases linked
  search_iff _ := ⟨same.symm.search_eq, same.search_eq⟩

theorem isDirectory_eq {path : Bytes} {isDirectory : Bool}
    (isKnown : tree.isDirectory path = .ok isDirectory) :
    other.isDirectory path = .ok isDirectory := by
  rw [FileTree.isDirectory, look] at isKnown ⊢
  cases located : tree.locate path with
  | error fault =>
      rw [located] at isKnown
      cases isKnown
  | ok names =>
      rw [located] at isKnown
      rw [same.sameWays.locate_iff.mpr located]
      dsimp only at isKnown ⊢
      cases found : tree.find? names with
      | none =>
          rw [found] at isKnown
          cases isKnown
      | some node =>
          obtain ⟨otherNode, otherFound, shapeEq⟩ := same.find?_some found
          rw [found] at isKnown
          rw [otherFound, ← isKnown]
          exact congrArg Except.ok (FileNode.isDirectory_eq_of_shape shapeEq)

theorem isDirectory_error {path : Bytes} {fault : FileFault}
    (isUnknown : tree.isDirectory path = .error fault) :
    ∃ otherFault, other.isDirectory path = .error otherFault := by
  cases otherKnown : other.isDirectory path with
  | error otherFault => exact ⟨otherFault, rfl⟩
  | ok isDirectory =>
      rw [same.symm.isDirectory_eq otherKnown] at isUnknown
      cases isUnknown

theorem make {names : List Bytes} {entry : FileEntry} {made : FileTree}
    (makes : tree.make names entry = .ok made) :
    ∃ otherMade, other.make names entry = .ok otherMade ∧
      made.SameShape otherMade := by
  have refusalEq : ((other.find? names.dropLast).bind fun node =>
      node.refusals.openWrite) =
        (tree.find? names.dropLast).bind fun node => node.refusals.openWrite := by
    cases found : tree.find? names.dropLast with
    | none => rw [same.find?_none found]
    | some node =>
        obtain ⟨otherNode, otherFound, shapeEq⟩ := same.find?_some found
        rw [otherFound, Option.bind_some, Option.bind_some,
          FileNode.refusals_eq_of_shape shapeEq]
  rw [FileTree.make] at makes ⊢
  rw [refusalEq]
  split at makes
  · cases makes
  · cases makes
    exact ⟨_, rfl, same.put rfl⟩

theorem makeDirectory {path : Bytes} {made : FileTree}
    (makes : tree.makeDirectory path = .ok made) :
    ∃ otherMade, other.makeDirectory path = .ok otherMade ∧
      made.SameShape otherMade := by
  obtain ⟨around, names, located, entered, vacant, makes⟩ :=
    makeDirectory_eq_ok_iff.mp makes
  obtain ⟨otherMade, otherMakes, sameMade⟩ := same.make makes
  refine ⟨otherMade, makeDirectory_eq_ok_iff.mpr ⟨around, names, ?_, ?_,
    same.find?_none vacant, otherMakes⟩, sameMade⟩
  · exact same.sameWays.locateAlong_eq located
  · exact same.sameWays.enter_eq entered

end SameShape

/-- How directories are made: the one with the given names, the last one first,
and those on the way to it. -/
inductive Makes (rooted : Bool) : List Bytes → FileTree → FileTree → Prop where
  | root {tree : FileTree} : Makes rooted [] tree tree
  | present {name : Bytes} {around : List Bytes} {tree : FileTree}
      (isPresent : tree.isDirectory
        (Path.ofNamesFrom rooted (name :: around).reverse) = .ok true) :
      Makes rooted (name :: around) tree tree
  | made {name : Bytes} {around : List Bytes} {tree parent made : FileTree}
      {fault : FileFault}
      (isMissing : tree.isDirectory
        (Path.ofNamesFrom rooted (name :: around).reverse) = .error fault)
      (makesAround : Makes rooted around tree parent)
      (makes : parent.makeDirectory
        (Path.ofNamesFrom rooted (name :: around).reverse) = .ok made) :
      Makes rooted (name :: around) tree made

theorem Makes.of_sameShape {rooted : Bool} {names : List Bytes}
    {tree other made : FileTree} (makes : Makes rooted names tree made)
    (same : tree.SameShape other) :
    ∃ otherMade, Makes rooted names other otherMade ∧
      made.SameShape otherMade := by
  induction makes with
  | root => exact ⟨other, .root, same⟩
  | present isPresent =>
      exact ⟨other, .present (same.isDirectory_eq isPresent), same⟩
  | made isMissing _ makes ih =>
      obtain ⟨otherParent, makesAround, sameParent⟩ := ih same
      obtain ⟨otherFault, otherMissing⟩ := same.isDirectory_error isMissing
      obtain ⟨otherMade, otherMakes, sameMade⟩ := sameParent.makeDirectory makes
      exact ⟨otherMade, .made otherMissing makesAround otherMakes, sameMade⟩

section Create

variable {tree other created : FileTree} {path : Bytes} {names : List Bytes}

theorem SameWays.locateFor_eq {mode : OpenMode} (same : tree.SameWays other)
    (located : tree.locateFor mode path = .ok names) :
    other.locateFor mode path = .ok names := by
  rw [locateFor] at located ⊢
  split at located
  · split at located <;> cases located
  · next isFile =>
      rw [if_neg isFile]
      exact same.locate_iff.mpr located

/-- A file can be made in trees of the same shape, and it is the same there. -/
theorem Opens.create_of_sameShape
    (opens : tree.Opens .create path (.file names) created)
    (same : tree.SameShape other) :
    ∃ otherCreated, other.Opens .create path (.file names) otherCreated ∧
      otherCreated.find? names = created.find? names := by
  cases opens with
  | made isWritten located vacant makes =>
      obtain ⟨otherMade, otherMakes, -⟩ := same.make makes
      refine ⟨otherMade, .made isWritten (same.sameWays.locateFor_eq located)
        (same.find?_none vacant) otherMakes, ?_⟩
      simp [eq_put_of_make makes, eq_put_of_make otherMakes]
  | directory _ _ isAllowed isDirectory =>
      exact (FileNode.refusal?_ne_none isDirectory (by decide) isAllowed).elim
  | file _ _ _ _ isKept => exact absurd rfl isKept
  | emptied located found isAllowed isFile isCreated =>
      obtain ⟨otherNode, otherFound, shapeEq⟩ := same.find?_some found
      obtain ⟨content, otherFile⟩ := FileNode.isFile_of_shape shapeEq isFile
      have refusalsEq := FileNode.refusals_eq_of_shape shapeEq
      have otherAllowed : otherNode.refusal? .create = none := by
        rw [FileNode.refusal?.eq_def, isFile] at isAllowed
        rw [FileNode.refusal?.eq_def, otherFile, refusalsEq]
        exact isAllowed
      refine ⟨_, .emptied (same.sameWays.locateFor_eq located) otherFound
        otherAllowed otherFile isCreated, ?_⟩
      simp [refusalsEq]

end Create

end FileTree

end Defun
