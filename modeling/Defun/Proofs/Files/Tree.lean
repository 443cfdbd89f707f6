import Defun.Files.Tree

/-!
# Changes to trees of files

A file that is made, emptied or written to is no way to anything else.  Paths
lead where they led before, and only what is at the place of the file is
different.
-/

namespace Defun

theorem FileNode.refusal?_ne_none {node : FileNode} {mode : OpenMode}
    (isDirectory : node.entry = .directory) (isWritten : mode ≠ .read) :
    node.refusal? mode ≠ none := by
  rw [FileNode.refusal?.eq_def, isDirectory]
  cases mode with
  | read => exact absurd rfl isWritten
  | _ => exact Option.some_ne_none _

namespace FileTree

section Put

variable {tree : FileTree} {names : List Bytes} {node : FileNode}

theorem lookup_filter_ne {nodes : List (List Bytes × FileNode)}
    {other : List Bytes} (elsewhere : other ≠ names) :
    (nodes.filter fun known => known.1 != names).lookup other =
      nodes.lookup other := by
  induction nodes with
  | nil => rfl
  | cons first rest ih =>
      obtain ⟨known, old⟩ := first
      rw [List.filter_cons]
      by_cases isHere : known = names
      · have notKnown : (other == known) = false := by
          simpa [isHere] using elsewhere
        rw [if_neg (by simpa using isHere), ih, List.lookup_cons, notKnown]
      · rw [if_pos (by simpa using isHere), List.lookup_cons, List.lookup_cons,
          ih]

@[simp]
theorem find?_put_self : (tree.put names node).find? names = some node :=
  List.lookup_cons_self

@[simp]
theorem find?_put_of_ne {other : List Bytes} (elsewhere : other ≠ names) :
    (tree.put names node).find? other = tree.find? other := by
  have notHere : (other == names) = false := by simpa using elsewhere
  rw [find?, put, List.lookup_cons, notHere]
  exact lookup_filter_ne elsewhere

@[simp]
theorem here_put : (tree.put names node).here = tree.here := rfl

end Put

/-- Trees in which paths lead to the same places: the links are the same, and
names can be looked up in the same directories. -/
structure SameWays (tree other : FileTree) : Prop where
  here_eq : other.here = tree.here
  link?_eq : ∀ names, other.link? names = tree.link? names
  search_iff : ∀ place, other.search place = .ok () ↔ tree.search place = .ok ()

namespace SameWays

variable {tree other : FileTree} (same : tree.SameWays other)

include same

theorem symm : other.SameWays tree where
  here_eq := same.here_eq.symm
  link?_eq names := (same.link?_eq names).symm
  search_iff place := (same.search_iff place).symm

theorem enter_eq {place next : List Bytes} {name : Bytes}
    (entered : tree.enter place name = .ok next) :
    other.enter place name = .ok next := by
  rw [enter] at entered ⊢
  cases searched : tree.search place with
  | error fault =>
      rw [searched] at entered
      cases entered
  | ok =>
      rw [searched] at entered
      rw [(same.search_iff place).mpr searched]
      exact entered

theorem follow_eq
    {jump otherJump : List Bytes → List Bytes → Except FileFault (List Bytes)}
    (jumps : ∀ place names last,
      jump place names = .ok last → otherJump place names = .ok last)
    {place names last : List Bytes}
    (followed : tree.follow jump place names = .ok last) :
    other.follow otherJump place names = .ok last := by
  induction names generalizing place with
  | nil => exact followed
  | cons name rest ih =>
      rw [follow] at followed ⊢
      cases entered : tree.enter place name with
      | error fault =>
          rw [entered] at followed
          cases followed
      | ok next =>
          rw [entered] at followed
          rw [same.enter_eq entered]
          dsimp only at followed ⊢
          rw [same.link?_eq]
          cases linked : tree.link? next with
          | some target =>
              rw [linked] at followed
              exact jumps _ _ _ followed
          | none =>
              rw [linked] at followed
              exact ih followed

theorem walk_eq {links : Nat} {place names last : List Bytes}
    (walked : tree.walk links place names = .ok last) :
    other.walk links place names = .ok last := by
  induction links generalizing place names last with
  | zero => exact same.follow_eq (fun _ _ _ jumped => by cases jumped) walked
  | succ links ih => exact same.follow_eq (fun _ _ _ => ih) walked

theorem locateAlong_eq {path : Bytes} {names last : List Bytes}
    (located : tree.locateAlong path names = .ok last) :
    other.locateAlong path names = .ok last := by
  rw [locateAlong] at located ⊢
  split at located
  · cases located
  · next noZero =>
      rw [if_neg noZero]
      split at located
      · cases located
      · next isShort =>
          rw [if_neg isShort]
          split at located
          · cases located
          · next isNamed =>
              rw [if_neg isNamed, same.here_eq]
              exact same.walk_eq located

theorem locate_iff {path : Bytes} {names : List Bytes} :
    other.locate path = .ok names ↔ tree.locate path = .ok names :=
  ⟨same.symm.locateAlong_eq, same.locateAlong_eq⟩

end SameWays

/-- Whether nothing but a file can be found at a place. -/
def IsLeaf (tree : FileTree) (names : List Bytes) : Prop :=
  ∀ node, tree.find? names = some node → ∃ content, node.entry = .file content

/-- Trees that differ in one file at most. -/
structure DifferAt (names : List Bytes) (tree other : FileTree) : Prop where
  here_eq : other.here = tree.here
  find?_eq : ∀ place, place ≠ names → other.find? place = tree.find? place
  wasLeaf : tree.IsLeaf names
  isLeaf : other.IsLeaf names

section Leaf

variable {tree other : FileTree} {names : List Bytes}

theorem IsLeaf.link?_eq (leaf : tree.IsLeaf names) :
    tree.link? names = none := by
  rw [link?]
  split
  · next target refusals found =>
      obtain ⟨content, isFile⟩ := leaf _ found
      cases isFile
  · rfl

theorem IsLeaf.search_ne (leaf : tree.IsLeaf names) :
    tree.search names ≠ .ok () := by
  rw [search]
  cases found : tree.find? names with
  | none => simp
  | some node =>
      obtain ⟨content, isFile⟩ := leaf node found
      dsimp only
      rw [isFile]
      simp

theorem isLeaf_put {content : Bytes} {refusals : Refusals} :
    (tree.put names ⟨.file content, refusals⟩).IsLeaf names := by
  intro node found
  rw [find?_put_self] at found
  cases found
  exact ⟨content, rfl⟩

theorem differAt_put {content : Bytes} {refusals : Refusals}
    (wasLeaf : tree.IsLeaf names) :
    DifferAt names tree (tree.put names ⟨.file content, refusals⟩) :=
  ⟨here_put, fun _ elsewhere => find?_put_of_ne elsewhere, wasLeaf, isLeaf_put⟩

namespace DifferAt

theorem refl (leaf : tree.IsLeaf names) : DifferAt names tree tree :=
  ⟨rfl, fun _ _ => rfl, leaf, leaf⟩

theorem trans {third : FileTree} (first : DifferAt names tree other)
    (second : DifferAt names other third) : DifferAt names tree third :=
  ⟨second.here_eq.trans first.here_eq,
    fun place elsewhere => (second.find?_eq place elsewhere).trans
      (first.find?_eq place elsewhere),
    first.wasLeaf, second.isLeaf⟩

variable (differ : DifferAt names tree other)

include differ

theorem sameWays : tree.SameWays other where
  here_eq := differ.here_eq
  link?_eq place := by
    by_cases isHere : place = names
    · rw [isHere, differ.wasLeaf.link?_eq, differ.isLeaf.link?_eq]
    · rw [link?, link?, differ.find?_eq place isHere]
  search_iff place := by
    by_cases isHere : place = names
    · rw [isHere]
      exact ⟨fun found => (differ.isLeaf.search_ne found).elim,
        fun found => (differ.wasLeaf.search_ne found).elim⟩
    · rw [search, search, differ.find?_eq place isHere]

/-- A path that leads to another place leads to what it led to. -/
theorem look_eq {path : Bytes} (elsewhere : tree.locate path ≠ .ok names) :
    (other.look path).toOption = (tree.look path).toOption := by
  rw [look, look]
  cases located : tree.locate path with
  | ok place =>
      have notHere : place ≠ names := by
        rintro rfl
        exact elsewhere located
      rw [differ.sameWays.locate_iff.mpr located]
      dsimp only
      rw [differ.find?_eq place notHere]
  | error fault =>
      cases otherLocated : other.locate path with
      | ok place =>
          rw [differ.sameWays.locate_iff.mp otherLocated] at located
          cases located
      | error otherFault => rfl

end DifferAt

end Leaf

section Open

/-- The ways to open a file. -/
inductive Opens (tree : FileTree) (mode : OpenMode) (path : Bytes) :
    FileHandle → FileTree → Prop where
  | made {names : List Bytes} {made : FileTree} (isWritten : mode ≠ .read)
      (located : tree.locateFor mode path = .ok names)
      (vacant : tree.find? names = none)
      (makes : tree.make names (.file []) = .ok made) :
      Opens tree mode path (.file names) made
  | device {names : List Bytes} {node : FileNode} {device : Device}
      (located : tree.locateFor mode path = .ok names)
      (found : tree.find? names = some node)
      (isAllowed : node.refusal? mode = none)
      (isDevice : node.entry = .device device) :
      Opens tree mode path (.device device) tree
  | directory {names : List Bytes} {node : FileNode}
      (located : tree.locateFor mode path = .ok names)
      (found : tree.find? names = some node)
      (isAllowed : node.refusal? mode = none)
      (isDirectory : node.entry = .directory) :
      Opens tree mode path (.file names) tree
  | file {names : List Bytes} {node : FileNode} {content : Bytes}
      (located : tree.locateFor mode path = .ok names)
      (found : tree.find? names = some node)
      (isAllowed : node.refusal? mode = none)
      (isFile : node.entry = .file content) (isKept : mode ≠ .create) :
      Opens tree mode path (.file names) tree
  | emptied {names : List Bytes} {node : FileNode} {content : Bytes}
      (located : tree.locateFor mode path = .ok names)
      (found : tree.find? names = some node)
      (isAllowed : node.refusal? mode = none)
      (isFile : node.entry = .file content) (isCreated : mode = .create) :
      Opens tree mode path (.file names)
        (tree.put names ⟨.file [], node.refusals⟩)

variable {tree opened : FileTree} {mode : OpenMode} {path : Bytes}
  {handle : FileHandle}

theorem opens_of_openFile
    (opens : tree.openFile mode path = .ok (handle, opened)) :
    tree.Opens mode path handle opened := by
  rw [openFile] at opens
  split at opens
  · cases opens
  · next names located =>
      cases found : tree.find? names with
      | none =>
          rw [found] at opens
          cases makes : tree.make names (.file []) with
          | error fault =>
              rw [makes] at opens
              cases mode <;> cases opens
          | ok made =>
              rw [makes] at opens
              cases mode with
              | read => cases opens
              | append =>
                  cases opens
                  exact .made (by decide) located found makes
              | create =>
                  cases opens
                  exact .made (by decide) located found makes
      | some node =>
          rw [found] at opens
          dsimp only at opens
          split at opens
          · cases opens
          · next isAllowed =>
              cases isEntry : node.entry with
              | device device =>
                  rw [isEntry] at opens
                  cases opens
                  exact .device located found isAllowed isEntry
              | directory =>
                  rw [isEntry] at opens
                  cases opens
                  exact .directory located found isAllowed isEntry
              | link target =>
                  rw [isEntry] at opens
                  cases opens
              | file content =>
                  rw [isEntry] at opens
                  cases mode with
                  | create =>
                      cases opens
                      exact .emptied located found isAllowed isEntry rfl
                  | _ =>
                      cases opens
                      exact .file located found isAllowed isEntry (by decide)

theorem Opens.openFile_eq (opens : tree.Opens mode path handle opened) :
    tree.openFile mode path = .ok (handle, opened) := by
  rw [openFile]
  cases opens with
  | made isWritten located vacant makes =>
      rw [located]
      dsimp only
      rw [vacant]
      cases mode with
      | read => exact absurd rfl isWritten
      | _ =>
          dsimp only
          rw [makes]
          rfl
  | device located found isAllowed isEntry =>
      rw [located]
      dsimp only
      rw [found]
      dsimp only
      rw [isAllowed, isEntry]
  | directory located found isAllowed isEntry =>
      rw [located]
      dsimp only
      rw [found]
      dsimp only
      rw [isAllowed, isEntry]
  | file located found isAllowed isEntry isKept =>
      rw [located]
      dsimp only
      rw [found]
      dsimp only
      rw [isAllowed, isEntry]
      cases mode with
      | create => exact absurd rfl isKept
      | _ => rfl
  | emptied located found isAllowed isEntry isCreated =>
      rw [located]
      dsimp only
      rw [found]
      dsimp only
      rw [isAllowed, isEntry, isCreated]

theorem locate_of_locateFor {names : List Bytes}
    (located : tree.locateFor mode path = .ok names) :
    tree.locate path = .ok names := by
  rw [locateFor] at located
  split at located
  · split at located <;> cases located
  · exact located

theorem Opens.eq_of_read (opens : tree.Opens .read path handle opened) :
    opened = tree := by
  cases opens with
  | made isWritten => exact absurd rfl isWritten
  | emptied _ _ _ _ isCreated => cases isCreated
  | _ => rfl

theorem isLeaf_of_find?_eq_none {names : List Bytes}
    (vacant : tree.find? names = none) : tree.IsLeaf names := by
  intro node found
  rw [vacant] at found
  cases found

theorem isLeaf_of_find? {names : List Bytes} {node : FileNode} {content : Bytes}
    (found : tree.find? names = some node)
    (isFile : node.entry = .file content) : tree.IsLeaf names := by
  intro other isFound
  rw [found] at isFound
  cases isFound
  exact ⟨content, isFile⟩

theorem eq_put_of_make {tree made : FileTree} {names : List Bytes}
    {entry : FileEntry} (makes : tree.make names entry = .ok made) :
    made = tree.put names entry.free := by
  rw [make] at makes
  split at makes
  · cases makes
  · exact (Except.ok.inj makes).symm

/-- What is opened to be written to is a device or a file, and no other file is
changed for it. -/
theorem Opens.written_cases (opens : tree.Opens mode path handle opened)
    (isWritten : mode ≠ .read) :
    (∃ device, handle = .device device ∧ opened = tree) ∨
      ∃ names, handle = .file names ∧ tree.locate path = .ok names ∧
        DifferAt names tree opened := by
  cases opens with
  | device => exact Or.inl ⟨_, rfl, rfl⟩
  | directory _ _ isAllowed isDirectory =>
      exact (FileNode.refusal?_ne_none isDirectory isWritten isAllowed).elim
  | file located found _ isFile =>
      exact Or.inr ⟨_, rfl, locate_of_locateFor located,
        .refl (isLeaf_of_find? found isFile)⟩
  | emptied located found _ isFile =>
      exact Or.inr ⟨_, rfl, locate_of_locateFor located,
        differAt_put (isLeaf_of_find? found isFile)⟩
  | made _ located vacant makes =>
      rw [eq_put_of_make makes]
      exact Or.inr ⟨_, rfl, locate_of_locateFor located,
        differAt_put (isLeaf_of_find?_eq_none vacant)⟩

theorem differAt_append {names : List Bytes} {text : Bytes} {appended : FileTree}
    (appends : tree.append names text = .ok appended) :
    DifferAt names tree appended := by
  rw [append] at appends
  split at appends
  · next content refusals found =>
      split at appends
      · cases appends
      · cases appends
        exact differAt_put (isLeaf_of_find? found rfl)
  · cases appends

end Open

section Content

/-- Whether all of a file with a path can be read, and is the given text. -/
def Reads (tree : FileTree) (path text : Bytes) : Prop :=
  ∃ names refusals, tree.locate path = .ok names ∧
    tree.find? names = some ⟨.file text, refusals⟩ ∧
    refusals.openRead = none ∧ refusals.read = none

theorem Reads.look_eq {tree : FileTree} {path text : Bytes}
    (reads : tree.Reads path text) :
    (tree.look path).map FileNode.entry = .ok (.file text) := by
  obtain ⟨names, refusals, located, found, -⟩ := reads
  rw [look, located]
  dsimp only
  rw [found]
  rfl

end Content

/-- Paths that lead to the same place. -/
def SameFile (tree : FileTree) (path other : Bytes) : Prop :=
  ∃ names, tree.locate path = .ok names ∧ tree.locate other = .ok names

@[simp]
theorem openFile_nil (tree : FileTree) (mode : OpenMode) :
    tree.openFile mode [] = .error .missing := by
  have located : tree.locateFor mode [] = .error .missing := by
    rw [locateFor, if_neg (fun isPath => by cases isPath.2)]
    rfl
  rw [openFile, located]

end FileTree

end Defun
