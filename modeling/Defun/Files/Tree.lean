import Defun.Host

/-!
# Trees of files

A tree holds files, directories, links and devices, each with the names on the
way to it from the root.  Paths are followed name by name, and each way to fail
has its own cause.  A name below something that is no directory is never
reached.
-/

namespace Defun

/-- A device that leads to a standard stream, or one that takes everything and
holds nothing. -/
inductive Device where
  | input
  | output
  | errors
  | null
deriving DecidableEq, Repr

inductive FileEntry where
  | file (content : Bytes)
  | directory
  /-- Another path, to be followed from where the link stands. -/
  | link (target : Bytes)
  | device (device : Device)
deriving DecidableEq, Repr

/-- What is refused, and why. -/
structure Refusals where
  /-- To look up names in a directory. -/
  search : Option FileFault
  openRead : Option FileFault
  /-- To open a file to write to it, or to make something in a directory. -/
  openWrite : Option FileFault
  read : Option FileFault
  write : Option FileFault
deriving DecidableEq, Repr

def Refusals.none : Refusals :=
  ⟨Option.none, Option.none, Option.none, Option.none, Option.none⟩

/-- What is in a tree, and what may be done with it. -/
structure FileNode where
  entry : FileEntry
  refusals : Refusals
deriving DecidableEq, Repr

def FileEntry.free (entry : FileEntry) : FileNode := ⟨entry, .none⟩

/-- Why something is not opened, if it is not. -/
def FileNode.refusal? (node : FileNode) (mode : OpenMode) : Option FileFault :=
  match mode, node.entry with
  | .read, _ => node.refusals.openRead
  | _, .directory => some .isDirectory
  | _, _ => node.refusals.openWrite

inductive FileHandle where
  | device (device : Device)
  | file (names : List Bytes)
deriving DecidableEq, Repr

structure FileTree where
  nodes : List (List Bytes × FileNode)
  /-- The names of the working directory. -/
  here : List Bytes
deriving DecidableEq, Repr

namespace FileTree

variable (tree : FileTree)

def find? (names : List Bytes) : Option FileNode := tree.nodes.lookup names

/-- A tree with something in the place of what was there. -/
def put (names : List Bytes) (node : FileNode) : FileTree :=
  { tree with
    nodes := (names, node) ::
      tree.nodes.filter fun known => known.1 != names }

/-- The names in a directory, in order. -/
def children (names : List Bytes) : List Bytes :=
  (tree.nodes.filterMap fun (other, _) =>
    match other.getLast? with
    | some last => if other.dropLast == names then some last else none
    | none => none).mergeSort Bytes.le

/-- Whether names can be looked up at a place. -/
def search (place : List Bytes) : Except FileFault Unit :=
  match tree.find? place with
  | none => .error .missing
  | some node =>
      match node.entry, node.refusals.search with
      | .directory, none => .ok ()
      | .directory, some fault => .error fault
      | _, _ => .error .notDirectory

def enter (place : List Bytes) (name : Bytes) :
    Except FileFault (List Bytes) :=
  match tree.search place with
  | .error fault => .error fault
  | .ok () =>
      if name.length > 255 then .error .nameTooLong
      else if name = Path.here then .ok place
      else if name = Path.up then .ok place.dropLast
      else .ok (place ++ [name])

def link? (names : List Bytes) : Option Bytes :=
  match tree.find? names with
  | some ⟨.link target, _⟩ => some target
  | _ => none

/-- Follows names up to the first link, and leaves the rest to `jump`. -/
def follow (jump : List Bytes → List Bytes → Except FileFault (List Bytes))
    (place : List Bytes) : List Bytes → Except FileFault (List Bytes)
  | [] => .ok place
  | name :: rest =>
      match tree.enter place name with
      | .error fault => .error fault
      | .ok next =>
          match tree.link? next with
          | some target =>
              jump (Path.start target place) (Path.steps target ++ rest)
          | none => follow jump next rest

/-- Follows names from a place through a number of links. -/
def walk : (links : Nat) → (place names : List Bytes) →
    Except FileFault (List Bytes)
  | 0 => tree.follow fun _ _ => .error .tooManyLinks
  | links + 1 => tree.follow (walk links)

/-- The number of links that a path may lead through. -/
def maxLinks : Nat := 40

/-- Follows names on the way of a path. -/
def locateAlong (path : Bytes) (names : List Bytes) :
    Except FileFault (List Bytes) :=
  if path.contains 0 then .error .invalid
  else if path.length ≥ 4096 then .error .nameTooLong
  else if path.isEmpty then .error .missing
  else tree.walk maxLinks (Path.start path tree.here) names

/-- The place that a path leads to, whether or not there is something. -/
def locate (path : Bytes) : Except FileFault (List Bytes) :=
  tree.locateAlong path (Path.steps path)

/-- The directory of the last name of a path. -/
def locateAround (path : Bytes) : Except FileFault (List Bytes) :=
  tree.locateAlong path ((Path.names path).dropLast ++ [Path.here])

/-- What a path leads to. -/
def look (path : Bytes) : Except FileFault FileNode :=
  match tree.locate path with
  | .error fault => .error fault
  | .ok names =>
      match tree.find? names with
      | none => .error .missing
      | some node => .ok node

def isDirectory (path : Bytes) : Except FileFault Bool :=
  (tree.look path).map fun node => node.entry == .directory

/-- Makes something at a place where nothing is. -/
def make (names : List Bytes) (entry : FileEntry) : Except FileFault FileTree :=
  match (tree.find? names.dropLast).bind fun node => node.refusals.openWrite with
  | some fault => .error fault
  | none => .ok (tree.put names entry.free)

/-- Makes a directory.  A link is not followed, but in the way. -/
def makeDirectory (path : Bytes) : Except FileFault FileTree :=
  match tree.locateAround path with
  | .error fault => .error fault
  | .ok around =>
      match tree.enter around ((Path.names path).getLastD Path.here) with
      | .error fault => .error fault
      | .ok names =>
          match tree.find? names with
          | some _ => .error .taken
          | none => tree.make names .directory

/-- The place of a file to be opened.  A path to a directory does not do for a
file that may have to be made. -/
def locateFor (mode : OpenMode) (path : Bytes) :
    Except FileFault (List Bytes) :=
  if mode ≠ .read ∧ Path.wantsDirectory path then
    match tree.locateAround path with
    | .error fault => .error fault
    | .ok _ => .error .isDirectory
  else tree.locate path

def openFile (mode : OpenMode) (path : Bytes) :
    Except FileFault (FileHandle × FileTree) :=
  match tree.locateFor mode path with
  | .error fault => .error fault
  | .ok names =>
      match tree.find? names, mode with
      | none, .read => .error .missing
      | none, _ =>
          (tree.make names (.file [])).map fun made => (.file names, made)
      | some node, _ =>
          match node.refusal? mode with
          | some fault => .error fault
          | none =>
              match node.entry, mode with
              | .device device, _ => .ok (.device device, tree)
              | .directory, _ => .ok (.file names, tree)
              | .file _, .create =>
                  .ok (.file names,
                    tree.put names { node with entry := .file [] })
              | .file _, _ => .ok (.file names, tree)
              -- Links were followed on the way to this place.
              | .link _, _ => .error .tooManyLinks

def contents (names : List Bytes) : List Bytes × Option FileFault :=
  match tree.find? names with
  | some ⟨.file content, refusals⟩ => ([content], refusals.read)
  | some ⟨.directory, _⟩ => ([], some .isDirectory)
  | _ => ([], some .invalid)

def append (names : List Bytes) (text : Bytes) : Except FileFault FileTree :=
  match tree.find? names with
  | some ⟨.file content, refusals⟩ =>
      match refusals.write with
      | some fault => .error fault
      | none => .ok (tree.put names ⟨.file (content ++ text), refusals⟩)
  | _ => .error .invalid

end FileTree

end Defun
