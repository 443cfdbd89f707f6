import Defun.Files.Tree

/-!
# Worlds

A world is a model of a system: a tree of files, standard streams and a clock.
It is a host, whose uses are functions of the world that they find.
-/

namespace Defun

structure World where
  files : FileTree
  /-- What is left of standard input, in pieces. -/
  input : List Bytes
  /-- Why standard input fails behind its last piece, if it does. -/
  inputFault : Option FileFault
  output : Bytes
  /-- Why nothing can be written to standard output, if so. -/
  outputFault : Option FileFault
  errors : Bytes
  /-- What the clock shows each time that it is looked at. -/
  clock : Nat → Log.Instant
  /-- How often the clock was looked at. -/
  looks : Nat

namespace World

/-- The blocks that are read as long as more is wanted behind a text, and those
that are left if it is not wanted. -/
def wanted (wantsMore : Bytes → Bool) (text : Bytes) :
    List Bytes → List Bytes × Option (List Bytes)
  | [] => ([], none)
  | block :: rest =>
      let longer := text ++ block
      if wantsMore longer then
        let (blocks, left) := wanted wantsMore longer rest
        (block :: blocks, left)
      else ([block], some rest)

variable (world : World)

def makeDirectory (path : Bytes) : Except FileFault Unit × World :=
  match world.files.makeDirectory path with
  | .error fault => (.error fault, world)
  | .ok files => (.ok (), { world with files })

def openFile (mode : OpenMode) (path : Bytes) :
    Except FileFault FileHandle × World :=
  match world.files.openFile mode path with
  | .error fault => (.error fault, world)
  | .ok (handle, files) => (.ok handle, { world with files })

/-- What is left to read of a file, why no more, and the world without it. -/
def take (handle : FileHandle) : List Bytes × Option FileFault × World :=
  match handle with
  | .device .input => (world.input, world.inputFault, { world with input := [] })
  | .device _ => ([], none, world)
  | .file names =>
      let (pieces, fault) := world.files.contents names
      (pieces, fault, world)

/-- Leaves pieces to be read later.  Nothing but standard input is used up by
being read. -/
def giveBack (handle : FileHandle) (pieces : List Bytes) : World :=
  match handle with
  | .device .input => { world with input := pieces }
  | _ => world

def readBlocks (handle : FileHandle) (size : Nat) (wantsMore : Bytes → Bool) :
    (List Bytes × Option FileFault) × World :=
  let (pieces, fault, taken) := world.take handle
  match wanted wantsMore [] (pieces.flatMap (Bytes.blocks size)) with
  | (blocks, none) => ((blocks, fault), taken)
  | (blocks, some rest) => ((blocks, none), taken.giveBack handle rest)

def write (handle : FileHandle) (text : Bytes) :
    Except FileFault Unit × World :=
  match handle with
  | .device .output =>
      match world.outputFault with
      | some fault => (.error fault, world)
      | none => (.ok (), { world with output := world.output ++ text })
  | .device .errors => (.ok (), { world with errors := world.errors ++ text })
  | .device _ => (.ok (), world)
  | .file names =>
      match world.files.append names text with
      | .error fault => (.error fault, world)
      | .ok files => (.ok (), { world with files })

end World

/-- Goes through pieces one after the other. -/
def World.feed {σ : Type} (step : σ → Bytes → StateM World σ) :
    σ → List Bytes → StateM World σ
  | state, [] => pure state
  | state, piece :: rest => do
      let next ← step state piece
      feed step next rest

@[reducible]
def World.host : Host (StateM World) where
  Handle := FileHandle
  standardInput := .device .input
  standardOutput := .device .output
  standardError := .device .errors
  now world :=
    (world.clock world.looks, { world with looks := world.looks + 1 })
  isDirectory path world := (world.files.isDirectory path, world)
  makeDirectory path world := world.makeDirectory path
  openFile mode path world := world.openFile mode path
  read handle step state world :=
    let (pieces, fault, taken) := world.take handle
    let (state, world) := World.feed step state pieces taken
    ((state, fault), world)
  readBlocks handle size wantsMore world := world.readBlocks handle size wantsMore
  write handle text world := world.write handle text

end Defun
