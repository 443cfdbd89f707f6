import Defun.Proofs.Files.Shape
import Defun.World

/-!
# Runs in a world

What a program does in a world is computed step by step: each use of the host is
a function of the world that the uses before it have left.
-/

namespace Defun

namespace World

section Run

variable {α β : Type} (world : World)

@[simp]
theorem run_pure (value : α) :
    (pure value : StateM World α) world = (value, world) := rfl

@[simp]
theorem run_bind (action : StateM World α) (next : α → StateM World β) :
    (action >>= next) world = next (action world).1 (action world).2 := rfl

end Run

section Host

variable (world : World)

@[simp]
theorem host_isDirectory (path : Bytes) :
    host.isDirectory path world = (world.files.isDirectory path, world) := rfl

@[simp]
theorem host_openFile (mode : OpenMode) (path : Bytes) :
    host.openFile mode path world = world.openFile mode path := rfl

@[simp]
theorem host_write (handle : FileHandle) (text : Bytes) :
    host.write handle text world = world.write handle text := rfl

theorem write_output {world : World} (isWritable : world.outputFault = none)
    (text : Bytes) :
    world.write (.device .output) text =
      (.ok (), { world with output := world.output ++ text }) := by
  rw [write.eq_def]
  dsimp only
  rw [isWritable]

theorem writeAll_output {world : World} (isWritable : world.outputFault = none)
    (texts : List Bytes) :
    host.writeAll (.device .output) texts world =
      (.ok (), { world with output := world.output ++ texts.flatten }) := by
  induction texts generalizing world with
  | nil =>
      rw [Host.writeAll, List.flatten_nil, List.append_nil]
      rfl
  | cons text rest ih =>
      rw [Host.writeAll, run_bind, host_write, write_output isWritable]
      rw [List.flatten_cons, ← List.append_assoc]
      exact ih isWritable

end Host

section Reading

/-- What is left to read of a file, as an input. -/
def inputOf (world : World) (handle : FileHandle) (path : Bytes) : Input :=
  Host.inputOf path (world.take handle).1 (world.take handle).2.1

/-- The world in which all of a file was read. -/
def afterRead (world : World) (handle : FileHandle) : World :=
  (world.take handle).2.2

theorem feed_cons_pieces (pieces gathered : List Bytes) (world : World) :
    feed (fun gathered piece => pure (piece :: gathered)) gathered pieces world =
      (pieces.reverse ++ gathered, world) := by
  induction pieces generalizing gathered with
  | nil => rfl
  | cons piece rest ih =>
      rw [feed, run_bind, run_pure, ih, List.reverse_cons, List.append_assoc,
        List.singleton_append]

@[simp]
theorem readAll_eq (handle : FileHandle) (path : Bytes) (world : World) :
    host.readAll handle path world =
      (world.inputOf handle path, world.afterRead handle) := by
  have gathered := feed_cons_pieces (world.take handle).1 []
    (world.afterRead handle)
  rw [List.append_nil] at gathered
  have reads : host.read handle
      (fun gathered piece => pure (piece :: gathered)) [] world =
        (((world.take handle).1.reverse, (world.take handle).2.1),
          world.afterRead handle) := by
    change ((_, _), _) = _
    exact congrArg (fun fed : List Bytes × World =>
      ((fed.1, (world.take handle).2.1), fed.2)) gathered
  rw [Host.readAll, run_bind, reads]
  simp [inputOf]

/-- Reading takes from standard input, and changes nothing else. -/
theorem afterRead_eq (handle : FileHandle) (world : World) :
    ∃ input, world.afterRead handle = { world with input } := by
  rw [afterRead, take.eq_def]
  split
  · exact ⟨_, rfl⟩
  · exact ⟨_, rfl⟩
  · exact ⟨_, rfl⟩

section Wanted

variable (size : Nat) (wantsMore : Bytes → Bool) (world : World)
  (handle : FileHandle)

/-- What is wanted of a file, as an input. -/
def wantedOf (path : Bytes) : Input :=
  let (blocks, fault) := (world.readBlocks handle size wantsMore).1
  Host.inputOf path blocks fault

/-- The world in which what is wanted of a file was read. -/
def afterWanted : World := (world.readBlocks handle size wantsMore).2

@[simp]
theorem readWanted_eq (path : Bytes) :
    host.readWanted handle path size wantsMore world =
      (world.wantedOf size wantsMore handle path,
        world.afterWanted size wantsMore handle) :=
  rfl

theorem afterWanted_eq :
    ∃ input, world.afterWanted size wantsMore handle = { world with input } := by
  obtain ⟨input, takenEq⟩ := afterRead_eq handle world
  rw [afterRead] at takenEq
  rw [afterWanted, readBlocks]
  dsimp only
  rw [takenEq]
  split
  · exact ⟨input, rfl⟩
  · next rest _ =>
      dsimp only
      rw [giveBack.eq_def]
      split
      · exact ⟨rest, rfl⟩
      · exact ⟨input, rfl⟩

end Wanted

end Reading

section Opening

variable {world : World} {mode : OpenMode} {path : Bytes}

theorem openFile_of_error {fault : FileFault}
    (refused : world.files.openFile mode path = .error fault) :
    world.openFile mode path = (.error fault, world) := by
  rw [openFile, refused]

theorem openFile_of_ok {handle : FileHandle} {files : FileTree}
    (opens : world.files.openFile mode path = .ok (handle, files)) :
    world.openFile mode path = (.ok handle, { world with files }) := by
  rw [openFile, opens]

end Opening

section Files

theorem sameShape_write (handle : FileHandle) (text : Bytes) (world : World) :
    world.files.SameShape (world.write handle text).2.files := by
  rw [write.eq_def]
  split
  · split <;> exact .refl _
  · exact .refl _
  · exact .refl _
  · split
    · exact .refl _
    · next files appends => exact .append appends

theorem makeDirectories_of_makes {rooted : Bool} {names : List Bytes}
    {files made : FileTree} (makes : FileTree.Makes rooted names files made)
    {world : World} (isFiles : world.files = files) :
    host.makeDirectories rooted names world =
      (.ok (), { world with files := made }) := by
  induction makes with
  | root =>
      cases isFiles
      rfl
  | present isPresent =>
      cases isFiles
      rw [Host.makeDirectories]
      dsimp only
      rw [run_bind, isPresent]
      rfl
  | made isMissing _ makes ih =>
      cases isFiles
      rw [Host.makeDirectories]
      dsimp only
      rw [run_bind, isMissing]
      dsimp only
      rw [run_bind, ih rfl]
      dsimp only
      rw [run_bind, makeDirectory, makes]
      rfl

/-- Texts that are written to a file stand behind what it held. -/
theorem writeAll_file {world : World} {names : List Bytes} {content : Bytes}
    {refusals : Refusals}
    (found : world.files.find? names = some ⟨.file content, refusals⟩)
    (isWritable : refusals.write = none) (texts : List Bytes) :
    ∃ files, host.writeAll (.file names) texts world =
        (.ok (), { world with files }) ∧
      FileTree.DifferAt names world.files files ∧
      files.find? names = some ⟨.file (content ++ texts.flatten), refusals⟩ := by
  induction texts generalizing world content with
  | nil =>
      refine ⟨world.files, rfl, .refl (FileTree.isLeaf_of_find? found rfl), ?_⟩
      rw [List.flatten_nil, List.append_nil]
      exact found
  | cons text rest ih =>
      let longer : World := { world with
        files := world.files.put names ⟨.file (content ++ text), refusals⟩ }
      have appends : world.files.append names text = .ok longer.files := by
        rw [FileTree.append, found]
        dsimp only
        rw [isWritable]
      have writes : world.write (.file names) text = (.ok (), longer) := by
        rw [write.eq_def]
        dsimp only
        rw [appends]
      have foundLonger : longer.files.find? names =
          some ⟨.file (content ++ text), refusals⟩ :=
        FileTree.find?_put_self
      obtain ⟨files, writesRest, differ, isFound⟩ := ih foundLonger
      refine ⟨files, ?_, (FileTree.differAt_append appends).trans differ, ?_⟩
      · rw [Host.writeAll, run_bind, host_write, writes]
        exact writesRest
      · rw [isFound, List.flatten_cons, List.append_assoc]

end Files

end World

end Defun
