import Defun.Proofs.Command.History
import Defun.Proofs.Command.Journal
import Defun.Proofs.Files.Shape
import Defun.Proofs.Session.Buffer

/-!
# Histories from one run to the next

A run at a prompt answers the lines of its input, wherever that is cut, and
writes its history at the end.  The next run reads it.
-/

namespace Defun

namespace Exchange

theorem ne_nil_of_mem_doneGroups {exchanges : List Exchange}
    {group : List Bytes} (member : group ∈ doneGroups exchanges) :
    group ≠ [] := by
  induction exchanges using List.reverseRecOn with
  | nil => cases member
  | append_singleton exchanges last ih =>
      rw [doneGroups_concat, List.mem_append] at member
      rcases member with isOld | isLast
      · exact ih isOld
      · split at isLast
        · rw [List.mem_singleton.mp isLast]
          exact List.append_ne_nil_of_right_ne_nil _ (List.cons_ne_nil _ _)
        · cases isLast

theorem mem_of_mem_doneGroups {exchanges : List Exchange}
    {group : List Bytes} (member : group ∈ doneGroups exchanges) {line : Bytes}
    (inGroup : line ∈ group) : line ∈ exchanges.map Exchange.line := by
  rw [← flatten_doneGroups_append_waiting]
  exact List.mem_append_left _ (List.mem_flatten_of_mem member inGroup)

end Exchange

namespace Prompt

variable (kinds : List Kind)

/-- The entries of a prompt that starts without a history: one for each text
that was completed, but not for one that is the same as the one before. -/
def held (lines : List Bytes) : List Bytes :=
  ((Exchange.doneGroups (Session.transcript kinds lines)).map
    Bytes.unlines).foldl History.add []

theorem length_held_le (lines : List Bytes) :
    (held kinds lines).length ≤ History.limit :=
  History.length_foldl_add_le History.length_nil_le _

variable {keeper : History.Keeper}

/-- A line adds an entry exactly if the answer to it is done. -/
theorem enter_fst (prompt : Prompt) (line : Bytes) :
    (prompt.enter keeper kinds line).1 =
      ⟨(prompt.session.feed kinds line).1,
        if (prompt.session.feed kinds line).2.isDone then
          keeper.add prompt.history (prompt.session.feed kinds line).2.source
        else prompt.history⟩ := by
  rw [enter]
  rcases prompt.session.feed kinds line with ⟨session, source, result⟩
  rcases result with _ | _ | _ <;> rfl

theorem enter_held (lawful : keeper.Lawful) (lines : List Bytes) (line : Bytes) :
    (Prompt.enter keeper kinds
        ⟨Session.after kinds lines, held kinds lines⟩ line).1 =
      ⟨Session.after kinds (lines ++ [line]), held kinds (lines ++ [line])⟩ := by
  rw [enter_fst, Session.after_concat, held, held, Session.transcript_concat,
    Exchange.doneGroups_concat, List.map_append, List.foldl_append, ← held,
    lawful.add_eq_add (length_held_le kinds lines)]
  dsimp only
  rcases Session.feed_cases kinds (Session.after kinds lines) line with
    ⟨error, _, _, fed⟩ | ⟨_, fed⟩
  · rw [fed]
    rfl
  · rw [fed, Session.pending_after]
    rfl

/-- The lines of an entry are lines that were entered. -/
theorem plain_of_mem_held {lines : List Bytes}
    (plain : ∀ line ∈ lines, Line.IsPlain line) {entry : Bytes}
    (member : entry ∈ held kinds lines) :
    ∀ line ∈ History.entryLines entry, Line.IsPlain line := by
  rcases History.mem_of_mem_foldl_add member with none | isEntered
  · cases none
  · obtain ⟨group, inGroups, rfl⟩ := List.mem_map.mp isEntered
    have groupPlain : ∀ line ∈ group, Line.IsPlain line := by
      intro line inGroup
      apply plain
      have isLine := Exchange.mem_of_mem_doneGroups inGroups inGroup
      rwa [Session.map_line_transcript] at isLine
    -- No line of the group has a line end, so the group can be told from its
    -- text.
    have groupEq : History.entryLines (Bytes.unlines group) = group :=
      List.splitOn_intercalate Bytes.newline
        (fun line inGroup => (groupPlain line inGroup).newline_not_mem)
        (Exchange.ne_nil_of_mem_doneGroups inGroups)
    rw [groupEq]
    exact groupPlain

end Prompt

namespace Command

open World

section Answers

variable (keeper : History.Keeper) (setup : Setup FileHandle)

theorem answerLine_eq (prompt : Prompt) (line : Bytes) (world : World) :
    answerLine host keeper setup prompt line world =
      let (next, reply) := prompt.enter keeper setup.kinds line
      let logged := setup.journal.recordsIn world reply.records
      let answered := (logged.write (.device .output) reply.output).2
      let told : World :=
        { answered with errors := answered.errors ++ reply.complaint }
      (next, (told.write (.device .output) next.sign).2) := by
  rw [answerLine]
  dsimp only
  rw [run_bind, Journal.writeAll_eq]
  rfl

/-- What a prompt is after a line does not depend on what it prints or logs. -/
@[simp]
theorem answerLine_fst (prompt : Prompt) (line : Bytes) (world : World) :
    (answerLine host keeper setup prompt line world).1 =
      (prompt.enter keeper setup.kinds line).1 := by
  rw [answerLine_eq]

theorem sameShape_answerLine (prompt : Prompt) (line : Bytes) (world : World) :
    world.files.SameShape
      (answerLine host keeper setup prompt line world).2.files := by
  rw [answerLine_eq]
  obtain ⟨next, reply⟩ := prompt.enter keeper setup.kinds line
  let logged := setup.journal.recordsIn world reply.records
  let answered := (logged.write (.device .output) reply.output).2
  have shape : answered.files.SameShape _ :=
    sameShape_write (.device .output) next.sign
      (host.complain reply.complaint answered).2
  exact ((setup.journal.sameShape_recordsIn world reply.records).trans
    (sameShape_write (.device .output) reply.output logged)).trans shape

theorem sameShape_answerLines (prompt : Prompt) (lines : List Line)
    (world : World) :
    world.files.SameShape
      (answerLines host keeper setup prompt lines world).2.files := by
  induction lines generalizing prompt world with
  | nil => exact .refl _
  | cons line rest ih =>
      exact (sameShape_answerLine keeper setup prompt line.text world).trans
        (ih _ _)

theorem answerLines_append (prompt : Prompt) (lines more : List Line)
    (world : World) :
    answerLines host keeper setup prompt (lines ++ more) world =
      let answered := answerLines host keeper setup prompt lines world
      answerLines host keeper setup answered.1 more answered.2 := by
  induction lines generalizing prompt world with
  | nil => rfl
  | cons line rest ih =>
      rw [List.cons_append, answerLines, run_bind, ih]
      rfl

/-- What a prompt that starts without a history is after some lines. -/
theorem answerLines_fst (lawful : keeper.Lawful) (before lines : List Bytes)
    (world : World) :
    (answerLines host keeper setup
        ⟨Session.after setup.kinds before, Prompt.held setup.kinds before⟩
        (lines.map fun line => ⟨line, false⟩) world).1 =
      ⟨Session.after setup.kinds (before ++ lines),
        Prompt.held setup.kinds (before ++ lines)⟩ := by
  induction lines generalizing before world with
  | nil => rw [List.append_nil]; rfl
  | cons line rest ih =>
      rw [List.map_cons, answerLines, run_bind, answerLine_fst,
        Prompt.enter_held setup.kinds lawful, ih, List.append_assoc,
        List.singleton_append]

/-- The lines of an input are answered in the same way wherever it is cut. -/
theorem feed_answerPiece (prompt : Prompt) (waiting : Bytes)
    (pieces : List Bytes) (world : World) :
    let fed := feed (answerPiece host keeper setup) (prompt, waiting) pieces world
    answerLines host keeper setup fed.1.1 (Line.all fed.1.2) fed.2 =
      answerLines host keeper setup prompt
        (Line.all (waiting ++ pieces.flatten)) world := by
  induction pieces generalizing prompt waiting world with
  | nil =>
      rw [List.flatten_nil, List.append_nil]
      rfl
  | cons piece rest ih =>
      rw [List.flatten_cons, ← List.append_assoc, Line.all_append,
        answerLines_append]
      exact ih _ _ _

end Answers

section Keep

variable {site : Site} {keeper : History.Keeper}

/-- Whether a history can be kept: its directory is there or can be made, and
in it a file that can be written to and read. -/
def Site.Keeps (site : Site) (files : FileTree) : Prop :=
  ∃ made created names refusals,
    FileTree.Makes (Path.isAbsolute site.historyDirectory)
      (Path.names site.historyDirectory).reverse files made ∧
    made.Opens .create site.history (.file names) created ∧
    created.find? names = some ⟨.file [], refusals⟩ ∧
    refusals.write = none ∧ refusals.openRead = none ∧ refusals.read = none

theorem Site.Keeps.of_sameShape {files others : FileTree}
    (keeps : site.Keeps files) (same : files.SameShape others) :
    site.Keeps others := by
  obtain ⟨made, created, names, refusals, makes, opens, isEmpty, allowed⟩ := keeps
  obtain ⟨otherMade, otherMakes, sameMade⟩ := makes.of_sameShape same
  obtain ⟨otherCreated, otherOpens, foundEq⟩ := opens.create_of_sameShape sameMade
  exact ⟨otherMade, otherCreated, names, refusals, otherMakes, otherOpens,
    foundEq.trans isEmpty, allowed⟩

theorem writeHistory_of_keeps (lawful : keeper.Lawful) {world : World}
    (keeps : site.Keeps world.files) (entries : List Bytes) :
    (writeHistory host keeper site entries world).2.files.Reads site.history
      (History.text entries) := by
  obtain ⟨made, created, names, refusals, makes, opens, isEmpty, writable,
    openable, readable⟩ := keeps
  have openedEq : World.openFile { world with files := made } .create
      site.history = (.ok (.file names), { world with files := created }) :=
    openFile_of_ok opens.openFile_eq
  obtain ⟨files, writes, differ, found⟩ :
      ∃ files, host.writeAll (.file names) (keeper.write entries)
          { world with files := created } = (.ok (), { world with files }) ∧
        FileTree.DifferAt names created files ∧
        files.find? names = some ⟨.file ([] ++ (keeper.write entries).flatten),
          refusals⟩ :=
    writeAll_file isEmpty writable (keeper.write entries)
  have finishedEq : writeHistory host keeper site entries world =
      ((), { world with files }) := by
    rw [writeHistory]
    dsimp only
    rw [run_bind, makeDirectories_of_makes makes rfl]
    dsimp only
    rw [run_bind, openedEq]
    dsimp only
    rw [run_bind, writes]
    rfl
  have located : files.locate site.history = .ok names := by
    rcases opens.written_cases (by decide) with
      ⟨device, isDevice, -⟩ | ⟨place, isPlace, located, opened⟩
    · cases isDevice
    · cases isPlace
      exact (opened.trans differ).sameWays.locate_iff.mpr located
  rw [finishedEq]
  rw [List.nil_append, lawful.write_eq] at found
  exact ⟨names, refusals, located, found, openable, readable⟩

theorem readHistory_of_openFile (keeper : History.Keeper) {world : World}
    {handle : FileHandle}
    (opens : world.openFile .read site.history = (.ok handle, world)) :
    readHistory host keeper site world =
      match keeper.read (world.inputOf handle site.history) with
      | (entries, none) => (entries, world.afterRead handle)
      | (entries, some message) =>
          (entries, (host.complainLine message (world.afterRead handle)).2) := by
  rw [readHistory, run_bind, host_openFile, opens]
  dsimp only
  rw [run_bind, readAll_eq]
  rcases reads : keeper.read (world.inputOf handle site.history) with
    ⟨entries, _ | message⟩ <;> simp only [reads] <;> rfl

theorem readHistory_of_reads (lawful : keeper.Lawful) {world : World}
    {lines : List Bytes} (plain : ∀ line ∈ lines, Line.IsPlain line)
    (reads : world.files.Reads site.history (History.text lines)) :
    readHistory host keeper site world =
      (lines.rtake History.limit, world) := by
  obtain ⟨names, refusals, located, found, openable, readable⟩ := reads
  have opens : world.files.Opens .read site.history (.file names) world.files :=
    .file located found openable rfl (by decide)
  have taken : world.take (.file names) =
      ([History.text lines], none, world) := by
    rw [take.eq_def]
    dsimp only
    rw [FileTree.contents, found]
    dsimp only
    rw [readable]
  have readEq : keeper.read (world.inputOf (.file names) site.history) =
      (lines.rtake History.limit, none) := by
    apply lawful.read_eq _ _ plain
    · rw [inputOf, taken]
      exact List.flatten_singleton
    · rw [inputOf, taken]
      rfl
  have openedEq : world.openFile .read site.history =
      (.ok (.file names), world) := openFile_of_ok opens.openFile_eq
  rw [readHistory_of_openFile keeper openedEq, readEq, afterRead, taken]

@[simp]
theorem files_readHistory (keeper : History.Keeper) (site : Site)
    (world : World) :
    (readHistory host keeper site world).2.files = world.files := by
  cases opens : world.files.openFile .read site.history with
  | error fault =>
      rw [readHistory, run_bind, host_openFile, openFile_of_error opens]
      rfl
  | ok opened =>
      obtain ⟨handle, files⟩ := opened
      obtain rfl := (FileTree.opens_of_openFile opens).eq_of_read
      have openedEq : world.openFile .read site.history = (.ok handle, world) :=
        openFile_of_ok opens
      obtain ⟨input, afterEq⟩ := afterRead_eq handle world
      rw [readHistory_of_openFile keeper openedEq, afterEq]
      split <;> rfl

@[simp]
theorem startPrompt_fst (keeper : History.Keeper) (site : Site)
    (world : World) :
    (startPrompt host keeper site world).1 =
      Prompt.start (readHistory host keeper site world).1 :=
  rfl

theorem sameShape_startPrompt (keeper : History.Keeper) (site : Site)
    (world : World) :
    world.files.SameShape (startPrompt host keeper site world).2.files := by
  have printed : (readHistory host keeper site world).2.files.SameShape
      (startPrompt host keeper site world).2.files :=
    sameShape_write (.device .output) _ _
  rwa [files_readHistory] at printed

theorem files_runPrompt (keeper : History.Keeper) (site : Site)
    (setup : Setup FileHandle) (world : World) :
    (runPrompt host keeper site setup world).2.files =
      let started := startPrompt host keeper site world
      let answered := answerLines host keeper setup started.1
        (Line.all started.2.input.flatten) { started.2 with input := [] }
      (writeHistory host keeper site answered.1.history answered.2).2.files := by
  rw [runPrompt, run_bind]
  rcases startPrompt host keeper site world with ⟨prompt, started⟩
  have answeredEq := feed_answerPiece keeper setup prompt [] started.input
    { started with input := [] }
  rw [List.nil_append] at answeredEq
  dsimp only at answeredEq ⊢
  rw [← answeredEq, run_bind]
  obtain ⟨files, input, _ | fault, _⟩ := started <;> rfl

/-- A prompt that starts without a history answers the lines of its input, and
keeps the entries that it holds then. -/
theorem reads_runPrompt (lawful : keeper.Lawful) {world : World}
    {lines : List Bytes} (setup : Setup FileHandle)
    (plain : ∀ line ∈ lines, Line.IsPlain line)
    (empty : (startPrompt host keeper site world).1.history = [])
    (isInput : (startPrompt host keeper site world).2.input.flatten =
      History.text lines)
    (keeps : site.Keeps world.files) :
    (runPrompt host keeper site setup world).2.files.Reads site.history
      (History.text (Prompt.held setup.kinds lines)) := by
  have started : (startPrompt host keeper site world).1 =
      ⟨Session.after setup.kinds [], Prompt.held setup.kinds []⟩ := by
    rw [startPrompt_fst, Prompt.start] at empty ⊢
    dsimp only at empty
    rw [empty]
    rfl
  rw [files_runPrompt]
  dsimp only
  rw [isInput, Line.all_text plain, started, answerLines_fst keeper setup lawful,
    List.nil_append]
  apply writeHistory_of_keeps lawful
  apply keeps.of_sameShape
  refine (sameShape_startPrompt keeper site world).trans ?_
  exact sameShape_answerLines keeper setup _ _
    { (startPrompt host keeper site world).2 with input := [] }

/-- What the next run loads are the lines of the entries that were held, as many
as fit.  Those are the entries themselves exactly if none has several lines. -/
theorem runPrompt_reloads_lines_of_entries {keeper : History.Keeper}
    (lawful : keeper.Lawful) {site : Site} {world : World} {lines : List Bytes}
    (setup : Setup FileHandle) (plain : ∀ line ∈ lines, Line.IsPlain line)
    (empty : (startPrompt host keeper site world).1.history = [])
    (isInput : (startPrompt host keeper site world).2.input.flatten =
      History.text lines)
    (keeps : site.Keeps world.files) :
    let finished := (runPrompt host keeper site setup world).2
    let held := Prompt.held setup.kinds lines
    (finished.files.look site.history).map FileNode.entry =
        .ok (.file (History.text held)) ∧
      ∀ next : World, next.files = finished.files →
        let loaded := (startPrompt host keeper site next).1.history
        loaded = (held.flatMap History.entryLines).rtake History.limit ∧
          (loaded = held ↔ ∀ entry ∈ held, Bytes.newline ∉ entry) := by
  intro finished held
  have written : finished.files.Reads site.history (History.text held) :=
    reads_runPrompt lawful setup plain empty isInput keeps
  have heldPlain : ∀ line ∈ held.flatMap History.entryLines,
      Line.IsPlain line := by
    intro line member
    obtain ⟨entry, inHeld, inEntry⟩ := List.mem_flatMap.mp member
    exact Prompt.plain_of_mem_held setup.kinds plain inHeld line inEntry
  refine ⟨written.look_eq, ?_⟩
  intro next sameFiles loaded
  have loadedEq : loaded =
      (held.flatMap History.entryLines).rtake History.limit := by
    have reads : next.files.Reads site.history
        (History.text (held.flatMap History.entryLines)) := by
      rw [sameFiles, ← History.text_eq_text_entryLines]
      exact written
    have loadedRead : loaded = (readHistory host keeper site next).1 := rfl
    rw [loadedRead, readHistory_of_reads lawful heldPlain reads]
  refine ⟨loadedEq, ?_, ?_⟩
  · -- What was loaded are lines, so an entry with a line end is none of them.
    intro loadedHeld entry inHeld
    rw [← loadedHeld, loadedEq] at inHeld
    exact (heldPlain entry (List.mem_of_mem_drop inHeld)).newline_not_mem
  · intro single
    rw [loadedEq, History.flatMap_entryLines_of_single single]
    exact History.rtake_of_length_le (Prompt.length_held_le setup.kinds lines)

/-- Of a definition on two lines, an empty line and the beginning of a
definition, the first two are entries, and the first of them comes back in two.
The input was cut within a line. -/
theorem runPrompt_reloads_lines_of_two_entries :
    let files : FileTree :=
      ⟨[([], FileEntry.directory.free), (["work"], FileEntry.directory.free)],
        ["work"]⟩
    let world : World :=
      ⟨files, ["def f", "()\nend\n\ndef\n"], none, [], none, [],
        fun _ => ⟨2006, 1, 2, 15, 4, 5, 0, 0⟩, 0⟩
    let site : Site := ⟨[], "data"⟩
    let setup : Setup FileHandle := ⟨⟨.warn, none⟩, Registry.default⟩
    let finished := (runPrompt host History.keeper site setup world).2
    (finished.files.look site.history).map FileNode.entry =
        .ok (.file "def f()\nend\n\n") ∧
      (startPrompt host History.keeper site finished).1.history =
        ["def f()", "end", ""] := by
  intro files world site setup
  have plain : ∀ line ∈ (["def f()", "end", "", "def"] : List Bytes),
      Line.IsPlain line := by
    decide +kernel
  have heldEq : Prompt.held setup.kinds ["def f()", "end", "", "def"] =
      ["def f()\nend", ""] := by
    decide +kernel
  have keeps : site.Keeps world.files := by
    have namesEq : (Path.names site.historyDirectory).reverse =
        ["npjs", "data"] := by
      decide +kernel
    let data := files.put ["work", "data"] FileEntry.directory.free
    let made := data.put ["work", "data", "npjs"] FileEntry.directory.free
    have noData : files.isDirectory "data" = .error .missing := by
      decide +kernel
    have noPlace : files.isDirectory "data/npjs" = .error .missing := by
      decide +kernel
    have makesData : FileTree.Makes false ["data"] files data :=
      .made noData .root (by decide +kernel)
    have makes : FileTree.Makes false ["npjs", "data"] files made :=
      .made noPlace makesData (by decide +kernel)
    have opens : made.openFile .create site.history =
        .ok (.file ["work", "data", "npjs", ".npjs_history"],
          made.put ["work", "data", "npjs", ".npjs_history"]
            (FileEntry.file []).free) := by
      decide +kernel
    refine ⟨made, _, _, .none, ?_, FileTree.opens_of_openFile opens,
      FileTree.find?_put_self, rfl, rfl, rfl⟩
    rw [namesEq]
    exact makes
  have empty : (startPrompt host History.keeper site world).1.history = [] := by
    decide +kernel
  have isInput : (startPrompt host History.keeper site world).2.input.flatten =
      History.text ["def f()", "end", "", "def"] := by
    decide +kernel
  obtain ⟨written, reloaded⟩ := runPrompt_reloads_lines_of_entries
    History.lawful_keeper setup plain empty isInput keeps
  obtain ⟨loadedEq, -⟩ := reloaded _ rfl
  rw [heldEq] at written loadedEq
  refine ⟨written.trans ?_, loadedEq.trans ?_⟩ <;> decide +kernel

/-- A definition on two lines is one entry, and two entries in the next run. -/
theorem definition_on_two_lines_is_reloaded_in_two :
    let files : FileTree :=
      ⟨[([], FileEntry.directory.free), (["work"], FileEntry.directory.free)],
        ["work"]⟩
    let world : World :=
      ⟨files, ["def f()\nend\n"], none, [], none, [],
        fun _ => ⟨2006, 1, 2, 15, 4, 5, 0, 0⟩, 0⟩
    let site : Site := ⟨[], "data"⟩
    let setup : Setup FileHandle := ⟨⟨.warn, none⟩, Registry.default⟩
    let finished := (runPrompt host History.keeper site setup world).2
    Prompt.held setup.kinds ["def f()", "end"] = ["def f()\nend"] ∧
      (startPrompt host History.keeper site finished).1.history =
        ["def f()", "end"] := by
  decide +kernel

end Keep

end Command

end Defun
