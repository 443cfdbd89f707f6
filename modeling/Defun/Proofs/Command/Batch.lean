import Mathlib.Data.List.Nodup
import Defun.Proofs.Batch.Source
import Defun.Proofs.Command.Journal

/-!
# Runs without a prompt

A run without a prompt goes through a row of stages, and each of them may end
it.  The stages are told here one by one, without the order in which the
command looks at things.  A run then comes to exactly one end: it writes the
output of its source text, or it writes nothing and ends with a diagnostic.  If
the path of the log leads to standard output, the records are there as well.
-/

namespace Defun

@[simp]
theorem Bytes.ofString_eq_nil_iff {text : String} :
    Bytes.ofString text = [] ↔ text = "" := by
  rw [← String.utf8ByteSize_eq_zero_iff, Bytes.ofString,
    ← List.length_eq_zero_iff]
  rfl

theorem RegistryError.message_ne_nil (error : RegistryError) :
    error.message ≠ [] := by
  cases error <;> simp [message]

theorem GrammarError.message_ne_nil (error : GrammarError Bytes) :
    error.message id ≠ [] := by
  cases error with
  | unreadable error => simp [message]
  | invalid error => exact error.message_ne_nil

namespace Command

open World

theorem StartError.message_ne_nil (error : StartError) :
    error.message ≠ [] := by
  cases error with
  | grammar error => exact error.message_ne_nil
  | _ =>
      simp [message, fileMessage, Log.Level.refusal]

section Grammar

variable (site : Site) (path : Bytes)

/-- The path of the grammar file of a run: the one that was named, or else the
first in the directories of configuration files that leads to something. -/
inductive GrammarIs (files : FileTree) : Option Bytes → Prop where
  | named (isNamed : path ≠ []) : GrammarIs files (some path)
  | found {before after : List Bytes} {found : Bytes} {node : FileNode}
      (noPath : path = [])
      (searched : site.grammars = before ++ found :: after)
      (notBefore : ∀ other ∈ before, ∃ fault, files.look other = .error fault)
      (isThere : files.look found = .ok node) :
      GrammarIs files (some found)
  | absent (noPath : path = [])
      (nowhere : ∀ other ∈ site.grammars,
        ∃ fault, files.look other = .error fault) :
      GrammarIs files none

end Grammar

section Search

theorem firstPresent?_eq (paths : List Bytes) (world : World) :
    host.firstPresent? paths world =
      (paths.find? fun path => (world.files.look path).toOption.isSome,
        world) := by
  induction paths with
  | nil => rfl
  | cons path rest ih =>
      rw [Host.firstPresent?, run_bind, host_isDirectory, FileTree.isDirectory,
        List.find?_cons]
      cases world.files.look path with
      | ok node => rfl
      | error fault => exact ih

variable {site : Site} {path : Bytes}

variable {libraries : Libraries} {journal : Journal FileHandle} {world : World}

theorem GrammarIs.loadKinds_of_none
    (isSource : GrammarIs site path world.files none) :
    loadKinds host libraries site path journal world =
      (.ok Registry.default, world) := by
  cases isSource with
  | absent noPath nowhere =>
      have notFound : (site.grammars.find? fun path =>
          (world.files.look path).toOption.isSome) = none := by
        rw [List.find?_eq_none]
        intro other member
        obtain ⟨fault, looked⟩ := nowhere other member
        rw [looked]
        exact Bool.false_ne_true
      rw [loadKinds, noPath]
      simp [firstPresent?_eq, notFound]

theorem GrammarIs.loadKinds_of_some {shown : Bytes}
    (isSource : GrammarIs site path world.files (some shown)) :
    loadKinds host libraries site path journal world =
      readKinds host libraries shown journal world := by
  cases isSource with
  | named isNamed =>
      rw [loadKinds, List.isEmpty_eq_false_iff.mpr isNamed]
      rfl
  | found noPath searched notBefore isThere =>
      have isFound : (site.grammars.find? fun path =>
          (world.files.look path).toOption.isSome) = some shown := by
        rw [List.find?_eq_some_iff_append]
        refine ⟨by rw [isThere]; rfl, _, _, searched, ?_⟩
        intro other member
        obtain ⟨fault, looked⟩ := notBefore other member
        rw [looked]
        rfl
      rw [loadKinds, noPath]
      simp [firstPresent?_eq, isFound]

end Search

section Registry

variable (libraries : Libraries) (site : Site) (path : Bytes)
  (journal : Journal FileHandle) (opened : World)

/-- The world in which a grammar file is read: that was logged before. -/
def whileLoading (shown : Bytes) : World :=
  journal.recordIn opened (loading shown)

/-- What is read of a grammar file. -/
def grammarOf (shown : Bytes) (handle : FileHandle) : Input :=
  (whileLoading journal opened shown).wantedOf libraries.blockSize
    libraries.wantsMore handle shown

def afterGrammar (shown : Bytes) (handle : FileHandle) : World :=
  (whileLoading journal opened shown).afterWanted libraries.blockSize
    libraries.wantsMore handle

/-- How a registry is loaded, the world then, and the records of it. -/
inductive Registers : World → List Log.Record → List Kind → Prop where
  | default (isSource : GrammarIs site path opened.files none) :
      Registers opened [] Registry.default
  | file {shown : Bytes} {handle : FileHandle} {kinds : List Kind}
      (isSource : GrammarIs site path opened.files (some shown))
      (opens : opened.files.openFile .read shown = .ok (handle, opened.files))
      (loads : Registry.load libraries.entries
        (grammarOf libraries journal opened shown handle) = .ok kinds) :
      Registers (afterGrammar libraries journal opened shown handle)
        [loading shown] kinds

/-- Why no registry is loaded. -/
inductive GrammarRefused : List Log.Record → StartError → Prop where
  | missing {shown : Bytes}
      (isSource : GrammarIs site path opened.files (some shown))
      (refused : opened.files.openFile .read shown = .error .missing) :
      GrammarRefused [] (.noGrammar shown)
  | unopened {shown : Bytes} {fault : FileFault}
      (isSource : GrammarIs site path opened.files (some shown))
      (other : fault ≠ .missing)
      (refused : opened.files.openFile .read shown = .error fault) :
      GrammarRefused [] (.unopened shown fault)
  | content {shown : Bytes} {handle : FileHandle} {error : GrammarError Bytes}
      (isSource : GrammarIs site path opened.files (some shown))
      (opens : opened.files.openFile .read shown = .ok (handle, opened.files))
      (refused : Registry.load libraries.entries
        (grammarOf libraries journal opened shown handle) = .error error) :
      GrammarRefused [loading shown] (.grammar error)

variable {libraries site path journal opened}

theorem readKinds_of_opens {shown : Bytes} {handle : FileHandle}
    (opens : opened.files.openFile .read shown = .ok (handle, opened.files)) :
    readKinds host libraries shown journal opened =
      ((Registry.load libraries.entries
          (grammarOf libraries journal opened shown handle)).mapError .grammar,
        afterGrammar libraries journal opened shown handle) := by
  rw [readKinds, run_bind, host_openFile, openFile_of_ok opens]
  dsimp only
  rw [run_bind, Journal.write_eq, run_bind, readWanted_eq]
  rfl

section Loading

variable (silent : journal.Silent opened [] opened)

include silent

theorem silent_afterGrammar (shown : Bytes) (handle : FileHandle) :
    journal.Silent opened [loading shown]
      (afterGrammar libraries journal opened shown handle) :=
  (silent.record (loading shown)).readWanted _ _ handle

theorem Registers.loadKinds_eq {reading : World} {records : List Log.Record}
    {kinds : List Kind}
    (registers :
      Registers libraries site path journal opened reading records kinds) :
    loadKinds host libraries site path journal opened = (.ok kinds, reading) ∧
      journal.Silent opened records reading := by
  cases registers with
  | default isSource => exact ⟨isSource.loadKinds_of_none, silent⟩
  | file isSource opens loads =>
      rw [isSource.loadKinds_of_some, readKinds_of_opens opens, loads]
      exact ⟨rfl, silent_afterGrammar silent _ _⟩

theorem GrammarRefused.loadKinds_eq {records : List Log.Record}
    {error : StartError}
    (refused :
      GrammarRefused libraries site path journal opened records error) :
    ∃ after, loadKinds host libraries site path journal opened =
        (.error error, after) ∧
      journal.Silent opened records after := by
  cases refused with
  | missing isSource refused =>
      rw [isSource.loadKinds_of_some, readKinds, run_bind, host_openFile,
        openFile_of_error refused]
      exact ⟨opened, rfl, silent⟩
  | @unopened shown fault isSource other refused =>
      rw [isSource.loadKinds_of_some, readKinds, run_bind, host_openFile,
        openFile_of_error refused]
      refine ⟨opened, ?_, silent⟩
      cases fault with
      | missing => exact absurd rfl other
      | _ => rfl
  | content isSource opens refused =>
      rw [isSource.loadKinds_of_some, readKinds_of_opens opens, refused]
      exact ⟨_, rfl, silent_afterGrammar silent _ _⟩

end Loading

end Registry

/-- What is opened as the input of a run, and how it is called. -/
inductive InputOpens (path : Bytes) (world : World) :
    FileHandle → Bytes → Prop where
  | standard (noPath : path = []) :
      InputOpens path world (.device .input) Host.inputName
  | named {handle : FileHandle} (isNamed : path ≠ [])
      (opens : world.files.openFile .read path = .ok (handle, world.files)) :
      InputOpens path world handle path

/-- What is read as the input of a run, if it can be read to its end. -/
inductive InputReads (path : Bytes) (world : World) : Bytes → Prop where
  | intro {handle : FileHandle} {name : Bytes}
      (opens : InputOpens path world handle name)
      (ends : (world.inputOf handle name).failure = none) :
      InputReads path world (world.inputOf handle name).chunks.flatten

section Ends

variable (libraries : Libraries) (site : Site) (options : Options)
  (world : World)

/-- What a run is ready with before it looks at its input: the log is open, its
level is one, and the registry is loaded. -/
inductive Prepared (setup : Setup FileHandle) (reading : World)
    (records : List Log.Record) : Prop where
  | intro {opened : World}
      (opens : LogOpens options.logFile world setup.journal.sink opened)
      (isLevel : Log.Level.ofName? options.logLevel =
        some setup.journal.level)
      (registers : Registers libraries site options.grammar setup.journal
        opened reading records setup.kinds)

/-- The ends that a run without a prompt can come to: the output of its source
text, or the diagnostic of the first stage that fails.  The records are those
that the run makes on the way. -/
inductive Ends : Except Bytes Bytes → List Log.Record → Prop where
  | log {fault : FileFault} (isNamed : options.logFile ≠ [])
      (refused : world.files.openFile .append options.logFile =
        .error fault) :
      Ends (.error (fileMessage "open" options.logFile fault)) []
  | level {sink : Option FileHandle} {opened : World}
      (opens : LogOpens options.logFile world sink opened)
      (noLevel : Log.Level.ofName? options.logLevel = none) :
      Ends (.error (Log.Level.refusal options.logLevel)) []
  | grammar {journal : Journal FileHandle} {opened : World}
      {records : List Log.Record} {error : StartError}
      (opens : LogOpens options.logFile world journal.sink opened)
      (isLevel : Log.Level.ofName? options.logLevel = some journal.level)
      (refused : GrammarRefused libraries site options.grammar journal opened
        records error) :
      Ends (.error error.message) records
  | input {setup : Setup FileHandle} {reading : World}
      {records : List Log.Record} {fault : FileFault}
      (prepared : Prepared libraries site options world setup reading records)
      (isNamed : options.input ≠ [])
      (refused : reading.files.openFile .read options.input = .error fault) :
      Ends (.error ("Error: " ++ fileMessage "open" options.input fault))
        records
  | encoding {setup : Setup FileHandle} {reading : World}
      {records : List Log.Record} {handle : FileHandle} {name : Bytes}
      (prepared : Prepared libraries site options world setup reading records)
      (opens : InputOpens options.input reading handle name)
      (isLabelled : options.encoding ≠ [])
      (unknown : libraries.decoders options.encoding = none) :
      Ends (.error ("Error: " ++
        (BatchError.unknownEncoding options.encoding).message)) records
  | unread {setup : Setup FileHandle} {reading : World}
      {records : List Log.Record} {handle : FileHandle} {name reason : Bytes}
      {decode : Bytes → Bytes}
      (prepared : Prepared libraries site options world setup reading records)
      (opens : InputOpens options.input reading handle name)
      (decodes : Batch.Decodes libraries.decoders options.encoding decode)
      (fails : (reading.inputOf handle name).failure = some reason) :
      Ends (.error ("Error: " ++ (BatchError.read reason).message)) records
  | source {setup : Setup FileHandle} {reading : World}
      {records : List Log.Record} {content : Bytes} {decode : Bytes → Bytes}
      {error : TranspileError}
      (prepared : Prepared libraries site options world setup reading records)
      (reads : InputReads options.input reading content)
      (decodes : Batch.Decodes libraries.decoders options.encoding decode)
      (refused : transpile setup.kinds (decode content) = .error error) :
      Ends (.error ("Error: " ++ error.message))
        (records ++ Transpiler.records setup.kinds (decode content))
  | output {setup : Setup FileHandle} {reading : World}
      {records : List Log.Record} {content output : Bytes}
      {decode : Bytes → Bytes}
      (prepared : Prepared libraries site options world setup reading records)
      (reads : InputReads options.input reading content)
      (decodes : Batch.Decodes libraries.decoders options.encoding decode)
      (transpiles : transpile setup.kinds (decode content) = .ok output) :
      Ends (.ok output)
        (records ++ Transpiler.records setup.kinds (decode content))

variable {libraries site options world} {setup : Setup FileHandle}
  {reading : World} {records : List Log.Record}

end Ends

/-- What records put on standard output: nothing, unless the path of the log
leads there. -/
def printed (options : Options) (world : World) (records : List Log.Record) :
    Bytes :=
  match Log.Level.ofName? options.logLevel,
      world.files.openFile .append options.logFile with
  | some level, .ok (.device .output, _) =>
      Log.jsonLines world.clock world.looks (Log.kept level records)
  | _, _ => []

@[simp]
theorem printed_nil (options : Options) (world : World) :
    printed options world [] = [] := by
  rw [printed]
  split <;> rfl

/-- What a run has done before it ends: nothing on standard output but what it
has logged there, and nothing to any file but its log. -/
structure Quiet (options : Options) (world : World)
    (records : List Log.Record) (after : World) : Prop where
  outputFault_eq : after.outputFault = none
  output_eq : after.output = world.output ++ printed options world records
  errors_prefix : world.errors <+: after.errors
  look_eq : ∀ path, ¬ world.files.SameFile path options.logFile →
    (after.files.look path).toOption = (world.files.look path).toOption

/-- How a run reports its end: the output follows what was logged, or else a
diagnostic does. -/
inductive Reports (options : Options) (world : World) :
    Except Bytes Bytes → List Log.Record → Nat × World → Prop where
  | output {output : Bytes} {records : List Log.Record} {after : World}
      (quiet : Quiet options world records after) :
      Reports options world (.ok output) records
        (0, { after with
          output := after.output ++
            if output.isEmpty then [] else output ++ [Bytes.newline] })
  | diagnostic {diagnostic : Bytes} {records : List Log.Record} {after : World}
      (quiet : Quiet options world records after) :
      Reports options world (.error diagnostic) records
        (1, { after with
          errors := after.errors ++ (diagnostic ++ [Bytes.newline]) })

section Quiet

variable {options : Options} {world opened after : World}
  {journal : Journal FileHandle} {records : List Log.Record}

theorem quiet_start (isWritable : world.outputFault = none) :
    Quiet options world [] world where
  outputFault_eq := isWritable
  output_eq := by simp
  errors_prefix := List.prefix_refl _
  look_eq _ _ := rfl

theorem LogOpens.printed_eq
    (opens : LogOpens options.logFile world journal.sink opened)
    (isLevel : Log.Level.ofName? options.logLevel = some journal.level) :
    journal.printed opened records = printed options world records := by
  rw [Journal.printed, opens.eq_with_files, printed, isLevel]
  dsimp only
  generalize journal.sink = sink at opens
  cases opens with
  | unnamed noPath =>
      rw [noPath, FileTree.openFile_nil, if_neg (by simp)]
  | @named handle files isNamed opens =>
      rw [opens]
      by_cases isOutput : handle = .device .output
      · rw [isOutput, if_pos rfl]
      · rw [if_neg (fun isSink => isOutput (Option.some.inj isSink))]
        split
        · next isOk => cases isOk; exact absurd rfl isOutput
        · rfl

theorem LogOpens.quiet
    (opens : LogOpens options.logFile world journal.sink opened)
    (isLevel : Log.Level.ofName? options.logLevel = some journal.level)
    (silent : journal.Silent opened records after) :
    Quiet options world records after where
  outputFault_eq := silent.outputFault_eq
  output_eq := by
    rw [silent.output_eq, opens.printed_eq isLevel, opens.eq_with_files]
  errors_prefix := by
    have isPrefix := silent.errors_prefix
    rw [opens.eq_with_files] at isPrefix
    exact isPrefix
  look_eq _ elsewhere := opens.look_eq silent.touches elsewhere

end Quiet

section Stages

variable {libraries : Libraries} {site : Site} {options : Options}
  {world reading : World} {setup : Setup FileHandle}
  {records : List Log.Record}

theorem setUp_of_opens {journal : Journal FileHandle} {opened : World}
    (opens : LogOpens options.logFile world journal.sink opened)
    (isLevel : Log.Level.ofName? options.logLevel = some journal.level) :
    setUp host libraries site options world =
      ((loadKinds host libraries site options.grammar journal opened).1.map
          fun kinds => ⟨journal, kinds⟩,
        (loadKinds host libraries site options.grammar journal opened).2) := by
  rw [setUp, run_bind, opens.openLog_eq]
  dsimp only
  rw [isLevel]
  dsimp only
  rw [run_bind]
  cases (loadKinds host libraries site options.grammar journal opened).1 <;> rfl

/-- A run that is prepared has only logged and read so far, and so it has when
it has logged more and read its input. -/
theorem Prepared.setUp_eq
    (prepared : Prepared libraries site options world setup reading records)
    (isWritable : world.outputFault = none) :
    setUp host libraries site options world = (.ok setup, reading) ∧
      Quiet options world records reading ∧
      ∀ handle more, Quiet options world (records ++ more)
        (setup.journal.recordsIn (reading.afterRead handle) more) := by
  obtain ⟨opens, isLevel, registers⟩ := prepared
  obtain ⟨loads, silent⟩ := registers.loadKinds_eq (opens.silent isWritable)
  refine ⟨?_, opens.quiet isLevel silent, ?_⟩
  · rw [setUp_of_opens opens isLevel, loads]
    rfl
  · intro handle more
    exact opens.quiet isLevel ((silent.read handle).recordAll more)

theorem Prepared.runWith_eq
    (prepared : Prepared libraries site options world setup reading records)
    (isWritable : world.outputFault = none)
    (isBatch : options.isPrompt = false) :
    runWith host libraries site options world =
      runBatch host libraries.decoders options setup reading := by
  rw [runWith, run_bind, (prepared.setUp_eq isWritable).1, isBatch]
  rfl

theorem InputOpens.runBatch_eq {handle : FileHandle} {name : Bytes}
    (opens : InputOpens options.input reading handle name)
    (decoders : Bytes → Option (Bytes → Bytes)) :
    runBatch host decoders options setup reading =
      transpileInput host decoders options setup handle name reading := by
  cases opens with
  | standard noPath =>
      rw [runBatch, noPath]
      rfl
  | named isNamed opens =>
      rw [runBatch, List.isEmpty_eq_false_iff.mpr isNamed]
      simp [openFile_of_ok opens]

section Transpile

variable {decoders : Bytes → Option (Bytes → Bytes)} {handle : FileHandle}
  {name : Bytes} {input : Input} {after : World}
  (reads : readInput host decoders options handle name reading = (input, after))

include reads

theorem transpileInput_of_error {error : BatchError}
    (outcome : Batch.run decoders setup.kinds options.encoding input none =
      ⟨[], some error⟩) :
    transpileInput host decoders options setup handle name reading =
      fail host ("Error: " ++ error.message)
        (setup.journal.recordsIn after
          (batchRecords decoders options.encoding setup.kinds input)) := by
  rw [transpileInput, run_bind, reads, run_bind, Journal.writeAll_eq]
  dsimp only
  rw [outcome]

theorem transpileInput_of_writes {writes : List Bytes}
    (outcome : Batch.run decoders setup.kinds options.encoding input none =
      ⟨writes, none⟩)
    (isWritable : (setup.journal.recordsIn after (batchRecords decoders
      options.encoding setup.kinds input)).outputFault = none) :
    let logged := setup.journal.recordsIn after
      (batchRecords decoders options.encoding setup.kinds input)
    transpileInput host decoders options setup handle name reading =
      (0, { logged with output := logged.output ++ writes.flatten }) := by
  rw [transpileInput, run_bind, reads, run_bind, Journal.writeAll_eq]
  dsimp only
  rw [outcome]
  dsimp only
  rw [run_bind, writeAll_output isWritable]
  rfl

end Transpile

theorem readInput_of_decodes {decoders : Bytes → Option (Bytes → Bytes)}
    {decode : Bytes → Bytes}
    (decodes : Batch.Decodes decoders options.encoding decode)
    (handle : FileHandle) (name : Bytes) (world : World) :
    readInput host decoders options handle name world =
      (world.inputOf handle name, world.afterRead handle) := by
  rw [readInput, decodes.decoder_eq]
  exact readAll_eq handle name world

theorem readInput_of_unknown {decoders : Bytes → Option (Bytes → Bytes)}
    (isLabelled : options.encoding ≠ [])
    (unknown : decoders options.encoding = none) (handle : FileHandle)
    (name : Bytes) (world : World) :
    readInput host decoders options handle name world = (⟨[], none⟩, world) := by
  rw [readInput, Batch.decoder, List.isEmpty_eq_false_iff.mpr isLabelled,
    unknown]
  rfl

theorem LogOpens.quiet_opened {sink : Option FileHandle} {opened : World}
    (opens : LogOpens options.logFile world sink opened)
    (isWritable : world.outputFault = none) :
    Quiet options world [] opened := by
  -- Without records, it makes no difference from which level on they are kept.
  let journal : Journal FileHandle := ⟨.error, sink⟩
  have opens : LogOpens options.logFile world journal.sink opened := opens
  have silent := opens.silent isWritable
  refine ⟨silent.outputFault_eq, ?_, ?_, fun _ elsewhere =>
    opens.look_eq silent.touches elsewhere⟩
  · rw [printed_nil, List.append_nil, opens.eq_with_files]
  · have errorsEq : opened.errors = world.errors := by rw [opens.eq_with_files]
    exact ⟨[], by rw [errorsEq, List.append_nil]⟩

theorem batchRecords_of_error {decoders : Bytes → Option (Bytes → Bytes)}
    {label : Bytes} {input : Input} {error : BatchError}
    (noSource : Batch.source decoders label input = .error error)
    (kinds : List Kind) : batchRecords decoders label kinds input = [] := by
  rw [batchRecords, noSource]

theorem batchRecords_of_ok {decoders : Bytes → Option (Bytes → Bytes)}
    {label source : Bytes} {input : Input}
    (isSource : Batch.source decoders label input = .ok source)
    (kinds : List Kind) :
    batchRecords decoders label kinds input =
      Transpiler.records kinds source := by
  rw [batchRecords, isSource]

/-- A run reports the end that it comes to. -/
theorem Ends.reports {result : Except Bytes Bytes}
    (ends : Ends libraries site options world result records)
    (isWritable : world.outputFault = none)
    (isBatch : options.isPrompt = false) :
    Reports options world result records
      (runWith host libraries site options world) := by
  cases ends with
  | log isNamed refused =>
      rw [runWith, run_bind, setUp, run_bind,
        openLog_of_refused isNamed refused]
      exact .diagnostic (quiet_start isWritable)
  | level opens noLevel =>
      rw [runWith, run_bind, setUp, run_bind, opens.openLog_eq]
      dsimp only
      rw [noLevel]
      exact .diagnostic (opens.quiet_opened isWritable)
  | grammar opens isLevel refused =>
      obtain ⟨after, loads, silent⟩ :=
        refused.loadKinds_eq (opens.silent isWritable)
      rw [runWith, run_bind, setUp_of_opens opens isLevel, loads]
      exact .diagnostic (opens.quiet isLevel silent)
  | input prepared isNamed refused =>
      obtain ⟨-, quiet, -⟩ := prepared.setUp_eq isWritable
      rw [prepared.runWith_eq isWritable isBatch, runBatch,
        List.isEmpty_eq_false_iff.mpr isNamed]
      simp only [Bool.false_eq_true, if_false, run_bind,
        openFile_of_error refused]
      exact .diagnostic quiet
  | encoding prepared opens isLabelled unknown =>
      obtain ⟨-, quiet, -⟩ := prepared.setUp_eq isWritable
      have noSource :=
        Batch.source_of_unknown isLabelled unknown ⟨[], none⟩
      rw [prepared.runWith_eq isWritable isBatch, opens.runBatch_eq,
        transpileInput_of_error (readInput_of_unknown isLabelled unknown _ _ _)
          (Batch.run_of_source_error noSource none),
        batchRecords_of_error noSource]
      exact .diagnostic quiet
  | @unread _ _ _ handle _ _ _ prepared opens decodes fails =>
      obtain ⟨-, -, quiet⟩ := prepared.setUp_eq isWritable
      have noSource := decodes.source_of_failure fails
      rw [prepared.runWith_eq isWritable isBatch, opens.runBatch_eq,
        transpileInput_of_error (readInput_of_decodes decodes _ _ _)
          (Batch.run_of_source_error noSource none),
        batchRecords_of_error noSource]
      have quiet := quiet handle []
      rw [List.append_nil] at quiet
      exact .diagnostic quiet
  | source prepared reads decodes refused =>
      obtain ⟨opens, ends⟩ := reads
      obtain ⟨-, -, quiet⟩ := prepared.setUp_eq isWritable
      have isSource := decodes.source_of_end ends
      have rendered := Batch.rendering_of_transpile_error refused
      rw [prepared.runWith_eq isWritable isBatch, opens.runBatch_eq,
        transpileInput_of_error (readInput_of_decodes decodes _ _ _)
          (Batch.run_of_rendering_error isSource rendered none),
        batchRecords_of_ok isSource]
      exact .diagnostic (quiet _ _)
  | @output setup reading _ _ output decode prepared reads decodes transpiles =>
      obtain @⟨handle, name, opens, ends⟩ := reads
      obtain ⟨-, -, quiet⟩ := prepared.setUp_eq isWritable
      have isSource := decodes.source_of_end ends
      have rendered := Batch.rendering_of_transpile transpiles
      have outcome : Batch.run libraries.decoders setup.kinds options.encoding
          (reading.inputOf handle name) none =
            ⟨(if output.isEmpty then none
              else some (output ++ [Bytes.newline])).toList, none⟩ := by
        rw [Batch.run_of_rendering isSource rendered]
        split <;> rfl
      have writesEq : (if output.isEmpty then none
          else some (output ++ [Bytes.newline])).toList.flatten =
            if output.isEmpty then [] else output ++ [Bytes.newline] := by
        split
        · rfl
        · exact List.flatten_singleton
      have recordsEq := batchRecords_of_ok isSource setup.kinds
      have quiet := quiet handle (Transpiler.records setup.kinds
        (decode (reading.inputOf handle name).chunks.flatten))
      rw [← recordsEq] at quiet ⊢
      rw [prepared.runWith_eq isWritable isBatch, opens.runBatch_eq,
        transpileInput_of_writes (readInput_of_decodes decodes handle name _)
          outcome quiet.outputFault_eq, writesEq]
      exact .output quiet

end Stages

section Reports

variable {options : Options} {world : World} {records : List Log.Record}
  {finished : Nat × World}

theorem Reports.look_eq {result : Except Bytes Bytes}
    (reports : Reports options world result records finished) {path : Bytes}
    (elsewhere : ¬ world.files.SameFile path options.logFile) :
    (finished.2.files.look path).toOption =
      (world.files.look path).toOption := by
  cases reports with
  | output quiet => exact quiet.look_eq path elsewhere
  | diagnostic quiet => exact quiet.look_eq path elsewhere

theorem printed_of_other
    (elsewhere : ∀ files, world.files.openFile .append options.logFile ≠
      .ok (.device .output, files)) :
    printed options world records = [] := by
  rw [printed]
  split
  · next isOutput => exact absurd isOutput (elsewhere _)
  · rfl

end Reports

end Command

end Defun
