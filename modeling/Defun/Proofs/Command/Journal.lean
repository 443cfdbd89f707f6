import Defun.Command
import Defun.Proofs.Files.Tree
import Defun.Proofs.World

/-!
# The log of a run

A run opens its log, if there is one, and adds records to it.  A record is also
told on standard error.  Nothing else is changed, unless the log is itself one
of the standard streams.
-/

namespace Defun

namespace Log

/-- The records from a level on. -/
def kept (level : Level) (records : List Record) : List Record :=
  records.filter fun record => level.severity ≤ record.level.severity

/-- Records as lines in JSON, the first of which is made at the given look at a
clock, and each of the others at the next one. -/
def jsonLines (clock : Nat → Instant) (looks : Nat) (records : List Record) :
    Bytes :=
  (records.zipIdx looks).flatMap fun (record, look) => record.json (clock look)

theorem jsonLines_append (clock : Nat → Instant) (looks : Nat)
    (records more : List Record) :
    jsonLines clock looks (records ++ more) =
      jsonLines clock looks records ++
        jsonLines clock (looks + records.length) more := by
  rw [jsonLines, jsonLines, jsonLines, List.zipIdx_append, List.flatMap_append]

section Logger

variable {level : Level} {sink : Bool} {record : Record}

theorem Logger.keeps_iff :
    (Logger.write level sink).keeps record.level = true ↔
      level.severity ≤ record.level.severity :=
  decide_eq_true_iff

theorem Logger.record_of_kept
    (isKept : level.severity ≤ record.level.severity) (time : Instant) :
    (Logger.write level sink).record record time =
      ⟨record.line time, if sink then record.json time else []⟩ := by
  rw [Logger.record, if_pos (keeps_iff.mpr isKept)]

end Logger

end Log

namespace Command

open World

variable (journal : Journal FileHandle)

/-- The world after a record was logged. -/
def Journal.recordIn (world : World) (record : Log.Record) : World :=
  if journal.logger.keeps record.level then
    let written := journal.logger.record record (world.clock world.looks)
    let told : World := { world with
      looks := world.looks + 1, errors := world.errors ++ written.lines }
    match journal.sink with
    | none => told
    | some handle => (told.write handle written.sink).2
  else world

/-- The world after records were logged one after the other. -/
def Journal.recordsIn (world : World) (records : List Log.Record) : World :=
  records.foldl journal.recordIn world

@[simp]
theorem Journal.write_eq (record : Log.Record) (world : World) :
    journal.write host record world = ((), journal.recordIn world record) := by
  rw [Journal.write, recordIn]
  split
  · cases sinkEq : journal.sink <;> rfl
  · rfl

@[simp]
theorem Journal.writeAll_eq (records : List Log.Record) (world : World) :
    journal.writeAll host records world =
      ((), journal.recordsIn world records) := by
  induction records generalizing world with
  | nil => rfl
  | cons record rest ih =>
      rw [writeAll, run_bind, write_eq]
      exact ih (journal.recordIn world record)

/-- What records put on standard output: nothing, unless the log is there. -/
def Journal.printed (world : World) (records : List Log.Record) : Bytes :=
  if journal.sink = some (.device .output) then
    Log.jsonLines world.clock world.looks (Log.kept journal.level records)
  else []

/-- How files may differ after something was logged. -/
def Journal.Touches (files others : FileTree) : Prop :=
  match journal.sink with
  | some (.file names) => FileTree.DifferAt names files others
  | _ => others = files

/-- What a run has done so far since its log was opened: it has made records,
and read. -/
structure Journal.Silent (opened : World) (records : List Log.Record)
    (world : World) : Prop where
  clock_eq : world.clock = opened.clock
  looks_eq : world.looks =
    opened.looks + (Log.kept journal.level records).length
  outputFault_eq : world.outputFault = none
  output_eq : world.output = opened.output ++ journal.printed opened records
  errors_prefix : opened.errors <+: world.errors
  touches : journal.Touches opened.files world.files

/-- The world after a record was told on standard error. -/
def recordTold (world : World) (record : Log.Record) : World :=
  { world with
    looks := world.looks + 1,
    errors := world.errors ++ record.line (world.clock world.looks) }

section Record

variable {journal} {record : Log.Record}

theorem Journal.recordIn_of_dropped {world : World}
    (isDropped : ¬ journal.level.severity ≤ record.level.severity) :
    journal.recordIn world record = world := by
  rw [recordIn, if_neg]
  exact fun keeps => isDropped (Log.Logger.keeps_iff.mp keeps)

theorem Journal.recordIn_of_kept {world : World}
    (isKept : journal.level.severity ≤ record.level.severity) :
    journal.recordIn world record =
      match journal.sink with
      | none => recordTold world record
      | some handle =>
          ((recordTold world record).write handle
            (record.json (world.clock world.looks))).2 := by
  rw [recordIn, logger, if_pos (Log.Logger.keeps_iff.mpr isKept),
    Log.Logger.record_of_kept isKept]
  cases journal.sink <;> rfl

end Record

section Shape

theorem Journal.sameShape_recordIn (world : World) (record : Log.Record) :
    world.files.SameShape (journal.recordIn world record).files := by
  by_cases isKept : journal.level.severity ≤ record.level.severity
  · rw [recordIn_of_kept isKept]
    cases journal.sink with
    | none => exact .refl _
    | some handle => exact sameShape_write handle _ (recordTold world record)
  · rw [recordIn_of_dropped isKept]
    exact .refl _

theorem Journal.sameShape_recordsIn (world : World)
    (records : List Log.Record) :
    world.files.SameShape (journal.recordsIn world records).files := by
  induction records generalizing world with
  | nil => exact .refl _
  | cons record rest ih =>
      exact (journal.sameShape_recordIn world record).trans (ih _)

end Shape

namespace Journal.Silent

variable {journal} {opened world : World} {records : List Log.Record}

theorem withInput (silent : journal.Silent opened records world)
    (input : List Bytes) :
    journal.Silent opened records { world with input } :=
  ⟨silent.clock_eq, silent.looks_eq, silent.outputFault_eq, silent.output_eq,
    silent.errors_prefix, silent.touches⟩

theorem read (silent : journal.Silent opened records world)
    (handle : FileHandle) :
    journal.Silent opened records (world.afterRead handle) := by
  obtain ⟨input, readEq⟩ := afterRead_eq handle world
  rw [readEq]
  exact silent.withInput input

theorem readWanted (silent : journal.Silent opened records world)
    (size : Nat) (wantsMore : Bytes → Bool) (handle : FileHandle) :
    journal.Silent opened records (world.afterWanted size wantsMore handle) := by
  obtain ⟨input, readEq⟩ := afterWanted_eq size wantsMore world handle
  rw [readEq]
  exact silent.withInput input

section Record

variable {record : Log.Record}

theorem of_dropped (silent : journal.Silent opened records world)
    (isDropped : ¬ journal.level.severity ≤ record.level.severity) :
    journal.Silent opened (records ++ [record])
      (journal.recordIn world record) := by
  have keptEq : Log.kept journal.level (records ++ [record]) =
      Log.kept journal.level records := by
    simp [Log.kept, isDropped]
  rw [recordIn_of_dropped isDropped]
  refine ⟨silent.clock_eq, ?_, silent.outputFault_eq, ?_,
    silent.errors_prefix, silent.touches⟩
  · rw [keptEq, silent.looks_eq]
  · rw [printed, keptEq, silent.output_eq, printed]

variable (isKept : journal.level.severity ≤ record.level.severity)

include isKept

theorem kept_concat : Log.kept journal.level (records ++ [record]) =
    Log.kept journal.level records ++ [record] := by
  simp [Log.kept, isKept]

theorem looks_told (silent : journal.Silent opened records world) :
    world.looks + 1 =
      opened.looks + (Log.kept journal.level (records ++ [record])).length := by
  rw [kept_concat isKept, silent.looks_eq, List.length_append,
    List.length_singleton, Nat.add_assoc]

theorem printed_of_output (silent : journal.Silent opened records world)
    (isOutput : journal.sink = some (.device .output)) :
    journal.printed opened (records ++ [record]) =
      journal.printed opened records ++
        record.json (world.clock world.looks) := by
  rw [printed, printed, if_pos isOutput, if_pos isOutput, kept_concat isKept,
    Log.jsonLines_append, silent.clock_eq, silent.looks_eq]
  simp [Log.jsonLines]

omit isKept in
theorem printed_of_other (notOutput : journal.sink ≠ some (.device .output)) :
    journal.printed opened (records ++ [record]) =
      journal.printed opened records := by
  rw [printed, printed, if_neg notOutput, if_neg notOutput]

theorem told (silent : journal.Silent opened records world)
    (notOutput : journal.sink ≠ some (.device .output)) :
    journal.Silent opened (records ++ [record]) (recordTold world record) where
  clock_eq := silent.clock_eq
  looks_eq := looks_told isKept silent
  outputFault_eq := silent.outputFault_eq
  output_eq := by
    rw [printed_of_other notOutput]
    exact silent.output_eq
  errors_prefix := silent.errors_prefix.trans (List.prefix_append _ _)
  touches := silent.touches

end Record

theorem complain (silent : journal.Silent opened records world) (text : Bytes) :
    journal.Silent opened records
      { world with errors := world.errors ++ text } :=
  ⟨silent.clock_eq, silent.looks_eq, silent.outputFault_eq, silent.output_eq,
    silent.errors_prefix.trans (List.prefix_append _ _), silent.touches⟩

theorem append {names : List Bytes} {files : FileTree} {text : Bytes}
    (silent : journal.Silent opened records world)
    (isSink : journal.sink = some (.file names))
    (appends : world.files.append names text = .ok files) :
    journal.Silent opened records { world with files } := by
  refine ⟨silent.clock_eq, silent.looks_eq, silent.outputFault_eq,
    silent.output_eq, silent.errors_prefix, ?_⟩
  have touches := silent.touches
  rw [Touches, isSink] at touches ⊢
  exact touches.trans (FileTree.differAt_append appends)

/-- A record goes to standard error and to the log, and nowhere else. -/
theorem record (silent : journal.Silent opened records world)
    (record : Log.Record) :
    journal.Silent opened (records ++ [record])
      (journal.recordIn world record) := by
  by_cases isKept : journal.level.severity ≤ record.level.severity
  · rw [recordIn_of_kept isKept]
    by_cases isOutput : journal.sink = some (.device .output)
    · rw [isOutput]
      have isWritable : (recordTold world record).outputFault = none :=
        silent.outputFault_eq
      dsimp only
      rw [write_output isWritable]
      refine ⟨silent.clock_eq, looks_told isKept silent, isWritable, ?_,
        silent.errors_prefix.trans (List.prefix_append _ _), silent.touches⟩
      rw [printed_of_output isKept silent isOutput, ← List.append_assoc,
        ← silent.output_eq]
      rfl
    · have told := told isKept silent isOutput
      cases sinkEq : journal.sink with
      | none => exact told
      | some handle =>
          cases handle with
          | device device =>
              cases device with
              | output => exact absurd sinkEq isOutput
              | errors => exact told.complain _
              | _ => exact told
          | file names =>
              dsimp only
              rw [World.write]
              split
              · exact told
              · next files appends => exact told.append sinkEq appends
  · exact silent.of_dropped isKept

theorem recordAll (silent : journal.Silent opened records world)
    (more : List Log.Record) :
    journal.Silent opened (records ++ more)
      (journal.recordsIn world more) := by
  induction more generalizing records world with
  | nil =>
      rw [List.append_nil]
      exact silent
  | cons record rest ih =>
      have next := ih (silent.record record)
      rw [List.append_assoc, List.singleton_append] at next
      exact next

end Journal.Silent

/-- How a log is opened: the log if there is one, and the world then. -/
inductive LogOpens (path : Bytes) (world : World) :
    Option FileHandle → World → Prop where
  | unnamed (noPath : path = []) : LogOpens path world none world
  | named {handle : FileHandle} {files : FileTree} (isNamed : path ≠ [])
      (opens : world.files.openFile .append path = .ok (handle, files)) :
      LogOpens path world (some handle) { world with files }

section Opening

variable (path : Bytes) (world : World)

variable {path world}

theorem openLog_of_refused {fault : FileFault} (isNamed : path ≠ [])
    (refused : world.files.openFile .append path = .error fault) :
    openLog host path world = (.error (.unopened path fault), world) := by
  rw [openLog, List.isEmpty_eq_false_iff.mpr isNamed]
  simp [openFile_of_error refused]

variable {sink : Option FileHandle} {opened : World}
  (opens : LogOpens path world sink opened)

include opens

theorem LogOpens.openLog_eq : openLog host path world = (.ok sink, opened) := by
  cases opens with
  | unnamed noPath =>
      rw [openLog, noPath]
      rfl
  | named isNamed opens =>
      rw [openLog, List.isEmpty_eq_false_iff.mpr isNamed]
      simp [openFile_of_ok opens]

end Opening

section Frame

variable {path : Bytes} {world opened : World} {journal}
  (opens : LogOpens path world journal.sink opened)

include opens

theorem LogOpens.eq_with_files : opened = { world with files := opened.files } := by
  generalize journal.sink = sink at opens
  cases opens <;> rfl

theorem LogOpens.touches : journal.Touches world.files opened.files := by
  rw [Journal.Touches]
  generalize journal.sink = sink at opens ⊢
  cases opens with
  | unnamed => rfl
  | named isNamed opens =>
      rcases (FileTree.opens_of_openFile opens).written_cases (by decide) with
        ⟨device, rfl, filesEq⟩ | ⟨names, rfl, -, differ⟩
      · exact filesEq
      · exact differ

/-- A log that has just been opened has no records. -/
theorem LogOpens.silent (isWritable : world.outputFault = none) :
    journal.Silent opened [] opened where
  clock_eq := rfl
  looks_eq := rfl
  outputFault_eq := by
    rw [opens.eq_with_files]
    exact isWritable
  output_eq := by
    rw [Journal.printed]
    split <;> exact (List.append_nil _).symm
  errors_prefix := List.prefix_refl _
  touches := by
    have touches := opens.touches
    rw [Journal.Touches] at touches ⊢
    split at touches
    · exact .refl touches.isLeaf
    · rfl

/-- What a run logs changes no file but its log. -/
theorem LogOpens.look_eq {files : FileTree}
    (touches : journal.Touches opened.files files) {other : Bytes}
    (elsewhere : ¬ world.files.SameFile other path) :
    (files.look other).toOption = (world.files.look other).toOption := by
  rw [Journal.Touches] at touches
  generalize journal.sink = sink at opens touches
  cases opens with
  | unnamed => rw [touches]
  | named isNamed opens =>
      rcases (FileTree.opens_of_openFile opens).written_cases (by decide) with
        ⟨device, rfl, filesEq⟩ | ⟨names, rfl, located, differ⟩
      · rw [touches, filesEq]
      · apply (differ.trans touches).look_eq
        intro otherLocated
        exact elsewhere ⟨names, otherLocated, located⟩

end Frame

end Command

end Defun
