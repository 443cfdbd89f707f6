import Defun.Batch
import Defun.Command.Libraries
import Defun.Command.Options
import Defun.Command.Prompt
import Defun.Host
import Defun.Token.GrammarFile

/-!
# The command

A run of the command reads its arguments, opens its log, loads a registry, and
then transpiles a file or answers at a prompt.
-/

namespace Defun

namespace Command

/-- Where a run finds the files that no option names: the directories of
configuration files, and the directory of data. -/
structure Site where
  configuration : List Bytes
  data : Bytes
deriving DecidableEq, Repr

/-- The paths at which a grammar file is searched for. -/
def Site.grammars (site : Site) : List Bytes :=
  site.configuration.map fun directory =>
    Path.inDirectory directory "npjs/grammar.yaml"

def Site.historyDirectory (site : Site) : Bytes :=
  Path.inDirectory site.data "npjs"

def Site.history (site : Site) : Bytes :=
  Path.inDirectory site.data "npjs/.npjs_history"

/-- Why a run ends before it has looked at its input. -/
inductive StartError where
  | unopened (path : Bytes) (fault : FileFault)
  | logLevel (name : Bytes)
  | noGrammar (path : Bytes)
  | grammar (error : GrammarError Bytes)
deriving DecidableEq, Repr

def StartError.message : StartError → Bytes
  | unopened path fault => fileMessage "open" path fault
  | logLevel name => Log.Level.refusal name
  | noGrammar path => "grammar file " ++ path ++ " does not exist"
  | grammar error => error.message id

/-- Where a run logs: from which level on, and to which file in JSON. -/
structure Journal (Handle : Type) where
  level : Log.Level
  sink : Option Handle

def Journal.logger {Handle : Type} (journal : Journal Handle) : Log.Logger :=
  .write journal.level journal.sink.isSome

/-- What a run needs before it looks at its input. -/
structure Setup (Handle : Type) where
  journal : Journal Handle
  kinds : List Kind

variable {m : Type → Type} [Monad m] (host : Host m)

section Log

variable (journal : Journal host.Handle)

/-- Logs a record, whether or not it can be written. -/
def Journal.write (record : Log.Record) : m Unit :=
  if journal.logger.keeps record.level then do
    let time ← host.now
    let written := journal.logger.record record time
    host.complain written.lines
    match journal.sink with
    | none => pure ()
    | some handle =>
        let _ ← host.write handle written.sink
  else pure ()

def Journal.writeAll : List Log.Record → m Unit
  | [] => pure ()
  | record :: rest => do
      journal.write host record
      writeAll rest

/-- Opens the log in JSON, if there is one. -/
def openLog (path : Bytes) : m (Except StartError (Option host.Handle)) :=
  if path.isEmpty then pure (.ok none)
  else do
    match ← host.openFile .append path with
    | .error fault => pure (.error (.unopened path fault))
    | .ok handle => pure (.ok (some handle))

end Log

section Start

variable (libraries : Libraries) (site : Site)

/-- The record of a grammar file that is about to be read. -/
def loading (path : Bytes) : Log.Record :=
  ⟨.debug, "loading grammar", [⟨"path", .text path⟩]⟩

def readKinds (path : Bytes) (journal : Journal host.Handle) :
    m (Except StartError (List Kind)) := do
  match ← host.openFile .read path with
  | .error .missing => pure (.error (.noGrammar path))
  | .error fault => pure (.error (.unopened path fault))
  | .ok handle =>
      journal.write host (loading path)
      let file ← host.readWanted handle path libraries.blockSize
        libraries.wantsMore
      return (Registry.load libraries.entries file).mapError .grammar

/-- The registry of a run: that of the grammar file with a path, or else of the
first one in the directories of configuration files, or else the default. -/
def loadKinds (path : Bytes) (journal : Journal host.Handle) :
    m (Except StartError (List Kind)) :=
  if path.isEmpty then do
    match ← host.firstPresent? site.grammars with
    | none => pure (.ok Registry.default)
    | some found => readKinds host libraries found journal
  else readKinds host libraries path journal

/-- Prepares a run: the log is opened, then its level is looked at, then the
registry is loaded. -/
def setUp (options : Options) : m (Except StartError (Setup host.Handle)) := do
  match ← openLog host options.logFile with
  | .error error => pure (.error error)
  | .ok sink =>
      match Log.Level.ofName? options.logLevel with
      | none => pure (.error (.logLevel options.logLevel))
      | some level =>
          let journal : Journal host.Handle := ⟨level, sink⟩
          match ← loadKinds host libraries site options.grammar journal with
          | .error error => pure (.error error)
          | .ok kinds => pure (.ok ⟨journal, kinds⟩)

end Start

/-- Ends a run with a diagnostic. -/
def fail (message : Bytes) : m Nat := do
  host.complainLine message
  return 1

section Batch

variable (decoders : Bytes → Option (Bytes → Bytes)) (options : Options)
  (setup : Setup host.Handle)

/-- The records of a batch: those of the source text, if it can be had. -/
def batchRecords (decoders : Bytes → Option (Bytes → Bytes)) (label : Bytes)
    (kinds : List Kind) (input : Input) : List Log.Record :=
  match Batch.source decoders label input with
  | .error _ => []
  | .ok source => Transpiler.records kinds source

/-- What is left to read of an opened input.  It is not read at all if its
encoding is unknown. -/
def readInput (handle : host.Handle) (path : Bytes) : m Input :=
  match Batch.decoder decoders options.encoding with
  | .error _ => pure ⟨[], none⟩
  | .ok _ => host.readAll handle path

def transpileInput (handle : host.Handle) (path : Bytes) : m Nat := do
  let input ← readInput host decoders options handle path
  setup.journal.writeAll host
    (batchRecords decoders options.encoding setup.kinds input)
  let outcome := Batch.run decoders setup.kinds options.encoding input none
  match outcome.error with
  | some error => fail host ("Error: " ++ error.message)
  | none =>
      match ← host.writeAll host.standardOutput outcome.writes with
      | .ok () => pure 0
      | .error fault =>
          fail host ("Error: " ++
            (BatchError.write
              (fileMessage "write" Host.outputName fault)).message)

def runBatch : m Nat :=
  if options.input.isEmpty then
    transpileInput host decoders options setup host.standardInput Host.inputName
  else do
    match ← host.openFile .read options.input with
    | .error fault =>
        fail host ("Error: " ++ fileMessage "open" options.input fault)
    | .ok handle =>
        transpileInput host decoders options setup handle options.input

end Batch

section Prompt

variable (keeper : History.Keeper) (site : Site) (setup : Setup host.Handle)

/-- Answers a line at a prompt, and asks for another one. -/
def answerLine (prompt : Prompt) (line : Bytes) : m Prompt := do
  let (next, reply) := prompt.enter keeper setup.kinds line
  setup.journal.writeAll host reply.records
  host.print reply.output
  host.complain reply.complaint
  host.print next.sign
  return next

def answerLines (prompt : Prompt) : List Line → m Prompt
  | [] => pure prompt
  | line :: rest => do
      let next ← answerLine host keeper setup prompt line.text
      answerLines next rest

/-- Answers the lines that are known when a piece of the input has arrived.  The
octets behind them wait. -/
def answerPiece (state : Prompt × Bytes) (piece : Bytes) :
    m (Prompt × Bytes) := do
  let (lines, waiting) := Line.ready (state.2 ++ piece)
  let next ← answerLines host keeper setup state.1 lines
  return (next, waiting)

/-- The history that a prompt starts with.  A file that cannot be opened is an
empty history. -/
def readHistory : m (List Bytes) := do
  match ← host.openFile .read site.history with
  | .error _ => pure []
  | .ok handle =>
      let (entries, complaint) := keeper.read (← host.readAll handle site.history)
      match complaint with
      | none => pure entries
      | some message =>
          host.complainLine message
          return entries

/-- Keeps the history of a prompt in its file. -/
def writeHistory (entries : List Bytes) : m Unit := do
  let directory := site.historyDirectory
  match ← host.makeDirectories (Path.isAbsolute directory)
      (Path.names directory).reverse with
  | .ok () => pure ()
  | .error (path, fault) =>
      host.complainLine (fileMessage "mkdir" path fault)
  match ← host.openFile .create site.history with
  | .error _ => pure ()
  | .ok handle =>
      match ← host.writeAll handle (keeper.write entries) with
      | .ok () => pure ()
      | .error fault =>
          host.complainLine (fileMessage "write" site.history fault)

/-- A prompt with the history of earlier runs, which has asked for a line. -/
def startPrompt : m Prompt := do
  let prompt := Prompt.start (← readHistory host keeper site)
  host.print prompt.sign
  return prompt

/-- Answers the standard input line by line.  What is left when it ends is a
line, too. -/
def runPrompt : m Nat := do
  let prompt ← startPrompt host keeper site
  let ((prompt, waiting), fault) ← host.read host.standardInput
    (answerPiece host keeper setup) (prompt, [])
  let prompt ← answerLines host keeper setup prompt (Line.all waiting)
  writeHistory host keeper site prompt.history
  match fault with
  | none => pure 0
  | some fault => fail host ("Error: " ++ fileMessage "read" Host.inputName fault)

end Prompt

section Run

variable (libraries : Libraries) (site : Site)

def runWith (options : Options) : m Nat := do
  match ← setUp host libraries site options with
  | .error error => fail host error.message
  | .ok setup =>
      if options.isPrompt then runPrompt host libraries.history site setup
      else runBatch host libraries.decoders options setup

/-- Runs the command.  The result is its exit status. -/
def run (arguments : List Bytes) : m Nat := do
  match Options.default.parse arguments with
  | .ok options => runWith host libraries site options
  | .error refusal =>
      host.complain refusal.message
      return refusal.status

end Run

end Command

end Defun
