import Mathlib.Tactic.DeprecateTo
import Defun.Command

/-!
# The program

The system is a host of the command.
-/

namespace Defun

namespace Program

def stringOf (text : Bytes) : String := String.ofList text.chars

/-- The wording of a fault of the system, which begins with a small letter. -/
def wording (details : String) : Bytes :=
  Bytes.ofString details.decapitalize

def faultOf : IO.Error → FileFault
  | .noFileOrDirectory _ _ _ => .missing
  | .permissionDenied _ _ _ => .denied
  | .alreadyExists _ _ _ => .taken
  | .inappropriateType _ _ details => .other (wording details)
  | .invalidArgument _ _ details => .other (wording details)
  | .resourceExhausted _ _ details => .other (wording details)
  | .hardwareFault _ details => .other (wording details)
  | .otherError _ details => .other (wording details)
  | error => .other (wording (toString error))

def attempt {α : Type} (action : IO α) : IO (Except FileFault α) := do
  try
    return .ok (← action)
  catch error => return .error (faultOf error)

/-- An opened file, and how many octets are asked for at once. -/
structure Opened where
  stream : IO.FS.Stream
  pieceSize : USize

/-- A standard stream.  Its octets are taken as they come. -/
def standard (stream : IO.FS.Stream) : Opened := ⟨stream, 1⟩

def openMode : OpenMode → IO.FS.Mode
  | .read => .read
  | .append => .append
  | .create => .write

def openFile (mode : OpenMode) (path : Bytes) : IO Opened := do
  let handle ← IO.FS.Handle.mk (stringOf path) (openMode mode)
  return ⟨.ofHandle handle, 65536⟩

def isDirectory (path : Bytes) : IO Bool := do
  let place := (← IO.currentDir) / stringOf path
  return (← place.metadata).type == .dir

partial def read {σ : Type} (opened : Opened) (step : σ → Bytes → IO σ)
    (state : σ) : IO (σ × Option FileFault) := do
  match ← attempt (opened.stream.read opened.pieceSize) with
  | .error fault => return (state, some fault)
  | .ok piece =>
      if piece.isEmpty then return (state, none)
      else read opened step (← step state piece.data.toList)

partial def readBlocks (opened : Opened) (size : Nat)
    (wantsMore : Bytes → Bool) (text : Bytes) :
    IO (List Bytes × Option FileFault) := do
  match ← attempt (opened.stream.read size.toUSize) with
  | .error fault => return ([], some fault)
  | .ok piece =>
      if piece.isEmpty then return ([], none)
      else
        let block := piece.data.toList
        if wantsMore (text ++ block) then
          let (blocks, fault) ← readBlocks opened size wantsMore (text ++ block)
          return (block :: blocks, fault)
        else return ([block], none)

def write (opened : Opened) (text : Bytes) : IO Unit := do
  opened.stream.write ⟨text.toArray⟩
  opened.stream.flush

open Std.Time in
def now : IO Log.Instant := do
  let time ← DateTime.now
  let date := time.date.get
  return {
    year := date.year.toInt.toNat
    month := date.month.toNat
    day := date.day.toNat
    hour := date.hour.toNat
    minute := date.minute.toNat
    second := date.second.toNat
    nanosecond := date.nanosecond.toNat
    zone := time.timezone.offset.second.toInt.tdiv 60 }

def host (input output errors : IO.FS.Stream) : Host IO where
  Handle := Opened
  standardInput := standard input
  standardOutput := standard output
  standardError := standard errors
  now
  isDirectory path := attempt (isDirectory path)
  makeDirectory path := attempt (IO.FS.createDir (stringOf path))
  openFile mode path := attempt (openFile mode path)
  read
  readBlocks opened size wantsMore := readBlocks opened size wantsMore []
  write opened text := attempt (write opened text)

/-- The value of a variable of the environment that holds an absolute path, or a
default. -/
def directory (name default : String) : IO Bytes := do
  let value := Bytes.ofString ((← IO.getEnv name).getD "")
  return if Path.isAbsolute value then value else Bytes.ofString default

/-- Where the system keeps files of configuration and data. -/
def site : IO Command.Site := do
  let home := (← IO.getEnv "HOME").getD ""
  let configHome ← directory "XDG_CONFIG_HOME" (home ++ "/.config")
  let configDirs := (((← IO.getEnv "XDG_CONFIG_DIRS").getD "").splitOn ":").map
    Bytes.ofString
  let absolute := configDirs.filter Path.isAbsolute
  return {
    configuration := configHome ::
      if absolute.isEmpty then ["/etc/xdg"] else absolute
    data := ← directory "XDG_DATA_HOME" (home ++ "/.local/share") }

end Program

end Defun

open Defun in
def main (arguments : List String) : IO UInt32 := do
  let host := Program.host (← IO.getStdin) (← IO.getStdout) (← IO.getStderr)
  let status ← Command.run host .standard (← Program.site)
    (arguments.map Bytes.ofString)
  return status.toUInt32
