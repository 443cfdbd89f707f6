import Defun.Files.Path
import Defun.Input
import Defun.Log

/-!
# Hosts

A host is what a program asks of the system that it runs on: the time, and the
uses of files.  Programs are written for any host, so that the same one runs on
a system and in a model of a system.
-/

namespace Defun

/-- Why a file cannot be used. -/
inductive FileFault where
  | missing
  | denied
  | taken
  | notDirectory
  | isDirectory
  | nameTooLong
  | tooManyLinks
  | invalid
  | other (message : Bytes)
deriving DecidableEq, Repr

def FileFault.message : FileFault → Bytes
  | missing => "no such file or directory"
  | denied => "permission denied"
  | taken => "file exists"
  | notDirectory => "not a directory"
  | isDirectory => "is a directory"
  | nameTooLong => "file name too long"
  | tooManyLinks => "too many levels of symbolic links"
  | invalid => "invalid argument"
  | other message => message

def fileMessage (use path : Bytes) (fault : FileFault) : Bytes :=
  use ++ " " ++ path ++ ": " ++ fault.message

/-- What a file is opened for.  A file that is written to is made if it is
missing. -/
inductive OpenMode where
  | read
  | append
  /-- To be written from its beginning. -/
  | create
deriving DecidableEq, Repr

structure Host (m : Type → Type) where
  /-- Opened files. -/
  Handle : Type
  standardInput : Handle
  standardOutput : Handle
  standardError : Handle
  now : m Log.Instant
  /-- Whether a path leads to a directory, if it leads to something. -/
  isDirectory : Bytes → m (Except FileFault Bool)
  makeDirectory : Bytes → m (Except FileFault Unit)
  openFile : OpenMode → Bytes → m (Except FileFault Handle)
  /-- Goes through what a file holds, piece by piece, up to its end or to a
  fault. -/
  read : {σ : Type} → Handle → (σ → Bytes → m σ) → σ →
    m (σ × Option FileFault)
  /-- Reads blocks of at most so many octets as long as more is wanted behind the
  text of those that were read, up to the end of a file or to a fault. -/
  readBlocks : Handle → (size : Nat) → (wantsMore : Bytes → Bool) →
    m (List Bytes × Option FileFault)
  write : Handle → Bytes → m (Except FileFault Unit)

namespace Host

def inputName : Bytes := "/dev/stdin"

def outputName : Bytes := "/dev/stdout"

variable {m : Type → Type} [Monad m] (host : Host m)

/-- What was read of a file as an input.  The path is the one in the wording of
a fault. -/
def inputOf (path : Bytes) (pieces : List Bytes) (fault : Option FileFault) :
    Input :=
  ⟨pieces, fault.map (fileMessage "read" path)⟩

/-- All that is left to read of a file. -/
def readAll (handle : host.Handle) (path : Bytes) : m Input := do
  let (pieces, fault) ← host.read handle
    (fun pieces piece => pure (piece :: pieces)) []
  return inputOf path pieces.reverse fault

/-- What is wanted of a file. -/
def readWanted (handle : host.Handle) (path : Bytes) (size : Nat)
    (wantsMore : Bytes → Bool) : m Input := do
  let (blocks, fault) ← host.readBlocks handle size wantsMore
  return inputOf path blocks fault

/-- Writes texts up to the first fault. -/
def writeAll (handle : host.Handle) : List Bytes → m (Except FileFault Unit)
  | [] => pure (.ok ())
  | text :: rest => do
      match ← host.write handle text with
      | .error fault => pure (.error fault)
      | .ok () => writeAll handle rest

/-- Writes to standard output, whether or not that succeeds. -/
def print (text : Bytes) : m Unit := do
  let _ ← host.write host.standardOutput text

/-- Writes to standard error, whether or not that succeeds. -/
def complain (text : Bytes) : m Unit := do
  let _ ← host.write host.standardError text

def complainLine (text : Bytes) : m Unit :=
  host.complain (text ++ [Bytes.newline])

def firstPresent? : List Bytes → m (Option Bytes)
  | [] => pure none
  | path :: rest => do
      match ← host.isDirectory path with
      | .ok _ => pure (some path)
      | .error _ => firstPresent? rest

/-- Makes the directory with the given names, the last one first, and those on
the way to it.  A fault comes with the path of the directory that has it. -/
def makeDirectories (rooted : Bool) :
    List Bytes → m (Except (Bytes × FileFault) Unit)
  | [] => pure (.ok ())
  | name :: around => do
      let path := Path.ofNamesFrom rooted (name :: around).reverse
      match ← host.isDirectory path with
      | .ok true => pure (.ok ())
      | .ok false => pure (.error (path, .notDirectory))
      | .error _ =>
          match ← makeDirectories rooted around with
          | .error fault => pure (.error fault)
          | .ok () =>
              return (← host.makeDirectory path).mapError fun fault =>
                (path, fault)

end Host

end Defun
