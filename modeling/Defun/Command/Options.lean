import Defun.Text.Quoted

/-!
# Options of the command

Options stand in front of all other arguments.  Each begins with one or two
dashes; its value follows behind an equals sign or is the next argument.  A
switch needs no value.
-/

namespace Defun

namespace Command

inductive TextOption where
  | input
  | grammar
  | encoding
  | logLevel
  | logFile
deriving DecidableEq, Repr

/-- What a flag sets. -/
inductive Setting where
  | text (target : TextOption)
  /-- Whether the command is a prompt. -/
  | prompt
deriving DecidableEq, Repr

/-- A flag, what it sets, and what the help says about it. -/
structure Flag where
  name : Bytes
  setting : Setting
  help : Bytes

def flags : List Flag :=
  [⟨"encoding", .text .encoding,
      "input encoding, e.g. shift_jis (default: utf-8)"⟩,
   ⟨"grammar", .text .grammar, "token registry YAML file"⟩,
   ⟨"i", .text .input,
      "input file path (default: standard input) (shorthand)"⟩,
   ⟨"input", .text .input, "input file path (default: standard input)"⟩,
   ⟨"log", .text .logLevel,
      "log level: debug, info, warn or error (default \"warn\")"⟩,
   ⟨"log-file", .text .logFile, "also write JSON logs to this file"⟩,
   ⟨"repl", .prompt, "start an interactive prompt"⟩]

def flag? (name : Bytes) : Option Flag :=
  flags.find? fun flag => flag.name == name

def Flag.usage (flag : Flag) : Bytes :=
  let placeholder : Bytes :=
    match flag.setting with
    | .text _ => " string"
    | .prompt => ""
  "  -" ++ flag.name ++ placeholder ++ "\n    \t" ++ flag.help ++ "\n"

/-- The help. -/
def usage : Bytes :=
  "Usage of npjs:\n" ++ flags.flatMap Flag.usage

structure Options where
  /-- The path of the input; standard input if empty. -/
  input : Bytes
  /-- The path of the grammar file; searched for if empty. -/
  grammar : Bytes
  /-- The label of the encoding; the octets are taken as they are if empty. -/
  encoding : Bytes
  logLevel : Bytes
  /-- The path of the log in JSON; none if empty. -/
  logFile : Bytes
  isPrompt : Bool
deriving DecidableEq, Repr

namespace Options

/-- The options of a run without arguments. -/
def default : Options := ⟨[], [], [], "warn", [], false⟩

def setText (options : Options) (target : TextOption) (value : Bytes) : Options :=
  match target with
  | .input => { options with input := value }
  | .grammar => { options with grammar := value }
  | .encoding => { options with encoding := value }
  | .logLevel => { options with logLevel := value }
  | .logFile => { options with logFile := value }

end Options

/-- Why arguments are not options. -/
inductive FlagError where
  | badSyntax (argument : Bytes)
  | unknown (name : Bytes)
  | missingValue (name : Bytes)
  | badSwitch (name value : Bytes)
deriving DecidableEq, Repr

def FlagError.message : FlagError → Bytes
  | badSyntax argument => "bad flag syntax: " ++ argument
  | unknown name => "flag provided but not defined: -" ++ name
  | missingValue name => "flag needs an argument: -" ++ name
  | badSwitch name value =>
      "invalid boolean value " ++ Quoted.quote value ++ " for -" ++ name ++
        ": parse error"

/-- Why a run ends before it begins. -/
inductive Refusal where
  | help
  | flag (error : FlagError)
deriving DecidableEq, Repr

def Refusal.message : Refusal → Bytes
  | help => usage
  | flag error => error.message ++ "\n" ++ usage

def Refusal.status : Refusal → Nat
  | help => 0
  | flag _ => 2

def onTexts : List Bytes := ["1", "t", "T", "TRUE", "true", "True"]

def offTexts : List Bytes := ["0", "f", "F", "FALSE", "false", "False"]

def switch? (value : Bytes) : Option Bool :=
  if onTexts.contains value then some true
  else if offTexts.contains value then some false
  else none

/-- An argument that is read as an option. -/
inductive Argument where
  /-- Not an option: the options have ended. -/
  | plain
  /-- A name that cannot be one. -/
  | malformed
  | named (name : Bytes) (value : Option Bytes)
deriving DecidableEq, Repr

/-- A name and the value behind an equals sign, which is not its first
octet. -/
def nameAndValue (text : Bytes) : Bytes × Option Bytes :=
  match text with
  | [] => ([], none)
  | first :: rest =>
      match Bytes.cut? "=" rest with
      | some (before, value) => (first :: before, some value)
      | none => (text, none)

/-- Reads an argument behind its dashes. -/
def Argument.ofName (text : Bytes) : Argument :=
  match text with
  | [] => .malformed
  | first :: _ =>
      if first = Bytes.octet '-' || first = Bytes.octet '=' then .malformed
      else
        let (name, value) := nameAndValue text
        .named name value

/-- Reads an argument.  A single dash is no option, and two dashes alone end the
options. -/
def Argument.read : Bytes → Argument
  | [] => .plain
  | [_] => .plain
  | first :: second :: rest =>
      if first ≠ Bytes.octet '-' then .plain
      else if second ≠ Bytes.octet '-' then .ofName (second :: rest)
      else if rest.isEmpty then .plain
      else .ofName rest

/-- The options that arguments add to others. -/
def Options.parse (options : Options) : List Bytes → Except Refusal Options
  | [] => .ok options
  | argument :: rest =>
      match Argument.read argument with
      | .plain => .ok options
      | .malformed => .error (.flag (.badSyntax argument))
      | .named name value =>
          match flag? name with
          | none =>
              if name == "help" || name == "h" then .error .help
              else .error (.flag (.unknown name))
          | some flag =>
              match flag.setting, value with
              | .prompt, none => parse { options with isPrompt := true } rest
              | .prompt, some value =>
                  match switch? value with
                  | some isPrompt => parse { options with isPrompt } rest
                  | none => .error (.flag (.badSwitch name value))
              | .text target, some value =>
                  parse (options.setText target value) rest
              | .text target, none =>
                  match rest with
                  | value :: rest => parse (options.setText target value) rest
                  | [] => .error (.flag (.missingValue name))

end Command

end Defun
