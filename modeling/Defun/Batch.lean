import Defun.Input
import Defun.Transpiler

/-!
# Whole inputs

An input is read to its end, decoded, and written as JavaScript in one piece.
Nothing is written unless all of it succeeds.
-/

namespace Defun

/-- Why an input was not transpiled. -/
inductive BatchError where
  | unknownEncoding (label : Bytes)
  | read (reason : Bytes)
  | transpile (error : TranspileError)
  | write (reason : Bytes)
deriving DecidableEq, Repr

def BatchError.message : BatchError → Bytes
  | unknownEncoding label =>
      "encoding " ++ Quoted.quote label ++ ": htmlindex: invalid encoding name"
  | read reason => "read: " ++ reason
  | transpile error => error.message
  | write reason => "write: " ++ reason

namespace Batch

section Decoding

-- The decoders of texts by their labels.
variable (decoders : Bytes → Option (Bytes → Bytes))

/-- How the octets of an input are decoded.  Without a label they are taken as
they are. -/
def decoder (label : Bytes) : Except BatchError (Bytes → Bytes) :=
  if label.isEmpty then .ok id
  else
    match decoders label with
    | some decode => .ok decode
    | none => .error (.unknownEncoding label)

/-- The source text of an input.  The label is looked up before the input is
read. -/
def source (label : Bytes) (input : Input) : Except BatchError Bytes := do
  let decode ← decoder decoders label
  let text ← input.contents.mapError .read
  return decode text

end Decoding

/-- What is to be written for a source text: its JavaScript on lines of its own,
or nothing if there is none. -/
def rendering (kinds : List Kind) (text : Bytes) :
    Except BatchError (Option Bytes) :=
  match transpile kinds text with
  | .error error => .error (.transpile error)
  | .ok output =>
      .ok (if output.isEmpty then none else some (output ++ [Bytes.newline]))

/-- What came of an input: the texts that the writer was asked to write, in
order, and the error if there was one. -/
structure Outcome where
  writes : List Bytes
  error : Option BatchError
deriving DecidableEq, Repr

/-- Transpiles an input and asks a writer to write the result.  If the writer
fails, it does so for the reason `refusal`. -/
def run (decoders : Bytes → Option (Bytes → Bytes)) (kinds : List Kind)
    (label : Bytes) (input : Input) (refusal : Option Bytes) : Outcome :=
  match source decoders label input >>= rendering kinds with
  | .error error => ⟨[], some error⟩
  | .ok none => ⟨[], none⟩
  | .ok (some text) => ⟨[text], refusal.map BatchError.write⟩

end Batch

end Defun
