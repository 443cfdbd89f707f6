import Defun.Command.History
import Defun.Encoding
import Defun.Yaml.KindEntries

/-!
# Libraries of the command

The command leaves it to libraries to read grammar files, to decode inputs and
to keep histories.  It runs with any libraries.
-/

namespace Defun

structure Libraries where
  /-- How many octets of a grammar file are asked for at once. -/
  blockSize : Nat
  /-- Whether more of a grammar file has to be read behind a text. -/
  wantsMore : Bytes → Bool
  /-- The entries of a registry in what was read of a grammar file, if there are
  any. -/
  entries : Input → Except Bytes (Option (List KindEntry))
  /-- The decoders of inputs by their labels. -/
  decoders : Bytes → Option (Bytes → Bytes)
  history : History.Keeper

/-- Grammar files in YAML, the encodings of the web, and histories with an entry
on each line. -/
def Libraries.standard : Libraries where
  blockSize := Yaml.blockSize
  wantsMore := Yaml.Document.wantsMore
  entries file := (KindEntry.readAll file).mapError Yaml.DecodeError.message
  decoders := Encoding.decoder?
  history := History.keeper

end Defun
