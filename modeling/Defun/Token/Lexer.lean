import Defun.Token.Registry

/-!
# Splitting texts into tokens

At every place of a text the first kind of the registry that matches there
gives a token, and the text behind it is split in the same way.  Where no kind
matches, one rune is dropped.
-/

namespace Defun

/-- The place behind a rune. -/
def Position.advance (position : Position) (rune : Rune) : Position :=
  if rune.char == '\n' then
    ⟨position.offset + rune.width, position.line + 1, 1⟩
  else ⟨position.offset + rune.width, position.line, position.column + 1⟩

namespace Lexer

/-- The first kind that matches at the beginning of a text, and the number of
runes that it takes. -/
def firstMatch? (kinds : List Kind) (text : List Rune) : Option (Kind × Nat) :=
  kinds.findSome? fun kind => (kind.matchRunes? text).map fun count =>
    (kind, count)

/-- The tokens of a text that begins at a position and of which the first
`pending` runes belong to the token before it. -/
def tokensFrom (kinds : List Kind) (position : Position) (pending : Nat) :
    List Rune → List Token
  | [] => []
  | rune :: rest =>
      match pending with
      | left + 1 => tokensFrom kinds (position.advance rune) left rest
      | 0 =>
          match firstMatch? kinds (rune :: rest) with
          | some (kind, count) =>
              ⟨some kind, Rune.octetsOf ((rune :: rest).take count), position⟩ ::
                tokensFrom kinds (position.advance rune) (count - 1) rest
          | none => tokensFrom kinds (position.advance rune) 0 rest

end Lexer

def tokenize (kinds : List Kind) (source : Bytes) : List Token :=
  Lexer.tokensFrom kinds .start 0 (Rune.read source)

end Defun
