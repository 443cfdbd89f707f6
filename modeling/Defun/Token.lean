import Defun.Token.Kind

/-!
# Tokens

A token carries its lexical kind, the text it covers and the place where that
text begins.  The grammar looks for seven kinds by name; kinds of any other name
may occur and fit nowhere.
-/

namespace Defun

/-- The lexical kinds that the grammar is written in. -/
inductive Category where
  | define
  | finish
  | identifier
  | integer
  | opening
  | closing
  | comma
deriving DecidableEq, Repr

namespace Category

/-- The name under which a registry lists a category. -/
def name : Category → Bytes
  | define => "def"
  | finish => "end"
  | identifier => "identifier"
  | integer => "integer"
  | opening => "oparam"
  | closing => "cparam"
  | comma => "comma"

/-- All categories, in the order in which their absence is reported. -/
def all : List Category :=
  [define, finish, identifier, integer, opening, closing, comma]

def ofName? (name : Bytes) : Option Category :=
  all.find? fun category => category.name == name

end Category

/-- A place in a source text: octets before it, its line, and its column in
runes; lines and columns count from one. -/
structure Position where
  offset : Int
  line : Int
  column : Int
deriving DecidableEq, Repr

def Position.start : Position := ⟨0, 1, 1⟩

/-- A piece of source text with its kind.  A token without a kind belongs to
no category. -/
structure Token where
  kind : Option Kind
  lexeme : Bytes
  position : Position
deriving DecidableEq, Repr

namespace Token

/-- The token that stands for the end of the input in diagnostics. -/
def absent : Token := ⟨none, [], ⟨0, 0, 0⟩⟩

def kindName? (token : Token) : Option Bytes :=
  token.kind.map Kind.name

def hasKind (token : Token) (name : Bytes) : Bool :=
  token.kindName? == some name

/-- The category of a token, if the grammar knows its kind. -/
def category? (token : Token) : Option Category :=
  token.kindName?.bind Category.ofName?

/-- How diagnostics name the kind of a token. -/
def kindText (token : Token) : Bytes :=
  token.kindName?.getD "<nil>"

/-- How a token is listed: its kind, its text in quotes, its line and its
column. -/
def text (token : Token) : Bytes :=
  "\x7b" ++ token.kindText ++ ", " ++ Quoted.quote token.lexeme ++ ", " ++
    Decimal.ofInt token.position.line ++ ":" ++
    Decimal.ofInt token.position.column ++ "\x7d"

end Token

end Defun
