import Defun.Token

/-!
# Registries of kinds

A registry lists kinds in order of priority.  The default registry spells the
grammar's own kinds; others are read from a list of names and patterns and must
name every kind that the grammar needs, each kind once.
-/

namespace Defun

def Category.pattern : Category → Bytes
  | .define => "^(\\bdef\\b)"
  | .finish => "^(\\bend\\b)"
  | .identifier => "^(\\b[a-zA-Z]+\\b)"
  | .integer => "^(\\b[0-9]+\\b)"
  | .opening => "^(\\()"
  | .closing => "^(\\))"
  | .comma => "^(,)"

structure KindEntry where
  name : Bytes
  pattern : Bytes
deriving DecidableEq, Repr

/-- Why a list of entries is not a registry. -/
inductive RegistryError where
  /-- Two entries have the same name. -/
  | duplicate (name : Bytes)
  /-- The pattern of an entry cannot be read. -/
  | pattern (name : Bytes) (error : PatternError)
  /-- No entry has the name of a kind that the grammar needs. -/
  | missing (name : Bytes)
deriving DecidableEq, Repr

def RegistryError.message : RegistryError → Bytes
  | duplicate name => "duplicate token kind " ++ Quoted.quote name
  | pattern name error =>
      "grammar: kind " ++ Quoted.quote name ++ ": " ++ error.message
  | missing name => "missing token kind " ++ Quoted.quote name

namespace Registry

/-- The kinds of the grammar with their own patterns.  Reserved words come
before identifiers, which would match them too. -/
def default : List Kind :=
  Category.all.filterMap fun category =>
    (Kind.compile category.name category.pattern).toOption

/-- The kinds of a list of entries that follow entries of the names `seen`. -/
def compileEntries (seen : List Bytes) :
    List KindEntry → Except RegistryError (List Kind)
  | [] => .ok []
  | entry :: rest =>
      if seen.contains entry.name then .error (.duplicate entry.name)
      else
        match Kind.compile entry.name entry.pattern with
        | .error error => .error (.pattern entry.name error)
        | .ok kind =>
            (compileEntries (entry.name :: seen) rest).map (kind :: ·)

def firstMissing? (entries : List KindEntry) : Option Category :=
  Category.all.find? fun category =>
    entries.all fun entry => entry.name != category.name

/-- The registry that a list of entries describes. -/
def ofEntries (entries : List KindEntry) : Except RegistryError (List Kind) :=
  match compileEntries [] entries with
  | .error error => .error error
  | .ok kinds =>
      match firstMissing? entries with
      | some category => .error (.missing category.name)
      | none => .ok kinds

end Registry

end Defun
