import Defun.Proofs.Grammar.Failure

/-!
# The grammar as rules that call each other

A parser is a sequence of tokens with the number of those that were consumed.
The rules of the grammar move it: the rule for an expression calls the rule for
lists, which calls the rule for expressions again.  Asking for a token behind
the last one has no outcome, so a rule has to look before it asks.

Loops and nested calls are bounded by the number of tokens.  A rule that runs
into a bound has no outcome either.
-/

namespace Defun

/-- A sequence of tokens and the number of those that were consumed. -/
structure Parser where
  tokens : Array Token
  current : Nat

namespace Parser

def ofTokens (tokens : List Token) : Parser := ⟨tokens.toArray, 0⟩

def next (parser : Parser) : Parser :=
  { parser with current := parser.current + 1 }

/-- The tokens that were not consumed. -/
def rest (parser : Parser) : List Token :=
  parser.tokens.toList.drop parser.current

def remaining (parser : Parser) : Nat :=
  parser.tokens.size - parser.current

/-- The token at a distance from the one in front. -/
def ahead? (parser : Parser) (distance : Nat) : Option Token :=
  parser.tokens[parser.current + distance]?

def front? (parser : Parser) : Option Token :=
  parser.ahead? 0

end Parser

/-- A rule of the grammar moves a parser and gives a value or an error.  The
parser stays where an error was found.  A rule that asks for a token where
there is none has no outcome. -/
abbrev Rule := ExceptT (Located SyntaxError) (StateT Parser Option)

namespace Rule

def never {α : Type} : Rule α := fun _ => none

/-- Asks for the token at a distance. -/
def token (distance : Nat) : Rule Token := fun parser =>
  (parser.ahead? distance).map fun token => (.ok token, parser)

def isAtEnd : Rule Bool := do
  let parser ← get
  return decide (parser.tokens.size ≤ parser.current)

def sees (distance : Nat) (category : Category) : Rule Bool := do
  let parser ← get
  if parser.tokens.size ≤ parser.current + distance then return false
  return (← token distance).hasKind category.name

/-- Complains about the token in front, or about the end of the input. -/
def unexpected {α : Type} (expected : List Category) : Rule α := do
  let names := expected.map Category.name
  if ← isAtEnd then throw ⟨.absent, .unexpectedEnd names⟩
  else
    let found ← token 0
    throw ⟨found, .unexpectedToken names found.kindText⟩

/-- Takes the token in front if it is of a category. -/
def consume (category : Category) : Rule Token := do
  if ← sees 0 category then
    let found ← token 0
    modify Parser.next
    return found
  else unexpected [category]

/-- Behind an item of a list, the list is closed or a comma precedes another
item. -/
def separator (kinds : List Category) : Rule Unit := do
  if ← sees 0 .closing then return
  let _ ← consume .comma
  if ← sees 0 .closing then unexpected kinds

/-- The items of a list up to the closing parenthesis, behind those that were
read.  The rounds are counted so that the loop ends. -/
def items {α : Type} (kinds : List Category) (item : Rule α) :
    Nat → List α → Rule (List α)
  | 0, _ => never
  | rounds + 1, read => do
      if ← sees 0 .closing then return read.reverse
      let node ← item
      separator kinds
      items kinds item rounds (node :: read)

/-- `"(" (item ("," item)*)? ")"` -/
def list {α : Type} (kinds : List Category) (item : Rule α) :
    Rule (List α) := do
  let _ ← consume .opening
  let parser ← get
  let read ← items kinds item (parser.tokens.size + 1) []
  let _ ← consume .closing
  return read

def integer : Rule Node := do
  let found ← consume .integer
  match Decimal.toWord? found.lexeme with
  | some value => return .integer value
  | none => throw ⟨found, .integerRange found.lexeme⟩

/-- `expr = INTEGER | IDENT | IDENT "(" (expr ("," expr)*)? ")"`, where calls
are nested less deep than a bound. -/
def expressionWithin : Nat → Rule Node
  | 0 => never
  | depth + 1 => do
      if ← sees 0 .integer then integer
      else if ← sees 0 .identifier then
        if ← sees 1 .opening then
          let name ← consume .identifier
          let arguments ← list State.items (expressionWithin depth)
          return .call name.lexeme arguments
        else
          let name ← consume .identifier
          return .reference name.lexeme
      else unexpected State.items

def expression : Rule Node := do
  let parser ← get
  expressionWithin (parser.tokens.size + 1)

def body : Rule (List Node) := do
  if ← sees 0 .finish then return []
  return [← expression]

def parameter : Rule Bytes := do
  return (← consume .identifier).lexeme

/-- `def = DEF IDENT "(" (IDENT ("," IDENT)*)? ")" expr? END` -/
def definition : Rule Node := do
  let _ ← consume .define
  let name ← consume .identifier
  let parameters ← list [.identifier] parameter
  let body ← body
  let _ ← consume .finish
  return .define name.lexeme parameters body

/-- The definitions up to the end of the input, behind those that were
read. -/
def definitions : Nat → List Node → Rule (List Node)
  | 0, _ => never
  | rounds + 1, read => do
      if ← isAtEnd then return read
      let node ← definition
      definitions rounds (read ++ [node])

/-- `root = def*` -/
def program : Rule Node := do
  let parser ← get
  return .root (← definitions (parser.tokens.size + 1) [])

/-- An expression with nothing behind it. -/
def onlyExpression : Rule Node := do
  let node ← expression
  if ← isAtEnd then return node
  let found ← token 0
  throw ⟨found, .unexpectedToken ["end of input"] found.kindText⟩

end Rule

namespace Parser

/-- A parser moves forward over the same tokens, and not beyond them. -/
structure Reaches (start stop : Parser) : Prop where
  tokens_eq : stop.tokens = start.tokens
  current_le : start.current ≤ stop.current
  bounded : start.current ≤ start.tokens.size →
    stop.current ≤ start.tokens.size

theorem Reaches.refl (parser : Parser) : parser.Reaches parser :=
  ⟨rfl, Nat.le_refl _, id⟩

theorem Reaches.trans {start middle stop : Parser}
    (first : start.Reaches middle) (second : middle.Reaches stop) :
    start.Reaches stop := by
  have sizeEq : middle.tokens.size = start.tokens.size :=
    congrArg Array.size first.tokens_eq
  refine ⟨second.tokens_eq.trans first.tokens_eq,
    Nat.le_trans first.current_le second.current_le, fun inside => ?_⟩
  have middleInside := first.bounded inside
  have stopInside := second.bounded (by omega)
  omega

theorem Reaches.remaining_le {start stop : Parser}
    (reaches : start.Reaches stop) : stop.remaining ≤ start.remaining := by
  have forward := reaches.current_le
  rw [remaining, remaining, reaches.tokens_eq]
  omega

section Front

variable {parser : Parser} {token : Token}

theorem reaches_next (found : parser.front? = some token) :
    parser.Reaches parser.next := by
  obtain ⟨inside, -⟩ := Array.getElem?_eq_some_iff.mp found
  exact ⟨rfl, Nat.le_succ _, fun _ => inside⟩

theorem remaining_next_lt (found : parser.front? = some token) :
    parser.next.remaining < parser.remaining := by
  obtain ⟨inside, -⟩ := Array.getElem?_eq_some_iff.mp found
  simp only [remaining, next]
  omega

theorem rest_eq_cons (found : parser.front? = some token) :
    parser.rest = token :: parser.next.rest := by
  obtain ⟨inside, tokenEq⟩ := Array.getElem?_eq_some_iff.mp found
  rw [rest, List.drop_eq_getElem_cons (by simpa using inside),
    Array.getElem_toList]
  exact congrArg (· :: parser.next.rest) tokenEq

@[simp]
theorem head?_rest (parser : Parser) : parser.rest.head? = parser.front? := by
  rw [rest, List.head?_drop, Array.getElem?_toList]
  rfl

theorem size_le_of_front? (missing : parser.front? = none) :
    parser.tokens.size ≤ parser.current :=
  Array.getElem?_eq_none_iff.mp missing

theorem rest_eq_nil (missing : parser.front? = none) : parser.rest = [] := by
  rw [rest, List.drop_eq_nil_iff]
  exact size_le_of_front? missing

end Front

end Parser

namespace Rule

section Running

variable {α β : Type} {rule : Rule α} {parser stop : Parser}

theorem bind_of_ok {value : α} (ran : rule parser = some (.ok value, stop))
    (continuation : α → Rule β) :
    (rule >>= continuation) parser = continuation value stop := by
  change (ExceptT.bind rule continuation) parser = _
  simp [ExceptT.bind, ExceptT.mk, bind, StateT.bind, ran, ExceptT.bindCont]

theorem bind_of_error {located : Located SyntaxError}
    (ran : rule parser = some (.error located, stop))
    (continuation : α → Rule β) :
    (rule >>= continuation) parser = some (.error located, stop) := by
  change (ExceptT.bind rule continuation) parser = _
  simp only [ExceptT.bind, ExceptT.mk, bind, StateT.bind, ran,
    Option.bind_some, ExceptT.bindCont]
  rfl

@[simp]
theorem get_bind (continuation : Parser → Rule β) :
    (get >>= continuation) parser = continuation parser parser :=
  bind_of_ok rfl continuation

@[simp]
theorem isAtEnd_bind (continuation : Bool → Rule β) :
    (isAtEnd >>= continuation) parser =
      continuation parser.front?.isNone parser := by
  apply bind_of_ok
  have endEq : decide (parser.tokens.size ≤ parser.current) =
      parser.front?.isNone := by
    rw [Bool.eq_iff_iff, decide_eq_true_iff, Option.isNone_iff_eq_none]
    exact Array.getElem?_eq_none_iff.symm
  rw [isAtEnd, get_bind, endEq]
  rfl

theorem token_bind {distance : Nat} {token : Token}
    (found : parser.ahead? distance = some token)
    (continuation : Token → Rule β) :
    (Rule.token distance >>= continuation) parser =
      continuation token parser := by
  apply bind_of_ok
  rw [Rule.token, found]
  rfl

@[simp]
theorem sees_bind (distance : Nat) (category : Category)
    (continuation : Bool → Rule β) :
    (sees distance category >>= continuation) parser =
      continuation (decide ((parser.ahead? distance).bind Token.category? =
        some category)) parser := by
  apply bind_of_ok
  rw [sees, get_bind]
  cases found : parser.ahead? distance with
  | none =>
      rw [if_pos (Array.getElem?_eq_none_iff.mp found)]
      rfl
  | some token =>
      obtain ⟨inside, -⟩ := Array.getElem?_eq_some_iff.mp found
      have kindEq : token.hasKind category.name =
          decide (token.category? = some category) := by
        rw [Token.hasKind, Bool.eq_iff_iff, beq_iff_eq, decide_eq_true_iff,
          Token.category?_eq_some_iff]
      rw [if_neg (by omega), token_bind found, kindEq]
      rfl

theorem sees_bind_of_eq {category : Category}
    (seen : parser.front?.bind Token.category? = some category)
    (continuation : Bool → Rule β) :
    (sees 0 category >>= continuation) parser =
      continuation true parser := by
  have decided : decide ((parser.ahead? 0).bind Token.category? =
      some category) = true := decide_eq_true seen
  simp [decided]

theorem sees_bind_of_ne {category : Category}
    (notSeen : parser.front?.bind Token.category? ≠ some category)
    (continuation : Bool → Rule β) :
    (sees 0 category >>= continuation) parser =
      continuation false parser := by
  have decided : decide ((parser.ahead? 0).bind Token.category? =
      some category) = false := decide_eq_false notSeen
  simp [decided]

theorem unexpected_of_front? {token : Token}
    (found : parser.front? = some token) (expected : List Category) :
    (unexpected expected : Rule α) parser =
      some (.error ⟨token, .unexpectedToken (expected.map Category.name)
        token.kindText⟩, parser) := by
  rw [unexpected, isAtEnd_bind, found, if_neg (by simp), token_bind found]
  rfl

theorem unexpected_of_end (missing : parser.front? = none)
    (expected : List Category) :
    (unexpected expected : Rule α) parser =
      some (.error ⟨.absent, .unexpectedEnd (expected.map Category.name)⟩,
        parser) := by
  rw [unexpected, isAtEnd_bind, missing, if_pos (by rfl)]
  rfl

theorem unexpected_bind (expected : List Category)
    (continuation : α → Rule β) :
    (unexpected expected >>= continuation) parser =
      unexpected expected parser := by
  cases found : parser.front? with
  | none =>
      rw [unexpected_of_end found]
      exact bind_of_error (unexpected_of_end found expected) continuation
  | some token =>
      rw [unexpected_of_front? found]
      exact bind_of_error (unexpected_of_front? found expected) continuation

theorem consume_bind_of_category {category : Category} {token : Token}
    (found : parser.front? = some token)
    (isCategory : token.category? = some category)
    (continuation : Token → Rule β) :
    (consume category >>= continuation) parser =
      continuation token parser.next := by
  apply bind_of_ok
  have seen : parser.front?.bind Token.category? = some category := by
    rw [found]
    exact isCategory
  rw [consume, sees_bind_of_eq seen, if_pos rfl, token_bind found]
  rfl

theorem consume_bind_of_other {category : Category}
    (other : parser.front?.bind Token.category? ≠ some category)
    (continuation : Token → Rule β) :
    (consume category >>= continuation) parser =
      unexpected [category] parser := by
  rw [consume, bind_assoc, sees_bind_of_ne other,
    if_neg Bool.false_ne_true, unexpected_bind]

end Running

end Rule

end Defun
