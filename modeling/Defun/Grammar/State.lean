import Defun.Diagnostic
import Defun.Tree

/-!
# The grammar, token by token

A program is a sequence of definitions `def name ( parameters ) body end`,
where the body is empty or one expression.  An expression is an integer, a
variable or a call of a name with arguments.  Parameters and arguments are
separated by commas.

Reading a program means moving through the places of this grammar, one token
at a time.  Each place knows the categories that may come next, and calls that
are still open are kept innermost first.
-/

namespace Defun

/-- The part of a definition in front of its body. -/
structure Header where
  name : Bytes
  parameters : List Bytes

/-- A call whose arguments are still being read, the last read first. -/
structure OpenCall where
  name : Bytes
  arguments : List Node

/-- What surrounds an expression: the definition whose body it belongs to, if
it belongs to one, and the calls that are open around it, innermost first. -/
structure Surroundings where
  header : Option Header
  calls : List OpenCall

/-- A place in the grammar. -/
inductive State where
  /-- Between definitions. -/
  | outside
  /-- Behind `def`. -/
  | definitionName
  /-- Behind the name of a definition. -/
  | parameters (name : Bytes)
  /-- Behind the parenthesis that opens the parameters. -/
  | firstParameter (name : Bytes)
  /-- Behind a parameter; the last parameter is first. -/
  | moreParameters (name : Bytes) (read : List Bytes)
  /-- Behind a comma between parameters. -/
  | nextParameter (name : Bytes) (read : List Bytes)
  /-- Behind the parameters of a definition. -/
  | body (header : Header)
  /-- In front of an expression that stands alone. -/
  | expression
  /-- Behind the parenthesis that opens the arguments of a call. -/
  | firstArgument (name : Bytes) (around : Surroundings)
  /-- Behind a comma between arguments. -/
  | nextArgument (around : Surroundings)
  /-- Behind an identifier that is a variable unless a call begins here. -/
  | identifier (name : Bytes) (around : Surroundings)
  /-- Behind a complete expression. -/
  | complete (expression : Node) (around : Surroundings)

/-- The effect of one token. -/
inductive Move where
  /-- The token leads to another place. -/
  | advance (state : State)
  /-- The token ends a definition. -/
  | close (definition : Node)

namespace State

/-- The categories of tokens that begin an expression. -/
def items : List Category := [.integer, .identifier]

/-- The categories that a complete expression waits for.  Behind an expression
that stands alone there is none. -/
def expectedBehind (around : Surroundings) : List Category :=
  match around.calls, around.header with
  | _ :: _, _ => [.comma]
  | [], some _ => [.finish]
  | [], none => []

/-- The categories that diagnostics name as expected at a place. -/
def expected : State → List Category
  | outside => [.define]
  | definitionName => [.identifier]
  | parameters _ => [.opening]
  | firstParameter _ => [.identifier]
  | moreParameters _ _ => [.comma]
  | nextParameter _ _ => [.identifier]
  | body _ => items
  | expression => items
  | firstArgument _ _ => items
  | nextArgument _ => items
  | identifier _ around => expectedBehind around
  | complete _ around => expectedBehind around

/-- The names of what is expected at a place, where the end of the input is
expected if no token is. -/
def expectedNames (state : State) : List Bytes :=
  match state.expected with
  | [] => ["end of input"]
  | categories => categories.map Category.name

/-- The complaint about a token that does not fit. -/
def refuse (state : State) (token : Token) : Located SyntaxError :=
  ⟨token, .unexpectedToken state.expectedNames token.kindText⟩

/-- The move of a token that begins an expression. -/
def enter (state : State) (around : Surroundings) (token : Token) :
    Except (Located SyntaxError) Move :=
  match token.category? with
  | some .integer =>
      match Decimal.toWord? token.lexeme with
      | some value => .ok (.advance (.complete (.integer value) around))
      | none => .error ⟨token, .integerRange token.lexeme⟩
  | some .identifier => .ok (.advance (.identifier token.lexeme around))
  | _ => .error (state.refuse token)

/-- The move of a token behind a complete expression. -/
def leave (state : State) (node : Node) (around : Surroundings)
    (token : Token) : Except (Located SyntaxError) Move :=
  match around.calls, around.header, token.category? with
  | call :: calls, _, some .comma =>
      .ok (.advance (.nextArgument
        { around with calls := ⟨call.name, node :: call.arguments⟩ :: calls }))
  | call :: calls, _, some .closing =>
      .ok (.advance (.complete
        (.call call.name (node :: call.arguments).reverse)
        { around with calls := calls }))
  | [], some header, some .finish =>
      .ok (.close (.define header.name header.parameters [node]))
  | _, _, _ => .error (state.refuse token)

/-- The move of a token at a place, or the complaint about it. -/
def step (state : State) (token : Token) :
    Except (Located SyntaxError) Move :=
  match state with
  | outside =>
      match token.category? with
      | some .define => .ok (.advance .definitionName)
      | _ => .error (state.refuse token)
  | definitionName =>
      match token.category? with
      | some .identifier => .ok (.advance (.parameters token.lexeme))
      | _ => .error (state.refuse token)
  | parameters name =>
      match token.category? with
      | some .opening => .ok (.advance (.firstParameter name))
      | _ => .error (state.refuse token)
  | firstParameter name =>
      match token.category? with
      | some .closing => .ok (.advance (.body ⟨name, []⟩))
      | some .identifier => .ok (.advance (.moreParameters name [token.lexeme]))
      | _ => .error (state.refuse token)
  | moreParameters name read =>
      match token.category? with
      | some .closing => .ok (.advance (.body ⟨name, read.reverse⟩))
      | some .comma => .ok (.advance (.nextParameter name read))
      | _ => .error (state.refuse token)
  | nextParameter name read =>
      match token.category? with
      | some .identifier =>
          .ok (.advance (.moreParameters name (token.lexeme :: read)))
      | _ => .error (state.refuse token)
  | body header =>
      match token.category? with
      | some .finish =>
          .ok (.close (.define header.name header.parameters []))
      | _ => state.enter ⟨some header, []⟩ token
  | expression => state.enter ⟨none, []⟩ token
  | firstArgument name around =>
      match token.category? with
      | some .closing => .ok (.advance (.complete (.call name []) around))
      | _ => state.enter
          { around with calls := ⟨name, []⟩ :: around.calls } token
  | nextArgument around => state.enter around token
  | identifier name around =>
      match token.category? with
      | some .opening => .ok (.advance (.firstArgument name around))
      | _ => state.leave (.reference name) around token
  | complete node around => state.leave node around token

/-- The tree of an input that ends at a place, given the definitions before
it, or the complaint that it ends too early. -/
def finish (definitions : List Node) (state : State) :
    Except (Located SyntaxError) Node :=
  match state with
  | outside => .ok (.root definitions)
  | identifier name ⟨none, []⟩ => .ok (.reference name)
  | complete node ⟨none, []⟩ => .ok node
  | state => .error ⟨.absent, .unexpectedEnd state.expectedNames⟩

end State

end Defun
