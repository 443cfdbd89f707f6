import Defun.Pattern.Regex
import Defun.Text.Rune

/-!
# Matching programs

A regular expression is matched by a program of instructions that many threads
run in lock step over the characters of a text.  Threads are kept in order of
preference, and no two threads stand at the same instruction, so matching takes
time linear in the length of the text.  The match found is the one that trying
the alternatives in order would find first.
-/

namespace Defun

/-- An instruction.  Targets are indices of instructions. -/
inductive Instruction where
  /-- Consumes a character of the set. -/
  | consume (set : CharSet) (next : Nat)
  /-- Goes on only where the assertion holds. -/
  | check (assertion : Assertion) (next : Nat)
  /-- Goes on in two ways and prefers the first. -/
  | split (first second : Nat)
  /-- Stops without a match. -/
  | fail
  /-- Stops with a match. -/
  | accept
deriving DecidableEq, Repr

namespace Regex

/-- The number of instructions of an expression without counted repetition. -/
def length : Regex → Nat
  | never => 1
  | empty => 0
  | literal _ _ => 1
  | oneOf _ => 1
  | assert _ => 1
  | group inner => length inner
  | seq first second => length first + length second
  | choice first second => 1 + length first + length second
  | repeated .star _ inner =>
      (if nullable inner then 2 else 1) + length inner
  | repeated _ _ inner => 1 + length inner
  | counted _ _ _ inner => length inner

/-- Two ways to go on, the way in first if the repetition is greedy. -/
def fork (greedy : Bool) (inside outside : Nat) : Instruction :=
  if greedy then .split inside outside else .split outside inside

/-- The entry of an expression whose instructions begin at `start` and which
goes on at `next`. -/
def entry (start next : Nat) : Regex → Nat
  | empty => next
  | group inner => entry start next inner
  | seq first second =>
      entry start (entry (start + length first) next second) first
  | repeated .plus _ inner => entry start (start + length inner) inner
  | counted _ _ _ inner => entry start next inner
  | _ => start

/-- The instructions of an expression, where the first of them has the index
`start` and a match goes on at `next`.  A repetition at least once decides
behind its body whether to go round again.  So does any repetition whose body
can be empty; it decides at its front only whether to begin. -/
def emit (start next : Nat) : Regex → List Instruction
  | never => [.fail]
  | empty => []
  | literal code anyCase =>
      [.consume
        (if anyCase then ⟨(CaseVariants.of code).map fun code => (code, code)⟩
          else CharSet.single code) next]
  | oneOf set => [.consume set next]
  | assert assertion => [.check assertion next]
  | group inner => emit start next inner
  | seq first second =>
      emit start (entry (start + length first) next second) first ++
        emit (start + length first) next second
  | choice first second =>
      .split (entry (start + 1) next first)
          (entry (start + 1 + length first) next second) ::
        emit (start + 1) next first ++
          emit (start + 1 + length first) next second
  | repeated .star greedy inner =>
      if nullable inner then
        let again := start + 1 + length inner
        let body := entry (start + 1) again inner
        fork greedy body next ::
          emit (start + 1) again inner ++ [fork greedy body next]
      else
        fork greedy (entry (start + 1) start inner) next ::
          emit (start + 1) start inner
  | repeated .plus greedy inner =>
      let again := start + length inner
      emit start again inner ++ [fork greedy (entry start again inner) next]
  | repeated .optional greedy inner =>
      fork greedy (entry (start + 1) next inner) next ::
        emit (start + 1) next inner
  | counted _ _ _ inner => emit start next inner

end Regex

/-- A list of instructions and the index of the first one to run. -/
structure Program where
  code : Array Instruction
  start : Nat
deriving DecidableEq, Repr

namespace Program

def ofRegex (regex : Regex) : Program :=
  let plain := regex.expand
  let final := plain.length
  ⟨(plain.emit 0 final ++ [Instruction.accept]).toArray, plain.entry 0 final⟩

/-- The characters on both sides of a place in a text. -/
structure Context where
  before : Option Char
  after : Option Char

/-- Letters, digits and the underscore of ASCII make up words. -/
def isWord (char : Char) : Bool :=
  char.isAlphanum || char == '_'

/-- Whether an assertion holds between two characters. -/
def Context.satisfies (context : Context) : Assertion → Bool
  | .beginText => context.before.isNone
  | .endText => context.after.isNone
  | .beginLine => context.before.all (· == '\n')
  | .endLine => context.after.all (· == '\n')
  | .wordBoundary => context.before.any isWord != context.after.any isWord
  | .noWordBoundary => context.before.any isWord == context.after.any isWord

/-- The instructions that wait for a character, or accept, among those that
can be reached from the ones on `agenda` without consuming a character, in
order of preference.  `seen` holds the instructions that were reached before;
`fuel` bounds the number of instructions looked at. -/
def reach (program : Program) (context : Context) :
    (fuel : Nat) → (agenda seen : List Nat) → List Nat
  | 0, _, _ => []
  | _ + 1, [], _ => []
  | fuel + 1, index :: agenda, seen =>
      if seen.contains index then reach program context fuel agenda seen
      else
        match program.code[index]? with
        | some (.split first second) =>
            reach program context fuel (first :: second :: agenda)
              (index :: seen)
        | some (.check assertion next) =>
            if context.satisfies assertion then
              reach program context fuel (next :: agenda) (index :: seen)
            else reach program context fuel agenda (index :: seen)
        | some (.consume _ _) | some .accept =>
            index :: reach program context fuel agenda (index :: seen)
        | some .fail | none =>
            reach program context fuel agenda (index :: seen)

/-- Every instruction puts at most two others on the agenda, once. -/
def threads (program : Program) (context : Context) (agenda : List Nat) :
    List Nat :=
  reach program context (2 * program.code.size + agenda.length + 1) agenda []

/-- The successors of the threads that can consume a character. -/
def advance (program : Program) (char : Char) (threads : List Nat) :
    List Nat :=
  threads.filterMap fun (index : Nat) =>
    match program.code[index]? with
    | some (.consume set next) =>
        if set.contains char.toNat then some next else none
    | _ => none

def accepts (program : Program) (index : Nat) : Bool :=
  program.code[index]? == some .accept

/-- Runs the threads on `agenda` over the rest of a text of which `consumed`
characters, the last of them `before`, were consumed.  Threads less preferred
than one that accepts are given up.  `best` is the length of the match found
so far. -/
def run (program : Program) (agenda : List Nat) (before : Option Char)
    (consumed : Nat) (best : Option Nat) : List Rune → Option Nat
  | [] =>
      if (program.threads ⟨before, none⟩ agenda).any program.accepts then
        some consumed
      else best
  | rune :: rest =>
      if agenda.isEmpty then best
      else
        let threads := program.threads ⟨before, some rune.char⟩ agenda
        let best := if threads.any program.accepts then some consumed else best
        run program
          (program.advance rune.char
            (threads.takeWhile fun index => !program.accepts index))
          (some rune.char) (consumed + 1) best rest

/-- The number of runes of the preferred match at the beginning of a text. -/
def match? (program : Program) (text : List Rune) : Option Nat :=
  run program [program.start] none 0 none text

end Program

end Defun
