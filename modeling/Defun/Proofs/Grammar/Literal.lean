import Defun.Proofs.Grammar.Failure
import Defun.Proofs.Text.Numeral
import Defun.Proofs.Tree.Rendering

/-!
# Integers in expressions

Where an expression may begin, an integer is read as the number that its text
denotes if the number fits in a word, and it is refused with its text as it
stands otherwise.  No number is taken for another one, however many digits or
zeros its text has.
-/

namespace Defun

namespace Entry

/-- An expression may begin behind some tokens. -/
def AwaitsExpression (entry : Entry) (before : List Token) : Prop :=
  ∃ last around, entry.start.readAll before = .ok last ∧
    last.state.surroundings? = some around

/-- Behind some tokens where an expression may begin, a token is a complete
expression with a number as its value. -/
def TakesInteger (entry : Entry) (before : List Token) (token : Token)
    (number : Int) : Prop :=
  ∃ last around, entry.start.readAll before = .ok last ∧
    last.state.surroundings? = some around ∧
    entry.start.readAll (before ++ [token]) =
      .ok ⟨last.definitions, .complete (.integer number) around⟩

/-- Behind some tokens, a token is refused as an integer, whatever follows. -/
def RefusesInteger (entry : Entry) (before : List Token)
    (token : Token) : Prop :=
  ∀ rest, entry.read (before ++ token :: rest) =
    ⟨.error ⟨token, .integerRange token.lexeme⟩, rest⟩

section Places

variable {entry : Entry} {before : List Token} {token : Token}
  {last : Progress} {around : Surroundings} {number : Int}

theorem readAll_concat (readBefore : entry.start.readAll before = .ok last) :
    entry.start.readAll (before ++ [token]) = last.read token := by
  rw [Progress.readAll_append, readBefore]
  change (last.read token).bind _ = _
  cases last.read token <;> rfl

theorem takesInteger_of_toWord?
    (readBefore : entry.start.readAll before = .ok last)
    (awaited : last.state.surroundings? = some around)
    (isInteger : token.category? = some .integer)
    (denoted : Decimal.toWord? token.lexeme = some number) :
    entry.TakesInteger before token number := by
  refine ⟨last, around, readBefore, awaited, ?_⟩
  rw [readAll_concat readBefore]
  exact Progress.read_of_advance
    (State.step_integer awaited isInteger denoted)

theorem toWord?_of_takesInteger (isInteger : token.category? = some .integer)
    (takes : entry.TakesInteger before token number) :
    Decimal.toWord? token.lexeme = some number := by
  obtain ⟨last, around, readBefore, awaited, readToken⟩ := takes
  rw [readAll_concat readBefore] at readToken
  obtain ⟨move, stepped, placeEq⟩ := Progress.read_eq_ok_iff.mp readToken
  cases denoted : Decimal.toWord? token.lexeme with
  | none =>
      rw [State.step_integer_of_range awaited isInteger denoted] at stepped
      cases stepped
  | some value =>
      rw [State.step_integer awaited isInteger denoted] at stepped
      cases stepped
      cases placeEq
      rfl

theorem refusesInteger_of_toWord?
    (readBefore : entry.start.readAll before = .ok last)
    (awaited : last.state.surroundings? = some around)
    (isInteger : token.category? = some .integer)
    (outOfRange : Decimal.toWord? token.lexeme = none) :
    entry.RefusesInteger before token := by
  intro rest
  have refused := State.step_integer_of_range awaited isInteger outOfRange
  rw [read_eq_reading, Progress.reading_append_of_readAll readBefore,
    Progress.reading_cons_of_refused refused]
  rfl

theorem parseExpression_eq_integer_iff
    (isInteger : token.category? = some .integer) (number : Int) :
    parseExpression [token] = .ok (.integer number) ↔
      Decimal.toWord? token.lexeme = some number := by
  have start : State.expression.surroundings? = some ⟨none, []⟩ := rfl
  rw [parseExpression_eq_result, Progress.expression]
  cases denoted : Decimal.toWord? token.lexeme with
  | none =>
      rw [Progress.result_cons_of_error
        (State.step_integer_of_range start isInteger denoted)]
      simp
  | some value =>
      rw [Progress.result_cons_of_advance
        (State.step_integer start isInteger denoted), Progress.result_nil]
      simp [State.finish]

end Places

/-- Where an expression may begin, an integer is taken for the number that it
denotes or refused.  Digits are taken if they do not exceed the largest number,
and written again without the zeros in front.  With a sign, the smallest number
is a bound too, and nothing but digits with an optional sign is taken. -/
theorem integer_keeps_value_or_is_refused (entry : Entry)
    {before : List Token} (awaits : entry.AwaitsExpression before)
    {token : Token} (isInteger : token.kindName? = some Category.integer.name) :
    (Decimal.IsDigits token.lexeme →
      ((∃ number, entry.TakesInteger before token number) ↔
        Decimal.placeValue token.lexeme ≤ 2147483647) ∧
      (∀ number, entry.TakesInteger before token number →
        number = Decimal.placeValue token.lexeme ∧
        (Node.integer number).generate =
          .ok (Decimal.canonical token.lexeme)) ∧
      (2147483647 < Decimal.placeValue token.lexeme →
        entry.RefusesInteger before token)) ∧
    (∀ number, entry.TakesInteger before token number ↔
      Decimal.Denotes token.lexeme number ∧ Decimal.FitsWord number) ∧
    ((∀ number, Decimal.Denotes token.lexeme number →
        ¬ Decimal.FitsWord number) →
      entry.RefusesInteger before token) ∧
    ∀ number, parseExpression [token] = .ok (.integer number) ↔
      Decimal.Denotes token.lexeme number ∧ Decimal.FitsWord number := by
  obtain ⟨last, around, readBefore, awaited⟩ := awaits
  have category := Token.category?_eq_some_iff.mpr isInteger
  have takesIff (number : Int) : entry.TakesInteger before token number ↔
      Decimal.Denotes token.lexeme number ∧ Decimal.FitsWord number := by
    rw [← Decimal.toWord?_eq_some_iff]
    exact ⟨toWord?_of_takesInteger category,
      takesInteger_of_toWord? readBefore awaited category⟩
  have refuses (outOfRange : ∀ number,
      Decimal.Denotes token.lexeme number → ¬ Decimal.FitsWord number) :
      entry.RefusesInteger before token :=
    refusesInteger_of_toWord? readBefore awaited category
      (Decimal.toWord?_eq_none_iff.mpr outOfRange)
  have alone (number : Int) :=
    (parseExpression_eq_integer_iff category number).trans
      Decimal.toWord?_eq_some_iff
  refine ⟨fun isDigits => ?_, takesIff, refuses, alone⟩
  have digitsIff (number : Int) := (takesIff number).trans
    (Decimal.denotes_fits_iff_of_isDigits isDigits)
  refine ⟨⟨?_, ?_⟩, ?_, ?_⟩
  · rintro ⟨number, takes⟩
    exact ((digitsIff number).mp takes).2
  · intro small
    exact ⟨_, (digitsIff _).mpr ⟨rfl, small⟩⟩
  · intro number takes
    obtain ⟨rfl, -⟩ := (digitsIff number).mp takes
    refine ⟨rfl, ?_⟩
    rw [← Decimal.ofNat_placeValue isDigits, ← Decimal.ofInt_natCast]
    exact Node.generate_eq rfl
  · intro large
    apply refuses
    intro number denotes fits
    have small :=
      ((digitsIff number).mp ((takesIff number).mpr ⟨denotes, fits⟩)).2
    omega

/-- Zeros make the largest number no larger, and with a sign the smallest
number is taken as well. -/
theorem integer_keeps_value_at_bounds :
    let before := [Category.define.token "def",
      Category.identifier.token "f", Category.opening.token "(",
      Category.closing.token ")", Category.identifier.token "g",
      Category.opening.token "("]
    let largest := Category.integer.token "0002147483647"
    let larger := Category.integer.token "2147483648"
    let smallest := Category.integer.token "-2147483648"
    program.AwaitsExpression before ∧
      program.TakesInteger before largest 2147483647 ∧
      (Node.integer 2147483647).generate = .ok "2147483647" ∧
      program.RefusesInteger before larger ∧
      program.TakesInteger before smallest (-2147483648) := by
  intro before largest larger smallest
  have awaits : program.AwaitsExpression before := ⟨_, _, rfl, rfl⟩
  obtain ⟨digits, -⟩ := program.integer_keeps_value_or_is_refused awaits
    (show largest.kindName? = some Category.integer.name from rfl)
  obtain ⟨accepted, written, -⟩ := digits ⟨by decide, by decide +kernel⟩
  obtain ⟨number, takes⟩ := accepted.mpr (by decide +kernel)
  obtain ⟨rfl, text⟩ := written number takes
  obtain ⟨largerDigits, -⟩ := program.integer_keeps_value_or_is_refused awaits
    (show larger.kindName? = some Category.integer.name from rfl)
  obtain ⟨-, -, refused⟩ := largerDigits ⟨by decide, by decide +kernel⟩
  obtain ⟨-, signed, -⟩ := program.integer_keeps_value_or_is_refused awaits
    (show smallest.kindName? = some Category.integer.name from rfl)
  have isDigits : Decimal.IsDigits "2147483648" :=
    ⟨by decide, by decide +kernel⟩
  have denotes : Decimal.Denotes smallest.lexeme (-2147483648) :=
    .negative isDigits
  exact ⟨awaits, takes, text, refused (by decide +kernel),
    (signed _).mpr ⟨denotes, by decide⟩⟩

end Entry

end Defun
