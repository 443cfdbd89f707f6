import Defun.Proofs.Pattern.WordProgram
import Defun.Proofs.Text.Ascii
import Defun.Proofs.Token.Lexer

/-!
# The default registry at the beginning of a text

The first kind of the default registry that matches at the beginning of a text
can be told from the word that the text begins with.  A word of letters is a
reserved word or an identifier and a word of digits is an integer, but neither
counts if a digit, a letter or an underscore of another word follows.  A
parenthesis or a comma is a token wherever it stands, and nothing else begins
one.
-/

namespace Defun

/-- The letters of ASCII. -/
def letters : CharSet := ⟨[(97, 122), (65, 90)]⟩

/-- The digits of ASCII. -/
def digits : CharSet := ⟨[(48, 57)]⟩

@[simp]
theorem letters_contains (char : Char) :
    letters.contains char.toNat = char.isAlpha := by
  rw [Bool.eq_iff_iff, isAlpha_iff]
  simp [letters, CharSet.contains, or_comm]

@[simp]
theorem digits_contains (char : Char) :
    digits.contains char.toNat = char.isDigit := by
  rw [Bool.eq_iff_iff, isDigit_iff]
  simp [digits, CharSet.contains]

namespace Category

/-- The program of the pattern of a category. -/
def program : Category → Program
  | define => .keyword 'd' 'e' 'f'
  | finish => .keyword 'e' 'n' 'd'
  | identifier => .wordOver letters
  | integer => .wordOver digits
  | opening => .character '('
  | closing => .character ')'
  | comma => .character ','

/-- The kind of a category in the default registry. -/
def kind (category : Category) : Kind :=
  ⟨category.name, category.pattern, category.program⟩

@[simp]
theorem name_kind (category : Category) : category.kind.name = category.name :=
  rfl

/-- The category of a word of letters. -/
def ofWord (word : List Char) : Category :=
  if word = ['d', 'e', 'f'] then define
  else if word = ['e', 'n', 'd'] then finish
  else identifier

/-- The category of a character that is a token of its own. -/
def ofMark? (char : Char) : Option Category :=
  if char = '(' then some opening
  else if char = ')' then some closing
  else if char = ',' then some comma
  else none

end Category

theorem Token.kindName?_of_kind {token : Token} {category : Category}
    (kindEq : token.kind = some category.kind) :
    token.kindName? = some category.name :=
  congrArg (Option.map Kind.name) kindEq

theorem Registry.default_eq :
    Registry.default = Category.all.map Category.kind := by
  decide +kernel

namespace Lexer

/-- The word over some characters that a text begins with, with its category,
unless another word goes on behind it. -/
def word? (belongs : Char → Bool) (category : List Char → Category)
    (text : List Rune) : Option (Category × Nat) :=
  let word := text.takeWhile fun rune => belongs rune.char
  if Program.endsWord (text.dropWhile fun rune => belongs rune.char) then
    some (category (word.map Rune.char), word.length)
  else none

/-- The category and the number of runes of the token that a text begins
with. -/
def scan? : List Rune → Option (Category × Nat)
  | [] => none
  | rune :: rest =>
      if rune.char.isAlpha then
        word? Char.isAlpha Category.ofWord (rune :: rest)
      else if rune.char.isDigit then
        word? Char.isDigit (fun _ => .integer) (rune :: rest)
      else (Category.ofMark? rune.char).map fun category => (category, 1)

theorem matchRunes?_of_match? {category : Category} {text : List Rune}
    {condition : Prop} [Decidable condition] {count : Nat}
    (matched : category.program.match? text =
      if condition then some count else none)
    (positive : condition → count ≠ 0) :
    category.kind.matchRunes? text =
      if condition then some count else none := by
  rw [Kind.matchRunes?, Pattern.matchLength?, Category.kind, matched]
  by_cases holds : condition
  · simp [holds, positive holds]
  · simp [holds]

theorem isAlpha_words (char : Char) (isAlpha : char.isAlpha = true) :
    Program.isWord char = true := by
  simp [Program.isWord, Char.isAlphanum, isAlpha]

theorem isDigit_words (char : Char) (isDigit : char.isDigit = true) :
    Program.isWord char = true := by
  simp [Program.isWord, Char.isAlphanum, isDigit]

theorem letters_words (char : Char) :
    letters.contains char.toNat = true → Program.isWord char = true := by
  rw [letters_contains]
  exact isAlpha_words char

theorem digits_words (char : Char) :
    digits.contains char.toNat = true → Program.isWord char = true := by
  rw [digits_contains]
  exact isDigit_words char

section Kinds

variable (category : Category)

@[simp]
theorem matchRunes?_keyword (first second third : Char)
    (programEq : category.program = .keyword first second third)
    (firstIn : letters.contains first.toNat = true)
    (secondIn : letters.contains second.toNat = true)
    (thirdIn : letters.contains third.toNat = true) (text : List Rune) :
    category.kind.matchRunes? text =
      if Program.Spells letters [first, second, third] text then some 3
      else none := by
  refine matchRunes?_of_match? ?_ (by simp)
  rw [programEq, Program.keyword_match? letters_words firstIn secondIn
    thirdIn]

@[simp]
theorem matchRunes?_wordOver (set : CharSet)
    (programEq : category.program = .wordOver set)
    (words : ∀ char : Char, set.contains char.toNat = true →
      Program.isWord char = true) (text : List Rune) :
    category.kind.matchRunes? text =
      if (text.takeWhile (Program.within set)).length ≠ 0 ∧
          Program.endsWord (text.dropWhile (Program.within set)) then
        some (text.takeWhile (Program.within set)).length
      else none := by
  refine matchRunes?_of_match? ?_ And.left
  rw [programEq, Program.wordOver_match? words]

@[simp]
theorem matchRunes?_character (char : Char)
    (programEq : category.program = .character char) (text : List Rune) :
    category.kind.matchRunes? text =
      if text.head?.any (fun rune => rune.char == char) then some 1
      else none := by
  refine matchRunes?_of_match? ?_ (by simp)
  rw [programEq, Program.character_match?]

end Kinds

@[simp]
theorem within_letters :
    Program.within letters = fun rune => rune.char.isAlpha := by
  funext rune
  exact letters_contains rune.char

@[simp]
theorem within_digits :
    Program.within digits = fun rune => rune.char.isDigit := by
  funext rune
  exact digits_contains rune.char

theorem not_isDigit_of_isAlpha {char : Char} (isAlpha : char.isAlpha = true) :
    char.isDigit = false := by
  rw [isAlpha_iff] at isAlpha
  rw [Bool.eq_false_iff, Ne, isDigit_iff]
  omega

theorem ofMark?_of_isAlphanum {char : Char}
    (isAlphanum : char.isAlphanum = true) : Category.ofMark? char = none := by
  have different {mark : Char} (notAlphanum : mark.isAlphanum = false) :
      char ≠ mark := by
    rintro rfl
    rw [isAlphanum] at notAlphanum
    cases notAlphanum
  rw [Category.ofMark?, if_neg (different rfl), if_neg (different rfl),
    if_neg (different rfl)]

/-- The first category in a list whose kind matches at the beginning of a
text. -/
def firstOf? (text : List Rune) (categories : List Category) :
    Option (Category × Nat) :=
  categories.findSome? fun category =>
    (category.kind.matchRunes? text).map fun count => (category, count)

section FirstOf

variable (rune : Rune) (rest : List Rune)

theorem firstOf?_letters :
    firstOf? (rune :: rest) [.define, .finish, .identifier] =
      if rune.char.isAlpha then
        word? Char.isAlpha Category.ofWord (rune :: rest)
      else none := by
  simp only [firstOf?, List.findSome?_cons, List.findSome?_nil,
    matchRunes?_keyword .define 'd' 'e' 'f' rfl rfl rfl rfl,
    matchRunes?_keyword .finish 'e' 'n' 'd' rfl rfl rfl rfl,
    matchRunes?_wordOver .identifier letters rfl letters_words,
    Program.Spells, within_letters]
  by_cases isAlpha : rune.char.isAlpha = true
  · rw [if_pos isAlpha, word?]
    generalize wordEq : (rune :: rest).takeWhile
      (fun rune => rune.char.isAlpha) = word
    have wordNe : word.length ≠ 0 := by
      rw [← wordEq]
      simp [isAlpha]
    by_cases ends : Program.endsWord ((rune :: rest).dropWhile
        fun rune => rune.char.isAlpha) = true
    -- The reserved words come first, and what they leave is an identifier.
    · by_cases isDefine : word.map Rune.char = ['d', 'e', 'f']
      · have lengthEq := congrArg List.length isDefine
        rw [List.length_map] at lengthEq
        simp [ends, isDefine, lengthEq, Category.ofWord]
      · by_cases isFinish : word.map Rune.char = ['e', 'n', 'd']
        · have lengthEq := congrArg List.length isFinish
          rw [List.length_map] at lengthEq
          simp [ends, isFinish, lengthEq, Category.ofWord]
        · simp [ends, isDefine, isFinish, wordNe, Category.ofWord]
    · simp [ends]
  · simp [isAlpha]

theorem firstOf?_digits :
    firstOf? (rune :: rest) [.integer] =
      if rune.char.isDigit then
        word? Char.isDigit (fun _ => .integer) (rune :: rest)
      else none := by
  simp only [firstOf?, List.findSome?_cons, List.findSome?_nil,
    matchRunes?_wordOver .integer digits rfl digits_words, within_digits]
  by_cases isDigit : rune.char.isDigit = true
  · rw [if_pos isDigit, word?]
    generalize wordEq : (rune :: rest).takeWhile
      (fun rune => rune.char.isDigit) = word
    have wordNe : word.length ≠ 0 := by
      rw [← wordEq]
      simp [isDigit]
    by_cases ends : Program.endsWord ((rune :: rest).dropWhile
        fun rune => rune.char.isDigit) = true
    · simp [ends, wordNe]
    · simp [ends]
  · simp [isDigit]

theorem firstOf?_marks :
    firstOf? (rune :: rest) [.opening, .closing, .comma] =
      (Category.ofMark? rune.char).map fun category => (category, 1) := by
  simp only [firstOf?, List.findSome?_cons, List.findSome?_nil,
    matchRunes?_character .opening '(' rfl,
    matchRunes?_character .closing ')' rfl,
    matchRunes?_character .comma ',' rfl, List.head?_cons, Option.any_some,
    beq_iff_eq]
  by_cases isOpening : rune.char = '('
  · simp [isOpening, Category.ofMark?]
  · by_cases isClosing : rune.char = ')'
    · simp [isClosing, Category.ofMark?]
    · by_cases isComma : rune.char = ','
      · simp [isComma, Category.ofMark?]
      · simp [isOpening, isClosing, isComma, Category.ofMark?]

end FirstOf

/-- The first category that matches is the one that the first word or mark of
a text belongs to. -/
theorem firstOf?_all (text : List Rune) :
    firstOf? text Category.all = scan? text := by
  cases text with
  | nil => rfl
  | cons rune rest =>
      have parts : firstOf? (rune :: rest) Category.all =
          (firstOf? (rune :: rest) [.define, .finish, .identifier]).or
            ((firstOf? (rune :: rest) [.integer]).or
              (firstOf? (rune :: rest) [.opening, .closing, .comma])) := by
        rw [firstOf?, firstOf?, firstOf?, firstOf?, ← List.findSome?_append,
          ← List.findSome?_append]
        rfl
      rw [parts, firstOf?_letters, firstOf?_digits, firstOf?_marks, scan?]
      by_cases isAlpha : rune.char.isAlpha = true
      · have notDigit := not_isDigit_of_isAlpha isAlpha
        have notMark : Category.ofMark? rune.char = none :=
          ofMark?_of_isAlphanum (by simp [Char.isAlphanum, isAlpha])
        simp [isAlpha, notDigit, notMark]
      · by_cases isDigit : rune.char.isDigit = true
        · have notMark : Category.ofMark? rune.char = none :=
            ofMark?_of_isAlphanum (by simp [Char.isAlphanum, isDigit])
          simp [isAlpha, isDigit, notMark]
        · simp [isAlpha, isDigit]

@[simp]
theorem firstMatch?_default (text : List Rune) :
    firstMatch? Registry.default text =
      (scan? text).map fun (category, count) => (category.kind, count) := by
  rw [← firstOf?_all, firstMatch?, Registry.default_eq, firstOf?,
    List.findSome?_map, List.map_findSome?]
  congr 1
  funext category
  rw [Function.comp_apply, Function.comp_apply, Option.map_map]
  rfl

end Lexer

end Defun
