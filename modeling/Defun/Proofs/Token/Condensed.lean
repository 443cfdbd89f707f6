import Mathlib.Data.List.TakeWhile
import Defun.Proofs.Text.Repair
import Defun.Proofs.Token.Layout

/-!
# Tokens between condensed gaps

Characters beyond ASCII belong to no token of the default registry and to no
word, so it does not matter how many of them stand in a row.  If one text
condenses to another, their tokens have the same kinds and texts and stand on
the same lines.
-/

namespace Defun

namespace Rune

/-- Whether a rune stands for a character of ASCII. -/
def isAscii (rune : Rune) : Bool :=
  rune.char.toNat < 0x80

theorem isAscii_ascii {octet : UInt8} (ascii : octet < 0x80) :
    (Rune.ascii octet).isAscii = true := by
  rw [isAscii, ascii_char_toNat, decide_eq_true_eq]
  exact UInt8.lt_iff_toNat_lt.mp ascii

theorem isAscii_of_beyond {rune : Rune} (beyond : 0x80 ≤ rune.char.toNat) :
    rune.isAscii = false := by
  rw [isAscii, decide_eq_false_iff_not]
  exact Nat.not_lt.mpr beyond

namespace Condenses

variable {left right : List Rune} (condensed : Condenses left right)
include condensed

section Within

variable {belongs : Rune → Bool}
  (within : ∀ rune : Rune, 0x80 ≤ rune.char.toNat → belongs rune = false)
include within

theorem takeWhile_eq : left.takeWhile belongs = right.takeWhile belongs := by
  induction condensed with
  | nil => rfl
  | ascii isAscii _ ih => rw [List.takeWhile_cons, List.takeWhile_cons, ih]
  | beyond leftBeyond rightBeyond _ _ =>
      have notLeft := within _ (leftBeyond _ List.mem_cons_self)
      have notRight := within _ rightBeyond
      rw [List.takeWhile_cons, List.takeWhile_cons, notLeft, notRight]
      rfl

theorem dropWhile :
    Condenses (left.dropWhile belongs) (right.dropWhile belongs) := by
  induction condensed with
  | nil => exact .nil
  | ascii isAscii following ih =>
      rw [List.dropWhile_cons, List.dropWhile_cons]
      split
      · exact ih
      · exact .ascii isAscii following
  | beyond leftBeyond rightBeyond following _ =>
      have notLeft := within _ (leftBeyond _ List.mem_cons_self)
      have notRight := within _ rightBeyond
      rw [List.dropWhile_cons, List.dropWhile_cons, notLeft, notRight]
      exact .beyond leftBeyond rightBeyond following

end Within

/-- As long as a text is ASCII, it is the same when condensed. -/
theorem take_eq {count : Nat}
    (within : count ≤ (left.takeWhile isAscii).length) :
    left.take count = right.take count := by
  have sameAscii := condensed.takeWhile_eq fun _ => isAscii_of_beyond
  rw [← List.takeWhile_append_dropWhile (p := isAscii) (l := left),
    ← List.takeWhile_append_dropWhile (p := isAscii) (l := right),
    List.take_append_of_le_length within,
    List.take_append_of_le_length (sameAscii ▸ within), sameAscii]

end Condenses

end Rune

namespace Lexer

theorem not_isWord_of_beyond {rune : Rune} (beyond : 0x80 ≤ rune.char.toNat) :
    Program.isWord rune.char = false := by
  have blank := isBlank_of_beyond beyond
  rw [isBlank, Bool.and_eq_true, Bool.not_eq_true'] at blank
  exact blank.1

section Words

variable {belongs : Char → Bool}
  (words : ∀ char, belongs char = true → Program.isWord char = true)
include words

theorem not_belongs_of_beyond (rune : Rune) (beyond : 0x80 ≤ rune.char.toNat) :
    belongs rune.char = false := by
  rw [Bool.eq_false_iff]
  intro belonging
  have isWord := words rune.char belonging
  rw [not_isWord_of_beyond beyond] at isWord
  cases isWord

theorem word?_count_ascii {category : List Char → Category} {text : List Rune}
    {found : Category} {count : Nat}
    (isFound : word? belongs category text = some (found, count)) :
    count ≤ (text.takeWhile Rune.isAscii).length := by
  have asciiWord (rune : Rune) (belonging : belongs rune.char = true) :
      rune.isAscii = true := by
    by_contra notAscii
    rw [Rune.isAscii, decide_eq_true_eq, Nat.not_lt] at notAscii
    rw [not_belongs_of_beyond words rune notAscii] at belonging
    cases belonging
  have wordEq : (text.takeWhile Rune.isAscii).takeWhile
      (fun rune => belongs rune.char) =
        text.takeWhile fun rune => belongs rune.char := by
    rw [List.takeWhile_takeWhile]
    congr
    funext rune
    cases belonging : belongs rune.char with
    | true => simp [asciiWord rune belonging]
    | false => simp
  rw [word?] at isFound
  split at isFound
  · cases isFound
    rw [← wordEq]
    exact (List.takeWhile_prefix _).length_le
  · cases isFound

end Words

/-- A token of the default registry is made of ASCII characters. -/
theorem scan?_count_ascii {text : List Rune} {category : Category} {count : Nat}
    (found : scan? text = some (category, count)) :
    count ≤ (text.takeWhile Rune.isAscii).length := by
  cases text with
  | nil => cases found
  | cons rune rest =>
      have notBlank : ¬ isBlank rune = true := by
        intro blank
        rw [scan?_of_isBlank blank] at found
        cases found
      have isAscii : rune.isAscii = true := by
        by_contra notAscii
        rw [Rune.isAscii, decide_eq_true_eq, Nat.not_lt] at notAscii
        exact notBlank (isBlank_of_beyond notAscii)
      rw [scan?] at found
      split at found
      · exact word?_count_ascii isAlpha_words found
      · split at found
        · exact word?_count_ascii isDigit_words found
        · obtain ⟨mark, _, pairEq⟩ := Option.map_eq_some_iff.mp found
          cases pairEq
          simp [isAscii]

section Condensed

variable {left right : List Rune} (condensed : Rune.Condenses left right)
include condensed

theorem endsWord_condensed :
    Program.endsWord left = Program.endsWord right := by
  cases condensed with
  | nil => rfl
  | ascii _ _ => rfl
  | beyond leftBeyond rightBeyond _ =>
      have notLeft := not_isWord_of_beyond (leftBeyond _ List.mem_cons_self)
      have notRight := not_isWord_of_beyond rightBeyond
      simp [Program.endsWord, notLeft, notRight]

theorem word?_condensed {belongs : Char → Bool}
    (words : ∀ char, belongs char = true → Program.isWord char = true)
    (category : List Char → Category) :
    word? belongs category left = word? belongs category right := by
  have within := not_belongs_of_beyond words
  rw [word?, word?, condensed.takeWhile_eq within,
    endsWord_condensed (condensed.dropWhile within)]

/-- A text begins with a token exactly if it does so when condensed. -/
theorem scan?_condensed : scan? left = scan? right := by
  have letters := word?_condensed condensed isAlpha_words Category.ofWord
  have digits := word?_condensed condensed isDigit_words fun _ => .integer
  cases condensed with
  | nil => rfl
  | ascii _ _ => rw [scan?, scan?, letters, digits]
  | beyond leftBeyond rightBeyond _ =>
      rw [scan?_of_isBlank
          (isBlank_of_beyond (leftBeyond _ List.mem_cons_self)),
        scan?_of_isBlank (isBlank_of_beyond rightBeyond)]

end Condensed

end Lexer

/-- A place of which only the line is known. -/
def Position.onLine (position : Position) : Position :=
  ⟨0, position.line, 0⟩

/-- A token of which only the line is known. -/
def Token.onLine (token : Token) : Token :=
  token.relocated Position.onLine

theorem Position.advance_line {position other : Position} (rune : Rune)
    (sameLine : position.line = other.line) :
    (position.advance rune).line = (other.advance rune).line := by
  rw [Position.advance, Position.advance]
  split
  · exact congrArg (· + 1) sameLine
  · exact sameLine

theorem Position.advance_line_of_beyond (position : Position) {rune : Rune}
    (beyond : 0x80 ≤ rune.char.toNat) :
    (position.advance rune).line = position.line := by
  have notNewline : (rune.char == '\n') = false := by
    rw [beq_eq_false_iff_ne]
    intro isNewline
    rw [isNewline] at beyond
    revert beyond
    decide
  rw [Position.advance, notNewline]
  rfl

theorem Position.advanceAll_line_of_beyond (position : Position)
    {gap : List Rune} (beyond : ∀ rune ∈ gap, 0x80 ≤ rune.char.toNat) :
    (position.advanceAll gap).line = position.line := by
  induction gap generalizing position with
  | nil => rfl
  | cons rune rest ih =>
      rw [List.forall_mem_cons] at beyond
      exact (ih (position.advance rune) beyond.2).trans
        (position.advance_line_of_beyond beyond.1)

namespace Lexer

/-- The tokens of a text, up to where on their lines they stand, are those of
the text that it condenses to. -/
theorem map_onLine_tokensFrom {left right : List Rune}
    (condensed : Rune.Condenses left right) {position other : Position}
    (sameLine : position.line = other.line) {pending : Nat}
    (within : pending ≤ (left.takeWhile Rune.isAscii).length) :
    (tokensFrom Registry.default position pending left).map Token.onLine =
      (tokensFrom Registry.default other pending right).map Token.onLine := by
  induction condensed generalizing position other pending with
  | nil => rfl
  | @ascii octet left right isAscii following ih =>
      have condensed := Rune.Condenses.ascii isAscii following
      rw [List.takeWhile_cons_of_pos (Rune.isAscii_ascii isAscii),
        List.length_cons] at within
      have nextLine := Position.advance_line (Rune.ascii octet) sameLine
      cases pending with
      | succ left => exact ih nextLine (Nat.le_of_succ_le_succ within)
      | zero =>
          rw [tokensFrom, tokensFrom, firstMatch?_default, firstMatch?_default,
            ← scan?_condensed condensed]
          cases found : scan? (Rune.ascii octet :: left) with
          | none => exact ih nextLine (Nat.zero_le _)
          | some result =>
              obtain ⟨category, count⟩ := result
              have count_le := scan?_count_ascii found
              have sameRunes := condensed.take_eq count_le
              rw [List.takeWhile_cons_of_pos (Rune.isAscii_ascii isAscii),
                List.length_cons] at count_le
              simp only [Option.map_some, List.map_cons, sameRunes]
              rw [ih nextLine (by omega)]
              simp only [Token.onLine, Token.relocated, Position.onLine, sameLine]
  | @beyond rune otherRune more left right leftBeyond rightBeyond following ih =>
      have notAscii := Rune.isAscii_of_beyond (leftBeyond _ List.mem_cons_self)
      rw [List.takeWhile_cons, notAscii] at within
      obtain rfl : pending = 0 := Nat.le_zero.mp within
      have leftSkipped := tokensFrom_of_isBlank
        (fun _ member => isBlank_of_beyond (leftBeyond _ member)) position left
      have rightSkipped := @tokensFrom_of_isBlank [otherRune]
        (by simpa using isBlank_of_beyond rightBeyond) other right
      rw [List.cons_append] at leftSkipped
      rw [List.singleton_append] at rightSkipped
      rw [leftSkipped, rightSkipped]
      apply ih
      · rw [Position.advanceAll_line_of_beyond _ leftBeyond, sameLine]
        exact (other.advance_line_of_beyond rightBeyond).symm
      · exact Nat.zero_le _

end Lexer

/-- Repairing a text does not change its tokens, up to where on their lines they
stand. -/
theorem map_onLine_tokenize_of_repairs {text repaired : Bytes}
    (repairs : Utf8.Repairs text repaired) :
    (tokenize Registry.default text).map Token.onLine =
      (tokenize Registry.default repaired).map Token.onLine := by
  rw [tokenize, tokenize]
  exact Lexer.map_onLine_tokensFrom repairs.condenses rfl (Nat.zero_le _)

end Defun
