import Defun.Proofs.Text.Rune
import Defun.Proofs.Token.DefaultKinds
import Defun.Proofs.Token.Terminal

/-!
# Tokens of texts in parts

A text can be cut wherever the cut does not go through a word, and the tokens
of its parts, each with its true position, are the tokens of the text.  In
particular the lines of a text can be split into tokens one by one.
-/

namespace Defun

namespace Lexer

/-- No word goes on from the end of one text to the beginning of another. -/
def CutsNoWord (text after : List Rune) : Prop :=
  ∀ last ∈ text.getLast?, Program.isWord last.char = true →
    Program.endsWord after = true

theorem CutsNoWord.tail {rune : Rune} {rest after : List Rune}
    (cut : CutsNoWord (rune :: rest) after) : CutsNoWord rest after := by
  cases rest with
  | nil => simp [CutsNoWord]
  | cons second rest => simpa [CutsNoWord] using cut

theorem cutsNoWord_of_endsWord (text : List Rune) {after : List Rune}
    (ends : Program.endsWord after = true) : CutsNoWord text after :=
  fun _ _ _ => ends

theorem endsWord_append {text : List Rune} (textNe : text ≠ [])
    (after : List Rune) :
    Program.endsWord (text ++ after) = Program.endsWord text := by
  cases text with
  | nil => exact absurd rfl textNe
  | cons rune rest => rfl

section Words

variable {belongs : Char → Bool}
  (words : ∀ char, belongs char = true → Program.isWord char = true)
include words

theorem takeWhile_of_endsWord {after : List Rune}
    (ends : Program.endsWord after = true) :
    after.takeWhile (fun rune => belongs rune.char) = [] ∧
      after.dropWhile (fun rune => belongs rune.char) = after := by
  cases after with
  | nil => exact ⟨rfl, rfl⟩
  | cons rune rest =>
      have notBelongs : belongs rune.char = false := by
        rw [Bool.eq_false_iff]
        intro isBelonging
        simp [Program.endsWord, words rune.char isBelonging] at ends
      simp [notBelongs]

theorem word?_append (category : List Char → Category)
    {text after : List Rune} (textNe : text ≠ [])
    (cut : CutsNoWord text after) :
    word? belongs category (text ++ after) = word? belongs category text := by
  by_cases belong : ∀ rune ∈ text, belongs rune.char = true
  · have ends : Program.endsWord after = true :=
      cut _ (List.getLast?_eq_some_getLast textNe)
        (words _ (belong _ (List.getLast_mem textNe)))
    obtain ⟨takenEq, droppedEq⟩ := takeWhile_of_endsWord words ends
    have textTaken := List.takeWhile_eq_self_iff.mpr belong
    have textDropped := List.dropWhile_eq_nil_iff.mpr belong
    rw [word?, word?, List.takeWhile_append_of_pos belong,
      List.dropWhile_append_of_pos belong, takenEq, droppedEq, textTaken,
      textDropped, ends, List.append_nil]
    rfl
  · have dropped : text.dropWhile (fun rune => belongs rune.char) ≠ [] :=
      mt List.dropWhile_eq_nil_iff.mp belong
    have shorter : (text.takeWhile fun rune => belongs rune.char).length ≠
        text.length := by
      intro sameLength
      exact belong (List.takeWhile_eq_self_iff.mp
        ((List.takeWhile_prefix _).eq_of_length sameLength))
    have droppedEq :
        (text ++ after).dropWhile (fun rune => belongs rune.char) =
          text.dropWhile (fun rune => belongs rune.char) ++ after := by
      rw [List.dropWhile_append,
        if_neg (by simpa [List.isEmpty_iff] using dropped)]
    rw [word?, word?, List.takeWhile_append, if_neg shorter, droppedEq,
      endsWord_append dropped]

end Words

theorem scan?_append {text after : List Rune} (textNe : text ≠ [])
    (cut : CutsNoWord text after) : scan? (text ++ after) = scan? text := by
  cases text with
  | nil => exact absurd rfl textNe
  | cons rune rest =>
      rw [List.cons_append, scan?, scan?, ← List.cons_append,
        word?_append isAlpha_words _ textNe cut,
        word?_append isDigit_words _ textNe cut]

theorem word?_count {belongs : Char → Bool} {word : List Char → Category}
    {rune : Rune} {rest : List Rune} (first : belongs rune.char = true)
    {category : Category} {count : Nat}
    (found : word? belongs word (rune :: rest) = some (category, count)) :
    0 < count ∧ count ≤ (rune :: rest).length := by
  rw [word?] at found
  split at found
  · cases found
    refine ⟨?_, (List.takeWhile_prefix _).length_le⟩
    simp [first]
  · cases found

theorem scan?_count {text : List Rune} {category : Category} {count : Nat}
    (found : scan? text = some (category, count)) :
    0 < count ∧ count ≤ text.length := by
  cases text with
  | nil => cases found
  | cons rune rest =>
      rw [scan?] at found
      split at found
      · next isAlpha => exact word?_count isAlpha found
      · split at found
        · next isDigit => exact word?_count isDigit found
        · obtain ⟨mark, _, pairEq⟩ := Option.map_eq_some_iff.mp found
          cases pairEq
          simp

/-- The tokens of a text are those of its parts, unless a word is cut in
two. -/
theorem tokensFrom_append {text after : List Rune}
    (cut : CutsNoWord text after) {pending : Nat}
    (within : pending ≤ text.length) (position : Position) :
    tokensFrom Registry.default position pending (text ++ after) =
      tokensFrom Registry.default position pending text ++
        tokensFrom Registry.default (position.advanceAll text) 0 after := by
  induction text generalizing position pending with
  | nil =>
      obtain rfl : pending = 0 := Nat.le_zero.mp within
      rfl
  | cons rune rest ih =>
      cases pending with
      | succ left =>
          exact ih cut.tail (Nat.le_of_succ_le_succ within)
            (position.advance rune)
      | zero =>
          have sameMatch :
              firstMatch? Registry.default (rune :: (rest ++ after)) =
                firstMatch? Registry.default (rune :: rest) := by
            rw [firstMatch?_default, firstMatch?_default, ← List.cons_append,
              scan?_append (List.cons_ne_nil rune rest) cut]
          rw [List.cons_append, tokensFrom, tokensFrom, sameMatch,
            firstMatch?_default]
          cases found : scan? (rune :: rest) with
          | none => exact ih cut.tail (Nat.zero_le _) (position.advance rune)
          | some result =>
              obtain ⟨category, count⟩ := result
              obtain ⟨positive, within⟩ := scan?_count found
              -- The token found does not reach beyond the cut, so its runes
              -- are those of the first part and the induction goes on.
              have inside : count - 1 ≤ rest.length := by
                rw [List.length_cons] at within
                omega
              have sameRunes : (rune :: (rest ++ after)).take count =
                  (rune :: rest).take count := by
                rw [← List.cons_append, List.take_append_of_le_length within]
              simp only [Option.map_some]
              rw [ih cut.tail inside (position.advance rune), sameRunes]
              rfl

end Lexer

/-- A position seen from further up in a text that has some octets and some
lines more in front. -/
def Position.moved (position : Position) (octets lines : Nat) : Position :=
  ⟨position.offset + octets, position.line + lines, position.column⟩

/-- A token seen from further up in a text. -/
def Token.moved (token : Token) (octets lines : Nat) : Token :=
  token.relocated fun position => position.moved octets lines

theorem Position.advance_moved (position : Position) (octets lines : Nat)
    (rune : Rune) :
    (position.moved octets lines).advance rune =
      (position.advance rune).moved octets lines := by
  rw [Position.advance, Position.advance]
  split
  · simp only [Position.moved, Position.mk.injEq, and_true]
    omega
  · simp only [Position.moved, Position.mk.injEq, and_true]
    omega

theorem Lexer.tokensFrom_moved (kinds : List Kind) (position : Position)
    (octets lines pending : Nat) (text : List Rune) :
    tokensFrom kinds (position.moved octets lines) pending text =
      (tokensFrom kinds position pending text).map fun token =>
        token.moved octets lines := by
  induction text generalizing position pending with
  | nil => rfl
  | cons rune rest ih =>
      cases pending with
      | succ left =>
          rw [tokensFrom, tokensFrom, Position.advance_moved]
          exact ih (position.advance rune) left
      | zero =>
          rw [tokensFrom, tokensFrom, Position.advance_moved]
          cases found : firstMatch? kinds (rune :: rest) with
          | none => exact ih (position.advance rune) 0
          | some result =>
              obtain ⟨kind, count⟩ := result
              simp only [List.map_cons]
              rw [ih (position.advance rune) (count - 1)]
              rfl

theorem Rune.Faithful.newline {rune : Rune} (faithful : rune.Faithful) :
    rune.octets.count Bytes.newline = if rune.char == '\n' then 1 else 0 := by
  rcases faithful with ⟨octet, isAscii, rfl⟩ | ⟨charBeyond, octetsBeyond⟩
  · have isNewline : (Rune.ascii octet).char = '\n' ↔
        octet = Bytes.newline := by
      rw [Rune.ascii_char_eq_iff, ← UInt8.toNat_inj]
      rfl
    simp [Rune.ascii, List.count_singleton, ← isNewline]
  · have notNewline : rune.char ≠ '\n' := by
      intro isNewline
      rw [isNewline] at charBeyond
      revert charBeyond
      decide
    have notMem : Bytes.newline ∉ rune.octets := by
      intro member
      exact absurd (octetsBeyond _ member) (by decide)
    simp [notNewline, List.count_eq_zero.mpr notMem]

/-- The position behind some runes counts their octets and their line
feeds. -/
theorem Position.advanceAll_offset_line {text : List Rune}
    (faithful : ∀ rune ∈ text, rune.Faithful) (position : Position) :
    (position.advanceAll text).offset =
        position.offset + (Rune.octetsOf text).length ∧
      (position.advanceAll text).line =
        position.line + (Rune.octetsOf text).count Bytes.newline := by
  induction text generalizing position with
  | nil => simp [Position.advanceAll, Rune.octetsOf]
  | cons rune rest ih =>
      obtain ⟨offsetEq, lineEq⟩ := ih
        (fun other member => faithful other (List.mem_cons_of_mem _ member))
        (position.advance rune)
      have newlines := (faithful rune List.mem_cons_self).newline
      rw [Rune.octetsOf_cons, List.length_append, List.count_append, newlines]
      rw [Position.advanceAll] at offsetEq lineEq
      rw [Position.advanceAll, List.foldl_cons, offsetEq, lineEq,
        Position.advance]
      split
      · simp only [Rune.width]
        omega
      · simp only [Rune.width]
        omega

theorem Position.advance_newline_advanceAll_read (text : Bytes) :
    (Position.start.advanceAll (Rune.read text)).advance
        (Rune.ascii Bytes.newline) =
      Position.start.moved (text.length + 1)
        (text.count Bytes.newline + 1) := by
  obtain ⟨offsetEq, lineEq⟩ := Position.advanceAll_offset_line
    (fun _ member => Rune.faithful_of_mem_read member) Position.start
  rw [Rune.octetsOf_read] at offsetEq lineEq
  have isNewline : ((Rune.ascii Bytes.newline).char == '\n') = true := rfl
  have oneOctet : (Rune.ascii Bytes.newline).width = 1 := rfl
  rw [Position.advance, if_pos isNewline, offsetEq, lineEq, oneOctet,
    Position.moved]
  simp only [Position.start, Position.mk.injEq, and_true]
  omega

/-- The tokens of several lines are those of the first lines and those of the
others, each where it stands. -/
theorem tokenize_append_newline (first others : Bytes) :
    tokenize Registry.default (first ++ Bytes.newline :: others) =
      tokenize Registry.default first ++
        (tokenize Registry.default others).map fun token =>
          token.moved (first.length + 1)
            (first.count Bytes.newline + 1) := by
  have isAscii : Bytes.newline < 0x80 := by decide
  have skipped : Lexer.firstMatch? Registry.default
      (Rune.ascii Bytes.newline :: Rune.read others) = none := by
    rw [Lexer.firstMatch?_default]
    rfl
  rw [tokenize, Rune.read_append first (Rune.asciiFirst_cons isAscii others),
    Rune.read_cons_of_ascii isAscii,
    Lexer.tokensFrom_append (Lexer.cutsNoWord_of_endsWord _ rfl)
      (Nat.zero_le _)]
  congr 1
  rw [Lexer.tokensFrom, skipped, Position.advance_newline_advanceAll_read,
    Lexer.tokensFrom_moved, tokenize]

/-- A line feed cuts a text in two whose tokens are found apart.  Those behind
it keep their columns and are further on by the octets and the lines before. -/
theorem tokenize_distributes_over_newline (first second : Bytes) :
    tokenize Registry.default (first ++ Bytes.newline :: second) =
      tokenize Registry.default first ++
        (tokenize Registry.default second).map fun token =>
          ⟨token.kind, token.lexeme,
            ⟨token.position.offset + (first.length + 1),
              token.position.line + (1 + first.count Bytes.newline),
              token.position.column⟩⟩ := by
  have movedEq (token : Token) :
      token.moved (first.length + 1) (first.count Bytes.newline + 1) =
        ⟨token.kind, token.lexeme,
          ⟨token.position.offset + (first.length + 1),
            token.position.line + (1 + first.count Bytes.newline),
            token.position.column⟩⟩ := by
    simp only [Token.moved, Token.relocated, Position.moved, Int.natCast_add,
      Int.natCast_one, Int.add_comm (1 : Int)]
  rw [tokenize_append_newline]
  simp only [movedEq]

end Defun
