import Defun.Proofs.Text.Pieces
import Defun.Proofs.Token.Layout

/-!
# Tokens of the default registry, piece by piece

The default registry finds at most one token in each piece of a text: the last
word of a run of word octets, or a parenthesis or a comma that stands by itself.

Matching is tried at every rune, so that the beginning of a run is given up
octet by octet until what is left of the run is all letters or all digits.
-/

namespace Defun

namespace Category

/-- The category of a word of letters or of digits. -/
def ofLexeme (word : Bytes) : Category :=
  if word = "def" then define
  else if word = "end" then finish
  else if word.all Bytes.isLetter then identifier
  else integer

/-- The category of a text that is a mark. -/
def ofMarkText? (text : Bytes) : Option Category :=
  if text = "(" then some opening
  else if text = ")" then some closing
  else if text = "," then some comma
  else none

end Category

/-- The word that a piece of a text contributes, if it contributes one. -/
def Bytes.pieceWord? (piece : Bytes) : Option Word :=
  if piece.all isWordOctet then
    if piece.lastWord = [] then none
    else some ⟨.ofLexeme piece.lastWord, piece.lastWord⟩
  else (Category.ofMarkText? piece).map fun category => ⟨category, piece⟩

/-- What a token is and where it begins. -/
structure Occurrence where
  kind : Option Kind
  lexeme : Bytes
  offset : Int
deriving DecidableEq, Repr

def Token.occurrence (token : Token) : Occurrence :=
  ⟨token.kind, token.lexeme, token.position.offset⟩

/-- A word whose last octet stands in front of an offset. -/
def Word.occurrence (word : Word) (stop : Int) : Occurrence :=
  ⟨some word.category.kind, word.lexeme, stop - word.lexeme.length⟩

/-- The words of the pieces of a text that begins at an offset, each at the end
of its piece. -/
def Bytes.occurrences (offset : Int) : List Bytes → List Occurrence
  | [] => []
  | piece :: rest =>
      (piece.pieceWord?.map fun word =>
        word.occurrence (offset + piece.length)).toList ++
        occurrences (offset + piece.length) rest

theorem Bytes.isGap_iff {octet : UInt8} :
    isGap octet = true ↔
      isWordOctet octet = false ∧ octet ≠ Bytes.octet '(' ∧
        octet ≠ Bytes.octet ')' ∧ octet ≠ Bytes.octet ',' := by
  simp [isGap, isWordOctet, and_assoc]

namespace Lexer

@[simp]
theorem isWord_ascii (octet : UInt8) :
    Program.isWord (Rune.ascii octet).char = Bytes.isWordOctet octet := by
  have isUnderscore : ((Rune.ascii octet).char == '_') =
      (octet == Bytes.octet '_') := by
    rw [Bool.eq_iff_iff, beq_iff_eq, beq_iff_eq, Rune.ascii_char_eq_iff,
      ← UInt8.toNat_inj]
    rfl
  rw [Program.isWord, Char.isAlphanum, Rune.ascii_isAlpha,
    Rune.ascii_isDigit, isUnderscore]
  rfl

section Run

variable {run : Bytes}
  (isRun : ∀ octet ∈ run, Bytes.isWordOctet octet = true)
include isRun

theorem word?_of_run {belongs : Char → Bool} {category : List Char → Category}
    (mixed : ¬ ∀ octet ∈ run, belongs (Rune.ascii octet).char = true) :
    word? belongs category (run.map Rune.ascii) = none := by
  have droppedNe : (run.map Rune.ascii).dropWhile
      (fun rune => belongs rune.char) ≠ [] := by
    intro dropped
    apply mixed
    intro octet member
    exact List.dropWhile_eq_nil_iff.mp dropped _ (List.mem_map_of_mem member)
  obtain ⟨rune, rest, droppedEq⟩ := List.exists_cons_of_ne_nil droppedNe
  have goesOn : Program.isWord rune.char = true := by
    have member : rune ∈ run.map Rune.ascii := by
      apply (List.dropWhile_suffix fun rune => belongs rune.char).mem
      rw [droppedEq]
      exact List.mem_cons_self
    obtain ⟨octet, octetMem, rfl⟩ := List.mem_map.mp member
    rw [isWord_ascii]
    exact isRun octet octetMem
  rw [word?, droppedEq]
  simp [Program.endsWord, goesOn]

/-- A run is no token as long as letters, digits and underscores are mixed in
it. -/
theorem scan?_of_not_isUniform (mixed : ¬ Bytes.isUniform run = true) :
    scan? (run.map Rune.ascii) = none := by
  rw [Bytes.isUniform_iff, not_or] at mixed
  obtain ⟨notLetters, notDigits⟩ := mixed
  simp only [← Rune.ascii_isAlpha, ← Rune.ascii_isDigit]
    at notLetters notDigits
  cases run with
  | nil => rfl
  | cons octet rest =>
      rw [List.map_cons, scan?, ← List.map_cons,
        word?_of_run isRun notLetters, word?_of_run isRun notDigits]
      split
      · rfl
      · split
        · rfl
        · next notAlpha notDigit =>
            -- Neither a letter nor a digit is left but the underscore.
            rw [Rune.ascii_isAlpha] at notAlpha
            rw [Rune.ascii_isDigit] at notDigit
            rcases Bytes.isWordOctet_iff.mp (isRun octet List.mem_cons_self)
              with isLetter | isDigit | rfl
            · exact absurd isLetter notAlpha
            · exact absurd isDigit notDigit
            · rfl

end Run

theorem ofWord_eq_ofLexeme {text : Bytes}
    (areLetters : ∀ octet ∈ text, Bytes.isLetter octet = true) :
    Category.ofWord ((text.map Rune.ascii).map Rune.char) =
      Category.ofLexeme text := by
  have sameText (word : Bytes) :
      (text.map Rune.ascii).map Rune.char =
        (word.map Rune.ascii).map Rune.char ↔ text = word :=
    ⟨map_ascii_char_injective, fun same => by rw [same]⟩
  have isDefine := sameText "def"
  have isFinish := sameText "end"
  have letters : text.all Bytes.isLetter = true :=
    List.all_eq_true.mpr areLetters
  rw [Category.ofWord, Category.ofLexeme, if_pos letters]
  exact if_congr isDefine rfl (if_congr isFinish rfl rfl)

theorem ofLexeme_of_digits {text : Bytes} (textNe : text ≠ [])
    (areDigits : ∀ octet ∈ text, Decimal.isDigit octet = true) :
    Category.ofLexeme text = .integer := by
  obtain ⟨octet, rest, rfl⟩ := List.exists_cons_of_ne_nil textNe
  have isDigit := areDigits octet List.mem_cons_self
  have notLetter : Bytes.isLetter octet = false := by
    rw [Bool.eq_false_iff, Ne, Bytes.isLetter_iff]
    rw [Decimal.isDigit_iff] at isDigit
    omega
  have different {word : Bytes}
      (letters : word.head?.all Bytes.isLetter = true) :
      octet :: rest ≠ word := by
    rintro rfl
    rw [List.head?_cons, Option.all_some, notLetter] at letters
    cases letters
  rw [Category.ofLexeme, if_neg (different rfl), if_neg (different rfl)]
  simp [notLetter]

theorem scan?_of_isUniform {run : Bytes} (runNe : run ≠ [])
    (uniform : Bytes.isUniform run = true) :
    scan? (run.map Rune.ascii) =
      some (Category.ofLexeme run, run.length) := by
  rcases Bytes.isUniform_iff.mp uniform with areLetters | areDigits
  · rw [scan?_letters runNe areLetters, ofWord_eq_ofLexeme areLetters]
  · rw [scan?_digits runNe areDigits, ofLexeme_of_digits runNe areDigits]

end Lexer

theorem Bytes.pieceWord?_of_run {run : Bytes}
    (isRun : ∀ octet ∈ run, isWordOctet octet = true) :
    pieceWord? run =
      if run.lastWord = [] then none
      else some ⟨.ofLexeme run.lastWord, run.lastWord⟩ :=
  if_pos (List.all_eq_true.mpr isRun)

@[simp]
theorem Position.advance_offset (position : Position) (rune : Rune) :
    (position.advance rune).offset = position.offset + rune.width := by
  rw [advance]
  split <;> rfl

namespace Lexer

/-- The token of a run is its last word. -/
theorem tokensFrom_run {run : Bytes}
    (isRun : ∀ octet ∈ run, Bytes.isWordOctet octet = true)
    (position : Position) :
    (tokensFrom Registry.default position 0 (run.map Rune.ascii)).map
        Token.occurrence =
      (run.pieceWord?.map fun word =>
        word.occurrence (position.offset + run.length)).toList := by
  induction run generalizing position with
  | nil => rfl
  | cons octet rest ih =>
      rw [Bytes.pieceWord?_of_run isRun, Bytes.lastWord]
      by_cases uniform : Bytes.isUniform (octet :: rest) = true
      · have found := scan?_of_isUniform (List.cons_ne_nil octet rest) uniform
        rw [← List.length_map Rune.ascii] at found
        rw [tokensFrom_of_scan? found, octetsOf_map_ascii, if_pos uniform,
          if_neg (List.cons_ne_nil octet rest)]
        simp [Token.occurrence, Word.occurrence]
      · -- The first octet is given up, and the rest is a shorter run.
        have restRun : ∀ other ∈ rest, Bytes.isWordOctet other = true :=
          fun other member => isRun other (List.mem_cons_of_mem _ member)
        have skipped : firstMatch? Registry.default
            (Rune.ascii octet :: rest.map Rune.ascii) = none := by
          rw [firstMatch?_default, ← List.map_cons,
            scan?_of_not_isUniform isRun uniform]
          rfl
        have stop : (position.advance (Rune.ascii octet)).offset +
            rest.length = position.offset + (octet :: rest).length := by
          rw [Position.advance_offset, List.length_cons]
          simp only [Rune.width, Rune.ascii, List.length_singleton]
          omega
        rw [List.map_cons, tokensFrom, skipped, ih restRun,
          Bytes.pieceWord?_of_run restRun, stop, if_neg uniform]

end Lexer

namespace Bytes

theorem occurrences_append (offset : Int) (first second : List Bytes) :
    occurrences offset (first ++ second) =
      occurrences offset first ++
        occurrences (offset + first.flatten.length) second := by
  induction first generalizing offset with
  | nil => simp [occurrences]
  | cons piece rest ih =>
      rw [List.cons_append, occurrences, occurrences, ih, List.append_assoc,
        List.flatten_cons, List.length_append, Int.natCast_add, ← Int.add_assoc]

theorem occurrences_pieces_append {left right : Bytes}
    (apart : ∀ last ∈ left.getLast?, ∀ first ∈ right.head?,
      (isWordOctet last && isWordOctet first) = false) (offset : Int) :
    occurrences offset (pieces (left ++ right)) =
      occurrences offset (pieces left) ++
        occurrences (offset + left.length) (pieces right) := by
  rw [pieces_append apart, occurrences_append,
    (isSplit_pieces left).flatten_eq]

theorem occurrences_of_run {run : Bytes}
    (isRun : ∀ octet ∈ run, isWordOctet octet = true) (offset : Int) :
    occurrences offset (pieces run) =
      (run.pieceWord?.map fun word =>
        word.occurrence (offset + run.length)).toList := by
  by_cases runEmpty : run = []
  · rw [runEmpty]
    rfl
  · rw [pieces_of_run runEmpty isRun]
    exact List.append_nil _

theorem pieceWord?_of_gap {piece : Bytes} (pieceNe : piece ≠ [])
    (blank : ∀ octet ∈ piece, isGap octet = true) :
    pieceWord? piece = none := by
  obtain ⟨octet, rest, rfl⟩ := List.exists_cons_of_ne_nil pieceNe
  have isGapFirst := blank octet List.mem_cons_self
  have notWord := (isGap_iff.mp isGapFirst).1
  have different {mark : Bytes} (isMark : mark.head?.any isGap = false) :
      octet :: rest ≠ mark := by
    rintro rfl
    rw [List.head?_cons, Option.any_some, isGapFirst] at isMark
    cases isMark
  simp only [pieceWord?, List.all_cons, notWord, Bool.false_and,
    Bool.false_eq_true, if_false, Option.map_eq_none_iff]
  rw [Category.ofMarkText?, if_neg (different (by decide)),
    if_neg (different (by decide)), if_neg (different (by decide))]

theorem occurrences_of_gap {gap : Bytes}
    (blank : ∀ octet ∈ gap, isGap octet = true) (offset : Int) :
    occurrences offset (pieces gap) = [] := by
  have silent : ∀ piece ∈ pieces gap, pieceWord? piece = none := by
    intro piece member
    apply pieceWord?_of_gap (List.ne_nil_of_mem_splitBy member)
    intro octet octetMem
    apply blank octet
    rw [← (isSplit_pieces gap).flatten_eq]
    exact List.mem_flatten_of_mem member octetMem
  generalize pieces gap = cuts at silent
  induction cuts generalizing offset with
  | nil => rfl
  | cons piece rest ih =>
      rw [occurrences, silent piece List.mem_cons_self]
      exact ih _ fun other member => silent other (List.mem_cons_of_mem _ member)

end Bytes

namespace Lexer

theorem isGap_of_beyond {octet : UInt8} (beyond : 0x80 ≤ octet.toNat) :
    Bytes.isGap octet = true := by
  have different {other : UInt8} (isAscii : other.toNat < 0x80) :
      octet ≠ other := by
    rintro rfl
    omega
  have notWord : Bytes.isWordOctet octet = false := by
    rw [Bool.eq_false_iff]
    intro isWord
    exact Nat.not_lt.mpr beyond
      (UInt8.lt_iff_toNat_lt.mp (Bytes.lt_of_isWordOctet isWord))
  exact Bytes.isGap_iff.mpr ⟨notWord, different (by decide),
    different (by decide), different (by decide)⟩

theorem tokensFrom_mark {octet : UInt8} (category : Category)
    (found : scan? [Rune.ascii octet] = some (category, 1))
    (wordEq : Bytes.pieceWord? [octet] = some ⟨category, [octet]⟩)
    (position : Position) :
    (tokensFrom Registry.default position 0 [Rune.ascii octet]).map
        Token.occurrence =
      Bytes.occurrences position.offset (Bytes.pieces [octet]) := by
  have alone : Bytes.pieces [octet] = [[octet]] := rfl
  rw [tokensFrom_of_scan? found, alone, Bytes.occurrences, wordEq]
  simp [Token.occurrence, Word.occurrence, Bytes.occurrences, Rune.octetsOf,
    Rune.ascii]

/-- A rune outside of words is a token exactly if it is a mark. -/
theorem tokensFrom_single {rune : Rune} (faithful : rune.Faithful)
    (notWord : Program.isWord rune.char = false) (position : Position) :
    (tokensFrom Registry.default position 0 [rune]).map Token.occurrence =
      Bytes.occurrences position.offset (Bytes.pieces rune.octets) := by
  have skipped (blank : isBlank rune = true) :
      tokensFrom Registry.default position 0 [rune] = [] :=
    tokensFrom_of_isBlank (List.forall_mem_singleton.mpr blank) position []
  rcases faithful with ⟨octet, _, rfl⟩ | ⟨charBeyond, octetsBeyond⟩
  · rw [isWord_ascii] at notWord
    by_cases gap : Bytes.isGap octet = true
    · rw [skipped (isBlank_ascii gap)]
      exact (Bytes.occurrences_of_gap (List.forall_mem_singleton.mpr gap)
        position.offset).symm
    · have isMark : octet = Bytes.octet '(' ∨ octet = Bytes.octet ')' ∨
          octet = Bytes.octet ',' := by
        by_contra different
        rw [not_or, not_or] at different
        exact gap (Bytes.isGap_iff.mpr ⟨notWord, different⟩)
      rcases isMark with rfl | rfl | rfl
      · exact tokensFrom_mark .opening rfl rfl position
      · exact tokensFrom_mark .closing rfl rfl position
      · exact tokensFrom_mark .comma rfl rfl position
  · rw [skipped (isBlank_of_beyond charBeyond)]
    exact (Bytes.occurrences_of_gap
      (fun octet member => isGap_of_beyond (octetsBeyond octet member))
      position.offset).symm

theorem isWord_char_of_faithful {rune : Rune} (faithful : rune.Faithful)
    {octet : UInt8} (member : octet ∈ rune.octets) :
    Program.isWord rune.char = Bytes.isWordOctet octet := by
  rcases faithful with ⟨other, _, rfl⟩ | ⟨charBeyond, octetsBeyond⟩
  · obtain rfl := List.mem_singleton.mp member
    exact isWord_ascii octet
  · have gap := isGap_of_beyond (octetsBeyond octet member)
    have blank := Bool.and_eq_true_iff.mp (isBlank_of_beyond charBeyond)
    rw [(Bytes.isGap_iff.mp gap).1]
    simpa using blank.1

theorem advanceAll_run_offset {run : Bytes}
    (isRun : ∀ octet ∈ run, Bytes.isWordOctet octet = true)
    (position : Position) :
    (position.advanceAll (run.map Rune.ascii)).offset =
      position.offset + run.length := by
  have faithful : ∀ rune ∈ run.map Rune.ascii, rune.Faithful := by
    intro rune member
    obtain ⟨octet, octetMem, rfl⟩ := List.mem_map.mp member
    exact Or.inl ⟨octet, Bytes.lt_of_isWordOctet (isRun octet octetMem), rfl⟩
  have offsetEq := (Position.advanceAll_offset_line faithful position).1
  rwa [octetsOf_map_ascii] at offsetEq

theorem tokensFrom_run_end (run : Bytes) {rune : Rune}
    (notWord : Program.isWord rune.char = false)
    (position : Position) (after : List Rune) :
    tokensFrom Registry.default position 0
        (run.map Rune.ascii ++ rune :: after) =
      tokensFrom Registry.default position 0 (run.map Rune.ascii) ++
        (tokensFrom Registry.default
            (position.advanceAll (run.map Rune.ascii)) 0 [rune] ++
          tokensFrom Registry.default
            ((position.advanceAll (run.map Rune.ascii)).advance rune) 0
            after) := by
  have ends : Program.endsWord (rune :: after) = true := by
    simp [Program.endsWord, notWord]
  have cut : CutsNoWord [rune] after := by
    intro last isLast isWordLast
    obtain rfl : rune = last := Option.some.inj isLast
    rw [notWord] at isWordLast
    cases isWordLast
  rw [tokensFrom_append (cutsNoWord_of_endsWord _ ends) (Nat.zero_le _),
    ← List.singleton_append, tokensFrom_append cut (Nat.zero_le _)]
  rfl

/-- The tokens of a text behind the beginning of a run. -/
theorem tokensFrom_eq_occurrences (text : Bytes) {run : Bytes}
    (isRun : ∀ octet ∈ run, Bytes.isWordOctet octet = true)
    (position : Position) :
    (tokensFrom Registry.default position 0
        (run.map Rune.ascii ++ Rune.read text)).map Token.occurrence =
      Bytes.occurrences position.offset (Bytes.pieces (run ++ text)) := by
  induction text using Rune.read_induction generalizing run position with
  | empty =>
      have readNil : Rune.read [] = [] := rfl
      rw [readNil, List.append_nil, List.append_nil, tokensFrom_run isRun,
        Bytes.occurrences_of_run isRun]
  | step octet tail others octetsEq faithful readEq ih =>
      by_cases isWord : Bytes.isWordOctet octet = true
      · -- The run goes on with this octet.
        have isAscii := Bytes.lt_of_isWordOctet isWord
        obtain rfl : tail = [] := by
          rw [Rune.first_of_ascii isAscii] at octetsEq
          cases octetsEq
          rfl
        have longerRun : ∀ other ∈ run ++ [octet],
            Bytes.isWordOctet other = true := by
          simp only [List.mem_append, List.mem_singleton]
          rintro other (member | rfl)
          · exact isRun other member
          · exact isWord
        have longer := ih longerRun position
        rw [List.map_append, List.append_assoc, List.append_assoc] at longer
        rw [List.nil_append, Rune.read_cons_of_ascii isAscii]
        exact longer
      · -- The run ends in front of this octet, and its rune stands alone.
        rw [readEq]
        generalize Rune.first octet (tail ++ others) = rune at *
        have notWordChar : Program.isWord rune.char = false := by
          have firstMem : octet ∈ rune.octets := by
            rw [octetsEq]
            exact List.mem_cons_self
          rw [isWord_char_of_faithful faithful firstMem]
          exact Bool.eq_false_iff.mpr isWord
        have notWordOctet : ∀ other ∈ octet :: tail,
            Bytes.isWordOctet other = false := by
          intro other member
          rw [← octetsEq] at member
          rw [← isWord_char_of_faithful faithful member]
          exact notWordChar
        have runApart : ∀ last ∈ run.getLast?,
            ∀ first ∈ (octet :: tail ++ others).head?,
              (Bytes.isWordOctet last && Bytes.isWordOctet first) = false := by
          rintro last _ first isFirst
          cases isFirst
          rw [notWordOctet octet List.mem_cons_self, Bool.and_false]
        have runeApart : ∀ last ∈ (octet :: tail).getLast?,
            ∀ first ∈ others.head?,
              (Bytes.isWordOctet last && Bytes.isWordOctet first) = false := by
          rintro last isLast first _
          rw [notWordOctet last (List.mem_of_getLast? isLast),
            Bool.false_and]
        have rest := ih (List.forall_mem_nil _)
          ((position.advanceAll (run.map Rune.ascii)).advance rune)
        rw [List.map_nil, List.nil_append, List.nil_append] at rest
        rw [tokensFrom_run_end run notWordChar, List.map_append,
          List.map_append, tokensFrom_run isRun,
          tokensFrom_single faithful notWordChar, rest,
          ← List.cons_append, Bytes.occurrences_pieces_append runApart,
          Bytes.occurrences_pieces_append runeApart,
          Bytes.occurrences_of_run isRun, Position.advance_offset,
          advanceAll_run_offset isRun, Rune.width, octetsEq]

end Lexer

theorem Bytes.mem_occurrences {offset : Int} {cuts : List Bytes}
    {found : Occurrence} (member : found ∈ occurrences offset cuts) :
    ∃ piece ∈ cuts, ∃ word stop, pieceWord? piece = some word ∧
      found = word.occurrence stop := by
  induction cuts generalizing offset with
  | nil => cases member
  | cons piece rest ih =>
      rw [occurrences, List.mem_append, Option.mem_toList] at member
      rcases member with inPiece | later
      · obtain ⟨word, wordEq, rfl⟩ := Option.map_eq_some_iff.mp inPiece
        exact ⟨piece, List.mem_cons_self, word, _, wordEq, rfl⟩
      · obtain ⟨other, otherMem, found⟩ := ih later
        exact ⟨other, List.mem_cons_of_mem _ otherMem, found⟩

theorem Category.spells_ofLexeme {word : Bytes} (wordNe : word ≠ [])
    (uniform : Bytes.isUniform word = true) :
    (ofLexeme word).spells word = true := by
  by_cases isDefine : word = "def"
  · rw [isDefine]
    rfl
  by_cases isFinish : word = "end"
  · rw [isFinish]
    rfl
  rcases Bytes.isUniform_iff.mp uniform with areLetters | areDigits
  · have letters := List.all_eq_true.mpr areLetters
    rw [ofLexeme, if_neg isDefine, if_neg isFinish, if_pos letters]
    exact Bytes.isName_iff.mpr ⟨wordNe, areLetters, isDefine, isFinish⟩
  · rw [Lexer.ofLexeme_of_digits wordNe areDigits]
    exact spells_integer_iff.mpr ⟨wordNe, areDigits⟩

theorem Bytes.isPlain_of_pieceWord? {piece : Bytes} {word : Word}
    (found : pieceWord? piece = some word) : word.isPlain = true := by
  rw [pieceWord?] at found
  split at found
  · split at found
    · cases found
    · next wordNe =>
        cases found
        exact Category.spells_ofLexeme wordNe
          (isLastWord_lastWord piece).uniform
  · obtain ⟨category, markEq, rfl⟩ := Option.map_eq_some_iff.mp found
    rw [Category.ofMarkText?] at markEq
    split at markEq
    · next isOpening =>
        cases markEq
        rw [isOpening]
        rfl
    split at markEq
    · next isClosing =>
        cases markEq
        rw [isClosing]
        rfl
    split at markEq
    · next isComma =>
        cases markEq
        rw [isComma]
        rfl
    · cases markEq

/-- Every token of the default registry is spelt as its category demands. -/
theorem spells_of_mem_tokenize {source : Bytes} {token : Token}
    (member : token ∈ tokenize Registry.default source) :
    ∃ category : Category, token.kind = some category.kind ∧
      category.spells token.lexeme = true := by
  have occurs : token.occurrence ∈
      Bytes.occurrences Position.start.offset (Bytes.pieces source) := by
    rw [← List.nil_append source,
      ← Lexer.tokensFrom_eq_occurrences source (List.forall_mem_nil _)]
    exact List.mem_map_of_mem member
  obtain ⟨_, _, word, stop, wordEq, occurrenceEq⟩ :=
    Bytes.mem_occurrences occurs
  obtain ⟨kindEq, lexemeEq, _⟩ := Occurrence.mk.inj occurrenceEq
  refine ⟨word.category, kindEq, ?_⟩
  rw [lexemeEq]
  exact Bytes.isPlain_of_pieceWord? wordEq

/-- The default registry finds the last word of each run of word octets, each
parenthesis and each comma, in order, and nothing else. -/
theorem tokenize_default_eq_occurrences (source : Bytes) :
    (∀ cuts, Bytes.IsSplit source cuts ↔ cuts = Bytes.pieces source) ∧
    (∀ run ∈ Bytes.pieces source,
      (∀ octet ∈ run, Bytes.isWordOctet octet = true) →
        Bytes.IsLastWord run (Bytes.lastWord run) ∧
        (Bytes.lastWord run = [] ↔
          run.getLast? = some (Bytes.octet '_'))) ∧
    (tokenize Registry.default source).map Token.occurrence =
      Bytes.occurrences 0 (Bytes.pieces source) := by
  refine ⟨fun cuts => ⟨Bytes.IsSplit.eq_pieces, ?_⟩, ?_, ?_⟩
  · rintro rfl
    exact Bytes.isSplit_pieces source
  · intro run member isRun
    have isLast := Bytes.isLastWord_lastWord run
    exact ⟨isLast, isLast.eq_nil_iff (List.ne_nil_of_mem_splitBy member) isRun⟩
  · exact Lexer.tokensFrom_eq_occurrences source (List.forall_mem_nil _) .start

/-- Letters before digits are given up, digits before a reserved word too, and
nothing is left of a word that ends in an underscore. -/
theorem mixed_runs_occurrences :
    let source : Bytes := "abc1 1def a_ (é_x"
    (Bytes.ofString "a_" ∈ Bytes.pieces source ∧
      Bytes.IsLastWord "a_" []) ∧
    (tokenize Registry.default source).map Token.occurrence =
      [⟨some Category.integer.kind, "1", 3⟩,
        ⟨some Category.define.kind, "def", 6⟩,
        ⟨some Category.opening.kind, "(", 13⟩,
        ⟨some Category.identifier.kind, "x", 17⟩] := by
  intro source
  obtain ⟨_, words, occurrencesEq⟩ := tokenize_default_eq_occurrences source
  have member : Bytes.ofString "a_" ∈ Bytes.pieces source := by decide
  have isRun : ∀ octet ∈ Bytes.ofString "a_",
      Bytes.isWordOctet octet = true := by
    decide +kernel
  refine ⟨⟨member, (words _ member isRun).1⟩, ?_⟩
  rw [occurrencesEq]
  decide

end Defun
