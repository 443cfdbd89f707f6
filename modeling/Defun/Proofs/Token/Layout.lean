import Mathlib.Data.List.Forall2
import Defun.Proofs.Token.Concatenation

/-!
# Layouts of words

The words of a program may be written with any gaps between them, as long as
two words made of letters or digits do not touch.  Splitting such a text into
tokens gives the words back.
-/

namespace Defun

/-- A token to be written. -/
structure Word where
  category : Category
  lexeme : Bytes
deriving DecidableEq, Repr

/-- Whether the tokens of a category are made of letters or digits. -/
def Category.isWordlike : Category → Bool
  | define | finish | identifier | integer => true
  | opening | closing | comma => false

/-- Words of letters that are not reserved. -/
def Bytes.isName (text : Bytes) : Bool :=
  !text.isEmpty && text.all isLetter && text != "def" && text != "end"

/-- Whether a text is a token of a category. -/
def Category.spells : Category → Bytes → Bool
  | define, text => text == "def"
  | finish, text => text == "end"
  | identifier, text => text.isName
  | integer, text => !text.isEmpty && text.all Decimal.isDigit
  | opening, text => text == "("
  | closing, text => text == ")"
  | comma, text => text == ","

/-- Whether a word is a token of its category. -/
def Word.isPlain (word : Word) : Bool :=
  word.category.spells word.lexeme

theorem Bytes.isName_iff {text : Bytes} :
    text.isName = true ↔
      text ≠ [] ∧ (∀ octet ∈ text, isLetter octet = true) ∧
        text ≠ "def" ∧ text ≠ "end" := by
  simp [Bytes.isName, and_assoc]

theorem Category.spells_integer_iff {text : Bytes} :
    integer.spells text = true ↔
      text ≠ [] ∧ ∀ octet ∈ text, Decimal.isDigit octet = true := by
  simp [Category.spells]

/-- The octets that belong to no token and to no word. -/
def Bytes.isGap (octet : UInt8) : Bool :=
  !(isLetter octet || Decimal.isDigit octet || octet == Bytes.octet '_' ||
    octet == Bytes.octet '(' || octet == Bytes.octet ')' ||
    octet == Bytes.octet ',')

/-- A word as it is written: numerals may have zeros in front. -/
def Word.written (word : Word) (zeros : Nat) : Bytes :=
  if word.category = .integer then
    List.replicate zeros (Bytes.octet '0') ++ word.lexeme
  else word.lexeme

/-- The texts that write some words in order with gaps before, between and
behind them.  The flag says whether a word of letters or digits stands in
front; another one may not follow it immediately. -/
inductive Layout : (afterWord : Bool) → List Word → Bytes → Prop where
  | last {afterWord : Bool} {gap : Bytes}
      (blank : gap.all Bytes.isGap = true) :
      Layout afterWord [] gap
  | next {afterWord : Bool} {gap rest : Bytes} {word : Word}
      {words : List Word} (zeros : Nat)
      (blank : gap.all Bytes.isGap = true)
      (apart : afterWord = true → word.category.isWordlike = true → gap ≠ [])
      (following : Layout word.category.isWordlike words rest) :
      Layout afterWord (word :: words) (gap ++ word.written zeros ++ rest)

namespace Lexer

/-- Runes that begin no token and belong to no word. -/
def isBlank (rune : Rune) : Bool :=
  !Program.isWord rune.char && (Category.ofMark? rune.char).isNone

theorem scan?_of_isBlank {rune : Rune} (blank : isBlank rune = true)
    (rest : List Rune) : scan? (rune :: rest) = none := by
  simp only [isBlank, Bool.and_eq_true, Bool.not_eq_true',
    Option.isNone_iff_eq_none] at blank
  obtain ⟨notWord, notMark⟩ := blank
  have notAlpha : ¬ rune.char.isAlpha = true := by
    intro isAlpha
    rw [isAlpha_words rune.char isAlpha] at notWord
    cases notWord
  have notDigit : ¬ rune.char.isDigit = true := by
    intro isDigit
    rw [isDigit_words rune.char isDigit] at notWord
    cases notWord
  rw [scan?, if_neg notAlpha, if_neg notDigit, notMark]
  rfl

theorem tokensFrom_of_isBlank {gap : List Rune}
    (blank : ∀ rune ∈ gap, isBlank rune = true) (position : Position)
    (after : List Rune) :
    tokensFrom Registry.default position 0 (gap ++ after) =
      tokensFrom Registry.default (position.advanceAll gap) 0 after := by
  induction gap generalizing position with
  | nil => rfl
  | cons rune rest ih =>
      have skipped : firstMatch? Registry.default (rune :: (rest ++ after)) =
          none := by
        simp [scan?_of_isBlank (blank rune List.mem_cons_self)]
      rw [List.cons_append, tokensFrom, skipped]
      exact ih (fun other member => blank other (List.mem_cons_of_mem _ member))
        (position.advance rune)

theorem ofMark?_eq_none_iff {char : Char} :
    Category.ofMark? char = none ↔
      char ≠ '(' ∧ char ≠ ')' ∧ char ≠ ',' := by
  rw [Category.ofMark?]
  split <;> simp_all
  split <;> simp_all

theorem isBlank_iff {rune : Rune} :
    isBlank rune = true ↔
      ¬ rune.char.isAlpha = true ∧ ¬ rune.char.isDigit = true ∧
        rune.char ≠ '_' ∧ rune.char ≠ '(' ∧ rune.char ≠ ')' ∧
        rune.char ≠ ',' := by
  simp [isBlank, Program.isWord, Char.isAlphanum, ofMark?_eq_none_iff,
    and_assoc]

theorem isBlank_ascii {octet : UInt8} (gap : Bytes.isGap octet = true) :
    isBlank (Rune.ascii octet) = true := by
  have different {char : Char} {other : UInt8} (codeEq : other.toNat = char.toNat)
      (notOther : octet ≠ other) : (Rune.ascii octet).char ≠ char := by
    rw [Ne, Rune.ascii_char_eq_iff, ← codeEq, UInt8.toNat_inj]
    exact notOther
  simp only [Bytes.isGap, Bool.not_eq_true', Bool.or_eq_false_iff,
    beq_eq_false_iff_ne] at gap
  obtain ⟨⟨⟨⟨⟨notLetter, notDigit⟩, notUnderscore⟩, notOpening⟩,
    notClosing⟩, notComma⟩ := gap
  rw [isBlank_iff, Rune.ascii_isAlpha, Rune.ascii_isDigit, notLetter,
    notDigit]
  exact ⟨Bool.false_ne_true, Bool.false_ne_true, different rfl notUnderscore,
    different rfl notOpening, different rfl notClosing,
    different rfl notComma⟩

theorem isBlank_of_beyond {rune : Rune} (beyond : 0x80 ≤ rune.char.toNat) :
    isBlank rune = true := by
  have different {char : Char} (isAscii : char.toNat < 0x80) :
      rune.char ≠ char := by
    rintro rfl
    omega
  rw [isBlank_iff, isAlpha_iff, isDigit_iff]
  refine ⟨?_, ?_, different (by decide), different (by decide),
    different (by decide), different (by decide)⟩
  · omega
  · omega

theorem isBlank_of_mem_read {gap : Bytes}
    (blank : gap.all Bytes.isGap = true) {rune : Rune}
    (member : rune ∈ Rune.read gap) : isBlank rune = true := by
  rcases Rune.faithful_of_mem_read member with
    ⟨octet, _, rfl⟩ | ⟨beyond, _⟩
  · have octetMem : octet ∈ gap := by
      rw [← Rune.octetsOf_read gap]
      exact List.mem_flatMap.mpr ⟨_, member, List.mem_singleton_self octet⟩
    exact isBlank_ascii (List.all_eq_true.mp blank octet octetMem)
  · exact isBlank_of_beyond beyond

theorem word?_of_forall {belongs : Char → Bool}
    (category : List Char → Category) {text : List Rune}
    (belong : ∀ rune ∈ text, belongs rune.char = true) :
    word? belongs category text =
      some (category (text.map Rune.char), text.length) := by
  have taken := List.takeWhile_eq_self_iff.mpr belong
  have dropped := List.dropWhile_eq_nil_iff.mpr belong
  rw [word?, taken, dropped]
  rfl

theorem map_ascii_char_injective {first second : Bytes}
    (same : (first.map Rune.ascii).map Rune.char =
      (second.map Rune.ascii).map Rune.char) : first = second := by
  have injective : Function.Injective (Rune.char ∘ Rune.ascii) := by
    intro first second sameChar
    rw [Function.comp_apply, Function.comp_apply, Rune.ascii_char_eq_iff,
      Rune.ascii_char_toNat] at sameChar
    exact UInt8.toNat_inj.mp sameChar
  rw [List.map_map, List.map_map] at same
  exact List.map_injective_iff.mpr injective same

theorem ofWord_of_isName {text : Bytes} (isName : text.isName = true) :
    Category.ofWord ((text.map Rune.ascii).map Rune.char) =
      .identifier := by
  obtain ⟨_, _, notDef, notEnd⟩ := Bytes.isName_iff.mp isName
  have notDefine : (text.map Rune.ascii).map Rune.char ≠ ['d', 'e', 'f'] :=
    fun same => notDef (map_ascii_char_injective same)
  have notFinish : (text.map Rune.ascii).map Rune.char ≠ ['e', 'n', 'd'] :=
    fun same => notEnd (map_ascii_char_injective same)
  rw [Category.ofWord, if_neg notDefine, if_neg notFinish]

theorem scan?_letters {text : Bytes} (textNe : text ≠ [])
    (areLetters : ∀ octet ∈ text, Bytes.isLetter octet = true) :
    scan? (text.map Rune.ascii) =
      some (Category.ofWord ((text.map Rune.ascii).map Rune.char),
        text.length) := by
  have belong : ∀ rune ∈ text.map Rune.ascii, rune.char.isAlpha = true := by
    intro rune member
    obtain ⟨octet, octetMem, rfl⟩ := List.mem_map.mp member
    rw [Rune.ascii_isAlpha]
    exact areLetters octet octetMem
  cases text with
  | nil => exact absurd rfl textNe
  | cons first rest =>
      have isAlpha := belong (Rune.ascii first) List.mem_cons_self
      have whole := word?_of_forall Category.ofWord belong
      rw [List.length_map] at whole
      rw [← whole, List.map_cons, scan?, if_pos isAlpha]

theorem scan?_digits {text : Bytes} (textNe : text ≠ [])
    (areDigits : ∀ octet ∈ text, Decimal.isDigit octet = true) :
    scan? (text.map Rune.ascii) = some (.integer, text.length) := by
  have belong : ∀ rune ∈ text.map Rune.ascii, rune.char.isDigit = true := by
    intro rune member
    obtain ⟨octet, octetMem, rfl⟩ := List.mem_map.mp member
    rw [Rune.ascii_isDigit]
    exact areDigits octet octetMem
  cases text with
  | nil => exact absurd rfl textNe
  | cons first rest =>
      have isDigit := belong (Rune.ascii first) List.mem_cons_self
      have notAlpha : ¬ (Rune.ascii first).char.isAlpha = true := by
        intro isAlpha
        rw [not_isDigit_of_isAlpha isAlpha] at isDigit
        cases isDigit
      have whole := word?_of_forall (fun _ => .integer) belong
      rw [List.length_map] at whole
      rw [← whole, List.map_cons, scan?, if_neg notAlpha, if_pos isDigit]

/-- A text that is a token of a category by itself is scanned as one. -/
theorem scan?_of_spells {category : Category} {lexeme : Bytes}
    (spells : category.spells lexeme = true) :
    scan? (lexeme.map Rune.ascii) = some (category, lexeme.length) := by
  cases category with
  | identifier =>
      obtain ⟨lexemeNe, areLetters, _⟩ := Bytes.isName_iff.mp spells
      rw [scan?_letters lexemeNe areLetters, ofWord_of_isName spells]
  | integer =>
      obtain ⟨lexemeNe, areDigits⟩ := Category.spells_integer_iff.mp spells
      exact scan?_digits lexemeNe areDigits
  | _ =>
      obtain rfl := beq_iff_eq.mp spells
      rfl

theorem tokensFrom_of_scan? {category : Category} {text : List Rune}
    (found : scan? text = some (category, text.length))
    (position : Position) :
    tokensFrom Registry.default position 0 text =
      [⟨some category.kind, Rune.octetsOf text, position⟩] := by
  cases text with
  | nil => cases found
  | cons rune rest =>
      rw [tokensFrom, firstMatch?_default, found]
      simp only [Option.map_some, List.take_length]
      simp

@[simp]
theorem octetsOf_map_ascii (text : Bytes) :
    Rune.octetsOf (text.map Rune.ascii) = text := by
  induction text with
  | nil => rfl
  | cons octet rest ih => exact congrArg (octet :: ·) ih

end Lexer

theorem Word.spells_written {word : Word} (plain : word.isPlain = true)
    (zeros : Nat) :
    word.category.spells (word.written zeros) = true := by
  rw [Word.isPlain] at plain
  rw [Word.written]
  split
  · next isInteger =>
      rw [isInteger, Category.spells_integer_iff] at plain ⊢
      refine ⟨List.append_ne_nil_of_right_ne_nil _ plain.1, ?_⟩
      intro octet member
      rcases List.mem_append.mp member with isZero | later
      · rw [List.eq_of_mem_replicate isZero]
        rfl
      · exact plain.2 octet later
  · exact plain

theorem Category.ascii_of_spells {category : Category} {lexeme : Bytes}
    (spells : category.spells lexeme = true) :
    lexeme ≠ [] ∧ lexeme.all (fun octet => octet.toNat < 0x80) = true := by
  cases category with
  | identifier =>
      obtain ⟨lexemeNe, areLetters, _⟩ := Bytes.isName_iff.mp spells
      refine ⟨lexemeNe, List.all_eq_true.mpr fun octet member => ?_⟩
      have isLetter := Bytes.isLetter_iff.mp (areLetters octet member)
      rw [decide_eq_true_eq]
      omega
  | integer =>
      obtain ⟨lexemeNe, areDigits⟩ := spells_integer_iff.mp spells
      refine ⟨lexemeNe, List.all_eq_true.mpr fun octet member => ?_⟩
      have isDigit := Decimal.isDigit_iff.mp (areDigits octet member)
      rw [decide_eq_true_eq]
      omega
  | _ =>
      obtain rfl := beq_iff_eq.mp spells
      exact ⟨by decide, by decide⟩

namespace Lexer

/-- The runes of a word in a layout, behind its gap. -/
theorem read_layout {word : Word} (plain : word.isPlain = true)
    (zeros : Nat) (gap rest : Bytes) :
    Rune.read (gap ++ word.written zeros ++ rest) =
      Rune.read gap ++
        ((word.written zeros).map Rune.ascii ++ Rune.read rest) := by
  obtain ⟨writtenNe, allAscii⟩ :=
    Category.ascii_of_spells (Word.spells_written plain zeros)
  have areAscii : ∀ octet ∈ word.written zeros, octet < 0x80 := by
    intro octet member
    have below := List.all_eq_true.mp allAscii octet member
    exact UInt8.lt_iff_toNat_lt.mpr (decide_eq_true_eq.mp below)
  have asciiAfter : Rune.AsciiFirst (word.written zeros ++ rest) := by
    obtain ⟨octet, others, writtenEq⟩ := List.exists_cons_of_ne_nil writtenNe
    rw [writtenEq] at areAscii ⊢
    exact Rune.asciiFirst_cons (areAscii octet List.mem_cons_self) _
  rw [List.append_assoc, Rune.read_append gap asciiAfter,
    Rune.read_ascii_append areAscii]

theorem endsWord_of_isBlank {text : List Rune}
    (blank : ∀ rune ∈ text.head?, isBlank rune = true) :
    Program.endsWord text = true := by
  cases text with
  | nil => rfl
  | cons rune rest =>
      have notWord := (Bool.and_eq_true_iff.mp (blank rune rfl)).1
      simpa [Program.endsWord] using notWord

theorem endsWord_of_mark {category : Category} {lexeme : Bytes}
    (spells : category.spells lexeme = true)
    (isMark : category.isWordlike = false) (after : List Rune) :
    Program.endsWord (lexeme.map Rune.ascii ++ after) = true := by
  cases category with
  | opening | closing | comma =>
      obtain rfl := beq_iff_eq.mp spells
      rfl
  | _ => cases isMark

/-- No word goes on behind a word in a layout. -/
theorem endsWord_of_layout {words : List Word} {text : Bytes}
    (layout : Layout true words text)
    (plain : ∀ word ∈ words, word.isPlain = true) :
    Program.endsWord (Rune.read text) = true := by
  cases layout with
  | last blank =>
      refine endsWord_of_isBlank fun rune first => ?_
      exact isBlank_of_mem_read blank (List.mem_of_mem_head? first)
  | @next _ gap rest word words zeros blank apart following =>
      have plainWord := plain word List.mem_cons_self
      rw [read_layout plainWord]
      -- Without a gap the next word is a mark; otherwise a blank follows.
      cases gap with
      | nil =>
          have isMark : word.category.isWordlike = false := by
            rw [Bool.eq_false_iff]
            exact fun isWordlike => apart rfl isWordlike rfl
          exact endsWord_of_mark (Word.spells_written plainWord zeros)
            isMark _
      | cons octet others =>
          refine endsWord_of_isBlank fun rune first => ?_
          rw [Rune.read_cons] at first
          refine isBlank_of_mem_read blank ?_
          rw [Rune.read_cons]
          cases first
          exact List.mem_cons_self

theorem cutsNoWord_of_mark {category : Category} {lexeme : Bytes}
    (spells : category.spells lexeme = true)
    (isMark : category.isWordlike = false) (after : List Rune) :
    CutsNoWord (lexeme.map Rune.ascii) after := by
  cases category with
  | opening | closing | comma =>
      obtain rfl := beq_iff_eq.mp spells
      intro last isLast isWordLast
      cases isLast
      exact absurd isWordLast (by decide)
  | _ => cases isMark

/-- A layout may be cut behind each of its words. -/
theorem cutsNoWord_of_layout {word : Word} {words : List Word} {rest : Bytes}
    (following : Layout word.category.isWordlike words rest)
    (plainWord : word.isPlain = true)
    (plain : ∀ other ∈ words, other.isPlain = true) (zeros : Nat) :
    CutsNoWord ((word.written zeros).map Rune.ascii) (Rune.read rest) := by
  cases isWordlike : word.category.isWordlike with
  | true =>
      rw [isWordlike] at following
      exact cutsNoWord_of_endsWord _ (endsWord_of_layout following plain)
  | false =>
      exact cutsNoWord_of_mark (Word.spells_written plainWord zeros)
        isWordlike _

end Lexer

/-- A token that was written for a word. -/
def Token.Writes (token : Token) (word : Word) : Prop :=
  token.kind = some word.category.kind ∧
    ∃ zeros, token.lexeme = word.written zeros

/-- The tokens of a layout are its words. -/
theorem Layout.tokensFrom {afterWord : Bool} {words : List Word}
    {text : Bytes} (layout : Layout afterWord words text)
    (plain : ∀ word ∈ words, word.isPlain = true)
    (position : Position) :
    List.Forall₂ Token.Writes
      (Lexer.tokensFrom Registry.default position 0 (Rune.read text))
      words := by
  induction layout generalizing position with
  | @last _ gap blank =>
      have skipped := Lexer.tokensFrom_of_isBlank
        (fun _ member => Lexer.isBlank_of_mem_read blank member) position []
      rw [List.append_nil] at skipped
      rw [skipped]
      exact .nil
  | @next _ gap rest word words zeros blank apart following ih =>
      have plainWord := plain word List.mem_cons_self
      have plainRest : ∀ other ∈ words, other.isPlain = true :=
        fun other member => plain other (List.mem_cons_of_mem _ member)
      have scanned :=
        Lexer.scan?_of_spells (Word.spells_written plainWord zeros)
      rw [← List.length_map (f := Rune.ascii)] at scanned
      rw [Lexer.read_layout plainWord, Lexer.tokensFrom_of_isBlank
          (fun _ member => Lexer.isBlank_of_mem_read blank member),
        Lexer.tokensFrom_append
          (Lexer.cutsNoWord_of_layout following plainWord plainRest zeros)
          (Nat.zero_le _),
        Lexer.tokensFrom_of_scan? scanned, Lexer.octetsOf_map_ascii]
      exact .cons ⟨rfl, zeros, rfl⟩ (ih plainRest _)

end Defun
