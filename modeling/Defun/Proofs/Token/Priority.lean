import Mathlib.Data.List.Basic
import Defun.Proofs.Token.DefaultKinds
import Defun.Proofs.Token.Terminal

/-!
# Orders of the default kinds

Two kinds of the default registry match at the same place only if one is a
reserved word and the other one is that of identifiers, since otherwise their
tokens begin with different characters.  So in every order of these kinds that
has the reserved words before the identifiers the same kind is the first that
matches, at every place of every text.  In any other order, a reserved word is
an identifier.
-/

namespace Defun

namespace Category

/-- The categories whose words would be identifiers if they were not
reserved. -/
def reserved : List Category := [define, finish]

theorem eq_of_kind_eq {first second : Category}
    (kindEq : first.kind = second.kind) : first = second :=
  eq_of_name_eq (congrArg Kind.name kindEq)

/-- The characters that tokens of a category may begin with. -/
def begins : Category → Char → Bool
  | define, char => char == 'd'
  | finish, char => char == 'e'
  | identifier, char => char.isAlpha
  | integer, char => char.isDigit
  | opening, char => char == '('
  | closing, char => char == ')'
  | comma, char => char == ','

theorem eq_or_reserved_of_begins {first second : Category} {char : Char}
    (firstBegins : first.begins char = true)
    (secondBegins : second.begins char = true) :
    first = second ∨ (first = identifier ∧ second ∈ reserved) ∨
      (second = identifier ∧ first ∈ reserved) := by
  cases first <;> cases second <;>
    simp_all [begins, reserved, Lexer.not_isDigit_of_isAlpha]

section Begins

variable {category : Category} {rune : Rune} {rest : List Rune} {count : Nat}
  (matched : category.kind.matchRunes? (rune :: rest) = some count)
include matched

theorem char_eq_of_keyword {first second third : Char}
    (programEq : category.program = .keyword first second third)
    (firstIn : letters.contains first.toNat = true)
    (secondIn : letters.contains second.toNat = true)
    (thirdIn : letters.contains third.toNat = true) :
    rune.char = first := by
  rw [Lexer.matchRunes?_keyword category first second third programEq firstIn
    secondIn thirdIn] at matched
  split at matched
  · next spelled => exact ((Program.spells_cons_iff firstIn).mp spelled).1
  · cases matched

theorem within_of_wordOver {set : CharSet}
    (programEq : category.program = .wordOver set)
    (words : ∀ char : Char, set.contains char.toNat = true →
      Program.isWord char = true) :
    Program.within set rune = true := by
  rw [Lexer.matchRunes?_wordOver category set programEq words] at matched
  by_contra outside
  simp [outside] at matched

theorem char_eq_of_character {char : Char}
    (programEq : category.program = .character char) :
    rune.char = char := by
  rw [Lexer.matchRunes?_character category char programEq] at matched
  by_contra different
  simp [different] at matched

theorem begins_of_matchRunes? : category.begins rune.char = true := by
  cases category with
  | define =>
      rw [char_eq_of_keyword matched rfl rfl rfl rfl]
      rfl
  | finish =>
      rw [char_eq_of_keyword matched rfl rfl rfl rfl]
      rfl
  | identifier =>
      have isLetter := within_of_wordOver matched rfl Lexer.letters_words
      rwa [Lexer.within_letters] at isLetter
  | integer =>
      have isDigit := within_of_wordOver matched rfl Lexer.digits_words
      rwa [Lexer.within_digits] at isDigit
  | opening =>
      rw [char_eq_of_character matched rfl]
      rfl
  | closing =>
      rw [char_eq_of_character matched rfl]
      rfl
  | comma =>
      rw [char_eq_of_character matched rfl]
      rfl

end Begins

end Category

namespace Registry

/-- Every reserved word stands before the identifiers. -/
def ReservedFirst (kinds : List Kind) : Prop :=
  ∀ category ∈ Category.reserved,
    (kinds.map Kind.name).idxOf category.name <
      (kinds.map Kind.name).idxOf Category.identifier.name

instance (kinds : List Kind) : Decidable (ReservedFirst kinds) :=
  inferInstanceAs (Decidable (∀ category ∈ Category.reserved, _))

/-- The kinds of a list are those of the categories, in any order. -/
def IsComplete (kinds : List Kind) : Prop :=
  ∀ kind, kind ∈ kinds ↔ ∃ category : Category, category.kind = kind

theorem isComplete_of_perm {kinds : List Kind}
    (perm : kinds.Perm Registry.default) : IsComplete kinds := by
  intro kind
  rw [perm.mem_iff, default_eq, List.mem_map]
  constructor
  · rintro ⟨category, -, kindEq⟩
    exact ⟨category, kindEq⟩
  · rintro ⟨category, kindEq⟩
    refine ⟨category, ?_, kindEq⟩
    cases category <;> decide

section Order

variable {kinds before after : List Kind} {kind : Kind} {category : Category}

theorem IsComplete.eq_of_name_eq (complete : IsComplete kinds)
    (member : kind ∈ kinds) (nameEq : kind.name = category.name) :
    kind = category.kind := by
  obtain ⟨other, rfl⟩ := (complete kind).mp member
  rw [Category.eq_of_name_eq nameEq]

theorem IsComplete.mem_of_name_mem (complete : IsComplete kinds)
    (part : before ⊆ kinds)
    (member : category.name ∈ before.map Kind.name) :
    category.kind ∈ before := by
  obtain ⟨kind, kindMem, nameEq⟩ := List.mem_map.mp member
  rwa [complete.eq_of_name_eq (part kindMem) nameEq] at kindMem

/-- A part of the list up to the identifiers has the reserved words. -/
theorem ReservedFirst.name_mem (first : ReservedFirst (before ++ after))
    (isReserved : category ∈ Category.reserved)
    (member : Category.identifier.kind ∈ before) :
    category.name ∈ before.map Kind.name := by
  have identifierMem : Category.identifier.name ∈ before.map Kind.name :=
    List.mem_map.mpr ⟨_, member, rfl⟩
  have less := first category isReserved
  rw [List.map_append, List.idxOf_append_of_mem identifierMem] at less
  have inside := List.idxOf_lt_length_of_mem identifierMem
  by_contra absent
  rw [List.idxOf_append_of_notMem absent] at less
  omega

end Order

end Registry

namespace Lexer

variable {kinds others : List Kind} {kind : Kind} {count : Nat}

theorem firstMatch?_of_reservedFirst (complete : Registry.IsComplete kinds)
    (othersComplete : Registry.IsComplete others)
    (first : Registry.ReservedFirst kinds)
    (othersFirst : Registry.ReservedFirst others) {rune : Rune}
    {rest : List Rune}
    (found : firstMatch? kinds (rune :: rest) = some (kind, count)) :
    firstMatch? others (rune :: rest) = some (kind, count) := by
  obtain ⟨before, after, rfl, matched, refused⟩ :=
    firstMatch?_eq_some_iff.mp found
  obtain ⟨category, rfl⟩ := (complete kind).mp (by simp)
  obtain ⟨earlier, later, rfl, absent⟩ :=
    List.eq_append_cons_of_mem ((othersComplete _).mpr ⟨category, rfl⟩)
  refine firstMatch?_eq_some_iff.mpr ⟨earlier, later, rfl, matched, ?_⟩
  intro kind member
  by_contra notRefused
  obtain ⟨taken, takenEq⟩ := Option.ne_none_iff_exists'.mp notRefused
  obtain ⟨other, rfl⟩ := (othersComplete kind).mp (by simp [member])
  rcases Category.eq_or_reserved_of_begins
    (Category.begins_of_matchRunes? takenEq)
    (Category.begins_of_matchRunes? matched) with
    rfl | ⟨rfl, isReserved⟩ | ⟨rfl, isReserved⟩
  · exact absent member
  · -- Identifiers cannot stand before the reserved word in the other order.
    have nameMem := othersFirst.name_mem isReserved member
    exact absent (othersComplete.mem_of_name_mem (by simp) nameMem)
  · -- The reserved word stands before the identifiers here and was refused.
    rw [List.append_cons] at first complete
    have nameMem := first.name_mem isReserved (by simp)
    have kindMem := complete.mem_of_name_mem (by simp) nameMem
    rcases List.mem_append.mp kindMem with earlierMem | isIdentifier
    · rw [refused _ earlierMem] at takenEq
      cases takenEq
    · rw [Category.eq_of_kind_eq (List.mem_singleton.mp isIdentifier)]
        at isReserved
      revert isReserved
      decide

theorem firstMatch?_eq_of_reservedFirst (complete : Registry.IsComplete kinds)
    (othersComplete : Registry.IsComplete others)
    (first : Registry.ReservedFirst kinds)
    (othersFirst : Registry.ReservedFirst others) (rune : Rune)
    (rest : List Rune) :
    firstMatch? kinds (rune :: rest) = firstMatch? others (rune :: rest) := by
  apply Option.ext
  rintro ⟨kind, count⟩
  exact ⟨firstMatch?_of_reservedFirst complete othersComplete first othersFirst,
    firstMatch?_of_reservedFirst othersComplete complete othersFirst first⟩

end Lexer

section Converse

variable {category : Category}

theorem Category.matches_reserved (isReserved : category ∈ reserved) :
    ∃ rune rest, Rune.read category.name = rune :: rest ∧
      category.kind.matchRunes? (rune :: rest) ≠ none ∧
      identifier.kind.matchRunes? (rune :: rest) ≠ none ∧
      (tokenize Registry.default category.name).head?.map Token.kind =
        some (some category.kind) := by
  rcases List.mem_pair.mp isReserved with rfl | rfl <;>
    exact ⟨_, _, rfl, by decide +kernel, by decide +kernel, by decide +kernel⟩

/-- A reserved word that is read as such stands before the identifiers. -/
theorem Registry.idxOf_lt_of_tokenize {kinds : List Kind}
    (complete : IsComplete kinds) (isReserved : category ∈ Category.reserved)
    (same : tokenize kinds category.name =
      tokenize Registry.default category.name) :
    (kinds.map Kind.name).idxOf category.name <
      (kinds.map Kind.name).idxOf Category.identifier.name := by
  obtain ⟨rune, rest, readEq, matched, identifierMatched, tokensEq⟩ :=
    Category.matches_reserved isReserved
  cases found : Lexer.firstMatch? kinds (rune :: rest) with
  | none =>
      have refused := Lexer.firstMatch?_eq_none_iff.mp found category.kind
        ((complete _).mpr ⟨category, rfl⟩)
      exact absurd refused matched
  | some pair =>
      obtain ⟨kind, count⟩ := pair
      rw [← same, tokenize, readEq, Lexer.tokensFrom, found] at tokensEq
      obtain rfl : kind = category.kind := by simpa using tokensEq
      obtain ⟨before, after, rfl, -, refused⟩ :=
        Lexer.firstMatch?_eq_some_iff.mp found
      have absent : Category.identifier.name ∉ before.map Kind.name := by
        intro member
        have kindMem := complete.mem_of_name_mem (by simp) member
        exact identifierMatched (refused _ kindMem)
      have different : category.name ≠ Category.identifier.name := by
        intro sameName
        rw [Category.eq_of_name_eq sameName] at isReserved
        revert isReserved
        decide
      rw [List.map_append, List.map_cons, Category.name_kind,
        List.idxOf_append_of_notMem absent, List.idxOf_cons_ne _ different]
      by_cases member : category.name ∈ before.map Kind.name
      · have inside := List.idxOf_lt_length_of_mem member
        rw [List.idxOf_append_of_mem member]
        omega
      · rw [List.idxOf_append_of_notMem member, List.idxOf_cons_self]
        omega

end Converse

/-- The order of the default kinds matters for no text exactly if the reserved
words come before the identifiers. -/
theorem tokenize_perm_default_iff {kinds : List Kind}
    (perm : kinds.Perm Registry.default) :
    (∀ source, tokenize kinds source = tokenize Registry.default source) ↔
      Registry.ReservedFirst kinds := by
  have complete := Registry.isComplete_of_perm perm
  constructor
  · intro same category isReserved
    exact Registry.idxOf_lt_of_tokenize complete isReserved
      (same category.name)
  · intro first source
    have defaultFirst : Registry.ReservedFirst Registry.default := by
      rw [Registry.default_eq]
      decide
    have defaultComplete := Registry.isComplete_of_perm (.refl _)
    exact Lexer.tokensFrom_congr
      (Lexer.firstMatch?_eq_of_reservedFirst complete defaultComplete first
        defaultFirst) .start 0 (Rune.read source)

/-- Marks and integers may come first, but identifiers may not. -/
theorem tokenize_marks_first :
    let kinds := [Category.comma, .integer, .finish, .closing, .define,
      .identifier, .opening].map Category.kind
    let others := [Category.comma, .integer, .finish, .closing, .identifier,
      .define, .opening].map Category.kind
    (kinds.Perm Registry.default ∧
      ∀ source, tokenize kinds source = tokenize Registry.default source) ∧
    others.Perm Registry.default ∧
      ¬ ∀ source, tokenize others source =
        tokenize Registry.default source := by
  intro kinds others
  have perm : kinds.Perm Registry.default := by
    rw [Registry.default_eq]
    exact List.Perm.map Category.kind (by decide)
  have othersPerm : others.Perm Registry.default := by
    rw [Registry.default_eq]
    exact List.Perm.map Category.kind (by decide)
  refine ⟨⟨perm, ?_⟩, othersPerm, ?_⟩
  · exact (tokenize_perm_default_iff perm).mpr (by decide)
  · intro same
    have first := (tokenize_perm_default_iff othersPerm).mp same
    revert first
    decide

end Defun
