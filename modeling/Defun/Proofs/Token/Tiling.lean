import Defun.Proofs.Text.Boundary
import Defun.Proofs.Token.Pieces

/-!
# Tilings by first matches

Any list of kinds cuts a text in exactly one way into lexemes and gaps, such
that each lexeme is the match of the first kind that matches where it begins
and each gap is made of whole runes at none of which a kind matches.  The tokens
of the text are its lexemes.

A tiling of a text goes on as splitting the text does.  Where no kind matches it
has the first rune in its first gap, and where one matches it begins with that
lexeme; in both cases the rest is a tiling of the rest of the text.
-/

namespace Defun

namespace Lexer

variable {kinds : List Kind} {text : Bytes} {kind : Kind} {count : Nat}

def NoneMatches (kinds : List Kind) (text : Bytes) : Prop :=
  ∀ kind ∈ kinds, kind.matchOctets? text = none

/-- A kind takes a number of octets at the beginning of a text, and no kind of
higher priority matches there. -/
def FirstMatches (kinds : List Kind) (text : Bytes) (kind : Kind)
    (count : Nat) : Prop :=
  ∃ before after, kinds = before ++ kind :: after ∧
    NoneMatches before text ∧ kind.matchOctets? text = some count

theorem noneMatches_iff :
    NoneMatches kinds text ↔ firstMatch? kinds (Rune.read text) = none := by
  simp [NoneMatches, Kind.matchOctets?]

/-- What matches in octets is what matches in runes. -/
theorem firstMatches_iff :
    FirstMatches kinds text kind count ↔
      ∃ runes, firstMatch? kinds (Rune.read text) = some (kind, runes) ∧
        (Rune.octetsOf ((Rune.read text).take runes)).length = count := by
  simp only [firstMatch?_eq_some_iff, FirstMatches, NoneMatches,
    Kind.matchOctets?, Option.map_eq_some_iff, Option.map_eq_none_iff]
  constructor
  · rintro ⟨before, after, split, refused, runes, matched, countEq⟩
    exact ⟨runes, ⟨before, after, split, matched, refused⟩, countEq⟩
  · rintro ⟨runes, ⟨before, after, split, matched, refused⟩, countEq⟩
    exact ⟨before, after, split, refused, runes, matched, countEq⟩

theorem FirstMatches.not_noneMatches
    (matched : FirstMatches kinds text kind count) :
    ¬ NoneMatches kinds text := by
  obtain ⟨runes, found, _⟩ := firstMatches_iff.mp matched
  rw [noneMatches_iff, found]
  exact Option.some_ne_none _

theorem FirstMatches.unique {other : Kind} {otherCount : Nat}
    (matched : FirstMatches kinds text kind count)
    (otherMatched : FirstMatches kinds text other otherCount) :
    kind = other ∧ count = otherCount := by
  obtain ⟨runes, found, rfl⟩ := firstMatches_iff.mp matched
  obtain ⟨otherRunes, otherFound, rfl⟩ := firstMatches_iff.mp otherMatched
  rw [found] at otherFound
  cases otherFound
  exact ⟨rfl, rfl⟩

theorem lexeme_ne_nil_of_firstMatch? (textNe : text ≠ [])
    (found : firstMatch? kinds (Rune.read text) = some (kind, count)) :
    Rune.octetsOf ((Rune.read text).take count) ≠ [] := by
  have cut := (List.take_append_drop count (Rune.read text)).symm
  refine Rune.octetsOf_ne_nil (Rune.read_octetsOf_left cut) ?_
  obtain ⟨octet, rest, rfl⟩ := List.exists_cons_of_ne_nil textNe
  rw [Ne, List.take_eq_nil_iff, Rune.read_cons]
  simpa using count_ne_zero_of_firstMatch? found

end Lexer

/-- Whole runes in front of a text, at none of which a kind matches. -/
inductive Gap (kinds : List Kind) : (gap after : Bytes) → Prop where
  | nil (after : Bytes) : Gap kinds [] after
  | rune {octet : UInt8} {tail gap after : Bytes}
      (whole : (Rune.first octet (tail ++ (gap ++ after))).octets =
        octet :: tail)
      (silent : Lexer.NoneMatches kinds (octet :: (tail ++ (gap ++ after))))
      (following : Gap kinds gap after) :
      Gap kinds (octet :: (tail ++ gap)) after

namespace Gap

variable {kinds : List Kind} {gap after : Bytes}

theorem noneMatches (isGap : Gap kinds gap after) (gapNe : gap ≠ []) :
    Lexer.NoneMatches kinds (gap ++ after) := by
  cases isGap with
  | nil => exact absurd rfl gapNe
  | rune whole silent following =>
      rw [List.cons_append, List.append_assoc]
      exact silent

/-- A gap behind its first rune. -/
theorem exists_following (isGap : Gap kinds gap after) (gapNe : gap ≠ [])
    {octet : UInt8} {tail others : Bytes}
    (textEq : gap ++ after = octet :: (tail ++ others))
    (whole : (Rune.first octet (tail ++ others)).octets = octet :: tail) :
    ∃ rest, gap = octet :: (tail ++ rest) ∧ others = rest ++ after ∧
      Gap kinds rest after := by
  cases isGap with
  | nil => exact absurd rfl gapNe
  | @rune first ownTail rest _ ownWhole silent following =>
      rw [List.cons_append, List.append_assoc] at textEq
      obtain ⟨rfl, restEq⟩ := List.cons.inj textEq
      -- Both runes are the first one of the same text.
      rw [restEq, whole] at ownWhole
      obtain rfl : tail = ownTail := (List.cons.inj ownWhole).2
      exact ⟨rest, rfl, (List.append_cancel_left restEq).symm, following⟩

end Gap

/-- A lexeme of a kind and the gap in front of it. -/
structure Tile where
  gap : Bytes
  kind : Kind
  lexeme : Bytes

/-- Lexemes with gaps between them and a gap at the end. -/
structure Tiling where
  tiles : List Tile
  last : Bytes

namespace Tiling

def textOf (tiles : List Tile) (last : Bytes) : Bytes :=
  tiles.flatMap (fun tile => tile.gap ++ tile.lexeme) ++ last

/-- The lexemes of some tiles with the places where they begin, if the first
tile begins at an offset. -/
def occurrencesFrom (offset : Int) : List Tile → List Occurrence
  | [] => []
  | tile :: rest =>
      ⟨some tile.kind, tile.lexeme, offset + tile.gap.length⟩ ::
        occurrencesFrom (offset + tile.gap.length + tile.lexeme.length) rest

def occurrences (tiling : Tiling) : List Occurrence :=
  occurrencesFrom 0 tiling.tiles

/-- A tiling of a text in which every lexeme is a first match and no kind
matches in a gap. -/
structure Fits (kinds : List Kind) (source : Bytes) (tiling : Tiling) :
    Prop where
  textOf_eq : textOf tiling.tiles tiling.last = source
  lexeme_ne : ∀ tile ∈ tiling.tiles, tile.lexeme ≠ []
  firstMatches : ∀ before tile after, tiling.tiles = before ++ tile :: after →
    Lexer.FirstMatches kinds (tile.lexeme ++ textOf after tiling.last)
      tile.kind tile.lexeme.length
  gap : ∀ before tile after, tiling.tiles = before ++ tile :: after →
    Gap kinds tile.gap (tile.lexeme ++ textOf after tiling.last)
  lastGap : Gap kinds tiling.last []

variable {kinds : List Kind} {source : Bytes}

@[simp]
theorem textOf_cons (tile : Tile) (rest : List Tile) (last : Bytes) :
    textOf (tile :: rest) last =
      tile.gap ++ (tile.lexeme ++ textOf rest last) := by
  simp [textOf]

theorem fits_nil_iff {last : Bytes} :
    Fits kinds source ⟨[], last⟩ ↔ last = source ∧ Gap kinds last [] := by
  constructor
  · intro fits
    exact ⟨fits.textOf_eq, fits.lastGap⟩
  · rintro ⟨rfl, isGap⟩
    refine ⟨rfl, List.forall_mem_nil _, ?_, ?_, isGap⟩
    · intro before tile after impossible
      simp at impossible
    · intro before tile after impossible
      simp at impossible

/-- A tiling is one tile in front of a tiling of the rest. -/
theorem fits_cons_iff {tile : Tile} {rest : List Tile} {last : Bytes} :
    Fits kinds source ⟨tile :: rest, last⟩ ↔
      ∃ after, source = tile.gap ++ (tile.lexeme ++ after) ∧
        tile.lexeme ≠ [] ∧
        Lexer.FirstMatches kinds (tile.lexeme ++ after) tile.kind
          tile.lexeme.length ∧
        Gap kinds tile.gap (tile.lexeme ++ after) ∧
        Fits kinds after ⟨rest, last⟩ := by
  constructor
  · rintro ⟨textEq, lexemeNe, matched, gap, lastGap⟩
    rw [textOf_cons] at textEq
    refine ⟨textOf rest last, textEq.symm, lexemeNe tile List.mem_cons_self,
      matched [] tile rest rfl, gap [] tile rest rfl, rfl, ?_, ?_, ?_, lastGap⟩
    · intro other member
      exact lexemeNe other (List.mem_cons_of_mem _ member)
    · intro before other after restEq
      exact matched (tile :: before) other after (congrArg (tile :: ·) restEq)
    · intro before other after restEq
      exact gap (tile :: before) other after (congrArg (tile :: ·) restEq)
  · rintro ⟨after, rfl, lexemeNe, matched, gap, fits⟩
    obtain ⟨rfl, restNe, restMatched, restGap, lastGap⟩ := fits
    refine ⟨textOf_cons tile rest last, ?_, ?_, ?_, lastGap⟩
    · exact List.forall_mem_cons.mpr ⟨lexemeNe, restNe⟩
    · intro before other after tilesEq
      cases before with
      | nil =>
          obtain ⟨rfl, rfl⟩ := List.cons.inj tilesEq
          exact matched
      | cons first before =>
          exact restMatched before other after (List.cons.inj tilesEq).2
    · intro before other after tilesEq
      cases before with
      | nil =>
          obtain ⟨rfl, rfl⟩ := List.cons.inj tilesEq
          exact gap
      | cons first before =>
          exact restGap before other after (List.cons.inj tilesEq).2

@[simp]
theorem fits_empty_iff (kinds : List Kind) (tiling : Tiling) :
    Fits kinds [] tiling ↔ tiling = ⟨[], []⟩ := by
  constructor
  · intro fits
    obtain ⟨tiles, last⟩ := tiling
    cases tiles with
    | nil => rw [(fits_nil_iff.mp fits).1]
    | cons tile rest =>
        obtain ⟨after, textEq, lexemeNe, _⟩ := fits_cons_iff.mp fits
        obtain ⟨_, restEmpty⟩ := List.append_eq_nil_iff.mp textEq.symm
        exact absurd (List.append_eq_nil_iff.mp restEmpty).1 lexemeNe
  · rintro rfl
    exact fits_nil_iff.mpr ⟨rfl, .nil _⟩

/-- A tiling with a rune more in its first gap. -/
def behindRune (rune : Bytes) : Tiling → Tiling
  | ⟨[], last⟩ => ⟨[], rune ++ last⟩
  | ⟨tile :: rest, last⟩ => ⟨{ tile with gap := rune ++ tile.gap } :: rest, last⟩

/-- A tiling with a lexeme more in front. -/
def behindLexeme (kind : Kind) (lexeme : Bytes) (tiling : Tiling) : Tiling :=
  ⟨⟨[], kind, lexeme⟩ :: tiling.tiles, tiling.last⟩

theorem occurrencesFrom_behindRune (offset : Int) (rune : Bytes)
    (tiling : Tiling) :
    occurrencesFrom offset (tiling.behindRune rune).tiles =
      occurrencesFrom (offset + rune.length) tiling.tiles := by
  obtain ⟨tiles, last⟩ := tiling
  cases tiles with
  | nil => rfl
  | cons tile rest =>
      simp only [behindRune, occurrencesFrom, List.length_append,
        Int.natCast_add, Int.add_assoc]

/-- Where no kind matches, a tiling has the first rune of the text in its first
gap. -/
theorem fits_iff_behindRune {octet : UInt8} {tail others : Bytes}
    (whole : (Rune.first octet (tail ++ others)).octets = octet :: tail)
    (silent : Lexer.NoneMatches kinds (octet :: (tail ++ others)))
    (tiling : Tiling) :
    Fits kinds (octet :: (tail ++ others)) tiling ↔
      ∃ rest, Fits kinds others rest ∧
        tiling = rest.behindRune (octet :: tail) := by
  constructor
  · intro fits
    obtain ⟨tiles, last⟩ := tiling
    cases tiles with
    | nil =>
        obtain ⟨rfl, isGap⟩ := fits_nil_iff.mp fits
        obtain ⟨rest, gapEq, othersEq, following⟩ :=
          isGap.exists_following (List.cons_ne_nil _ _) (List.append_nil _)
            whole
        rw [List.append_nil] at othersEq
        subst othersEq
        exact ⟨⟨[], others⟩, fits_nil_iff.mpr ⟨rfl, following⟩, rfl⟩
    | cons tile rest =>
        obtain ⟨after, textEq, lexemeNe, matched, isGap, following⟩ :=
          fits_cons_iff.mp fits
        have gapNe : tile.gap ≠ [] := by
          intro gapEmpty
          rw [gapEmpty, List.nil_append] at textEq
          rw [textEq] at silent
          exact matched.not_noneMatches silent
        obtain ⟨gap, gapEq, othersEq, gapFollowing⟩ :=
          isGap.exists_following gapNe textEq.symm whole
        refine ⟨⟨{ tile with gap := gap } :: rest, last⟩, ?_, ?_⟩
        · exact fits_cons_iff.mpr
            ⟨after, othersEq, lexemeNe, matched, gapFollowing, following⟩
        · rw [behindRune, List.cons_append, ← gapEq]
  · rintro ⟨⟨tiles, last⟩, fits, rfl⟩
    cases tiles with
    | nil =>
        obtain ⟨rfl, isGap⟩ := fits_nil_iff.mp fits
        refine fits_nil_iff.mpr ⟨rfl, ?_⟩
        exact .rune (by rwa [List.append_nil]) (by rwa [List.append_nil]) isGap
    | cons tile rest =>
        obtain ⟨after, rfl, lexemeNe, matched, isGap, following⟩ :=
          fits_cons_iff.mp fits
        refine fits_cons_iff.mpr
          ⟨after, ?_, lexemeNe, matched, .rune whole silent isGap, following⟩
        simp

/-- Where a kind matches, a tiling begins with the lexeme of the first one. -/
theorem fits_iff_behindLexeme {kind : Kind} {lexeme others : Bytes}
    (lexemeNe : lexeme ≠ [])
    (matched : Lexer.FirstMatches kinds (lexeme ++ others) kind lexeme.length)
    (tiling : Tiling) :
    Fits kinds (lexeme ++ others) tiling ↔
      ∃ rest, Fits kinds others rest ∧
        tiling = rest.behindLexeme kind lexeme := by
  constructor
  · intro fits
    obtain ⟨tiles, last⟩ := tiling
    cases tiles with
    | nil =>
        obtain ⟨rfl, isGap⟩ := fits_nil_iff.mp fits
        have silent := isGap.noneMatches
          (List.append_ne_nil_of_left_ne_nil lexemeNe others)
        rw [List.append_nil] at silent
        exact absurd silent matched.not_noneMatches
    | cons tile rest =>
        obtain ⟨gap, own, ownLexeme⟩ := tile
        obtain ⟨after, textEq, ownNe, ownMatched, isGap, following⟩ :=
          fits_cons_iff.mp fits
        simp only at textEq ownMatched isGap
        have gapEmpty : gap = [] := by
          by_contra gapNe
          have silent := isGap.noneMatches gapNe
          rw [← textEq] at silent
          exact matched.not_noneMatches silent
        subst gapEmpty
        rw [List.nil_append] at textEq
        rw [← textEq] at ownMatched
        obtain ⟨rfl, lengthEq⟩ := matched.unique ownMatched
        obtain ⟨rfl, rfl⟩ := List.append_inj textEq lengthEq
        exact ⟨⟨rest, last⟩, following, rfl⟩
  · rintro ⟨rest, fits, rfl⟩
    exact fits_cons_iff.mpr
      ⟨others, rfl, lexemeNe, matched, .nil _, fits⟩

end Tiling

namespace Lexer

theorem tokensFrom_of_firstMatch? {kinds : List Kind} {text : Bytes}
    {kind : Kind} {count : Nat} (textNe : text ≠ [])
    (found : firstMatch? kinds (Rune.read text) = some (kind, count))
    (position : Position) :
    tokensFrom kinds position 0 (Rune.read text) =
      ⟨some kind, Rune.octetsOf ((Rune.read text).take count), position⟩ ::
        tokensFrom kinds (position.advanceAll ((Rune.read text).take count)) 0
          ((Rune.read text).drop count) := by
  obtain ⟨octet, rest, rfl⟩ := List.exists_cons_of_ne_nil textNe
  obtain ⟨more, rfl⟩ :=
    Nat.exists_eq_succ_of_ne_zero (count_ne_zero_of_firstMatch? found)
  rw [Rune.read_cons] at found ⊢
  rw [tokensFrom, found]
  simp only [Nat.succ_eq_add_one, Nat.add_sub_cancel]
  rw [tokensFrom_eq_drop]
  rfl

/-- A tiling that is the only one of a text, and whose lexemes are the tokens
of the text wherever it begins. -/
structure Tiled (kinds : List Kind) (text : Bytes) (tiling : Tiling) :
    Prop where
  fits_iff : ∀ other, Tiling.Fits kinds text other ↔ other = tiling
  tokens_eq : ∀ position : Position,
    (tokensFrom kinds position 0 (Rune.read text)).map Token.occurrence =
      Tiling.occurrencesFrom position.offset tiling.tiles

section Step

variable {kinds : List Kind} {tiling : Tiling}

/-- Splitting a text drops its first rune where no kind matches. -/
theorem Tiled.behindRune {octet : UInt8} {tail others : Bytes}
    (whole : (Rune.first octet (tail ++ others)).octets = octet :: tail)
    (refused : firstMatch? kinds (Rune.read (octet :: (tail ++ others))) =
      none)
    (following : Tiled kinds others tiling) :
    Tiled kinds (octet :: (tail ++ others))
      (tiling.behindRune (octet :: tail)) where
  fits_iff other := by
    rw [Tiling.fits_iff_behindRune whole (noneMatches_iff.mpr refused)]
    simp only [following.fits_iff, exists_eq_left]
  tokens_eq position := by
    rw [Rune.read_cons_of_octets whole] at refused ⊢
    rw [tokensFrom, refused, Tiling.occurrencesFrom_behindRune]
    simp only [following.tokens_eq]
    simp [Rune.width, whole]

/-- Splitting a text takes the lexeme of the first kind that matches. -/
theorem Tiled.behindLexeme {text : Bytes} {kind : Kind} {count : Nat}
    (textNe : text ≠ [])
    (found : firstMatch? kinds (Rune.read text) = some (kind, count))
    (following :
      Tiled kinds (Rune.octetsOf ((Rune.read text).drop count)) tiling) :
    Tiled kinds text
      (tiling.behindLexeme kind
        (Rune.octetsOf ((Rune.read text).take count))) := by
  have cut := (List.take_append_drop count (Rune.read text)).symm
  refine ⟨fun other => ?_, fun position => ?_⟩
  · have lexemeNe := lexeme_ne_nil_of_firstMatch? textNe found
    have matched := firstMatches_iff.mpr ⟨count, found, rfl⟩
    have textEq := Rune.eq_octetsOf_append cut
    generalize Rune.octetsOf ((Rune.read text).take count) = lexeme at *
    generalize Rune.octetsOf ((Rune.read text).drop count) = others at *
    rw [textEq] at matched ⊢
    rw [Tiling.fits_iff_behindLexeme lexemeNe matched]
    simp only [following.fits_iff, exists_eq_left]
  · have restEq := following.tokens_eq
    rw [Rune.read_octetsOf_right cut] at restEq
    have faithful : ∀ rune ∈ (Rune.read text).take count, rune.Faithful :=
      fun rune member => Rune.faithful_of_mem_read (List.mem_of_mem_take member)
    have offsetEq := (Position.advanceAll_offset_line faithful position).1
    rw [tokensFrom_of_firstMatch? textNe found, List.map_cons, restEq, offsetEq,
      Tiling.behindLexeme, Tiling.occurrencesFrom]
    simp [Token.occurrence]

end Step

theorem exists_tiled (kinds : List Kind) (text : Bytes) :
    ∃ tiling, Tiled kinds text tiling := by
  -- A lexeme may have many runes, so the induction is on the octets left.
  induction bound : text.length using Nat.strongRecOn generalizing text with
  | ind length ih =>
      cases text with
      | nil => exact ⟨⟨[], []⟩, Tiling.fits_empty_iff kinds, fun _ => rfl⟩
      | cons octet rest =>
          cases found : firstMatch? kinds (Rune.read (octet :: rest)) with
          | none =>
              obtain ⟨tail, others, rfl, whole, _⟩ :=
                Rune.first_octets octet rest
              have shorter : others.length < length := by
                rw [← bound, List.length_cons, List.length_append]
                omega
              obtain ⟨tiling, following⟩ := ih others.length shorter others rfl
              exact ⟨_, following.behindRune whole found⟩
          | some result =>
              obtain ⟨kind, count⟩ := result
              have textNe := List.cons_ne_nil octet rest
              have cut :=
                (List.take_append_drop count (Rune.read (octet :: rest))).symm
              have shorter : (Rune.octetsOf
                  ((Rune.read (octet :: rest)).drop count)).length < length := by
                have positive := List.length_pos_iff.mpr
                  (lexeme_ne_nil_of_firstMatch? textNe found)
                have lengthEq := congrArg List.length
                  (Rune.eq_octetsOf_append cut)
                rw [List.length_append] at lengthEq
                omega
              obtain ⟨tiling, following⟩ := ih _ shorter _ rfl
              exact ⟨_, following.behindLexeme textNe found⟩

end Lexer

/-- The tokens of a text, for any registry, are the lexemes of the one tiling
of the text by first matches. -/
theorem tokenize_eq_unique_tiling (kinds : List Kind) (source : Bytes) :
    (∃! tiling, Tiling.Fits kinds source tiling) ∧
    ∀ occurrences,
      (tokenize kinds source).map Token.occurrence = occurrences ↔
        ∃ tiling, Tiling.Fits kinds source tiling ∧
          tiling.occurrences = occurrences := by
  obtain ⟨tiling, fits_iff, tokensEq⟩ := Lexer.exists_tiled kinds source
  have fits := (fits_iff tiling).mpr rfl
  refine ⟨⟨tiling, fits, fun other => (fits_iff other).mp⟩, ?_⟩
  intro occurrences
  rw [tokenize, tokensEq]
  constructor
  · rintro rfl
    exact ⟨tiling, fits, rfl⟩
  · rintro ⟨other, otherFits, rfl⟩
    rw [(fits_iff other).mp otherFits]
    rfl

/-- A kind that matches the empty text takes no place, nor does one that matches
further on only. -/
example :
    let kinds : List Kind :=
      [("blank", " *"), ("late", "c"), ("word", "[a-z]+")].filterMap
        fun (name, pattern) => (Kind.compile name pattern).toOption
    tokenize kinds ("ab" ++ 0xC3 :: Bytes.ofString "  c") =
      [⟨kinds[2]?, "ab", ⟨0, 1, 1⟩⟩, ⟨kinds[0]?, "  ", ⟨3, 1, 4⟩⟩,
        ⟨kinds[1]?, "c", ⟨5, 1, 6⟩⟩] := by
  decide +kernel

end Defun
