import Defun.Token.Lexer

/-!
# Splitting texts by any kinds

The first kind that matches at a place is the one in front of which no kind
matches there.  Splitting a text looks at nothing else of its kinds, and goes
on behind a lexeme as it begins.
-/

namespace Defun

/-- The place behind some runes. -/
def Position.advanceAll (position : Position) (text : List Rune) : Position :=
  text.foldl Position.advance position

namespace Lexer

variable {kinds others : List Kind} {kind : Kind} {count : Nat}
  {text : List Rune}

@[simp]
theorem firstMatch?_eq_none_iff :
    firstMatch? kinds text = none ↔
      ∀ kind ∈ kinds, kind.matchRunes? text = none := by
  simp [firstMatch?]

theorem firstMatch?_eq_some_iff :
    firstMatch? kinds text = some (kind, count) ↔
      ∃ before after, kinds = before ++ kind :: after ∧
        kind.matchRunes? text = some count ∧
        ∀ other ∈ before, other.matchRunes? text = none := by
  rw [firstMatch?, List.findSome?_eq_some_iff]
  constructor
  · rintro ⟨before, found, after, split, matched, refused⟩
    obtain ⟨taken, takenEq, pairEq⟩ := Option.map_eq_some_iff.mp matched
    cases pairEq
    exact ⟨before, after, split, takenEq, fun other member =>
      Option.map_eq_none_iff.mp (refused other member)⟩
  · rintro ⟨before, after, split, matched, refused⟩
    refine ⟨before, kind, after, split, by rw [matched]; rfl, ?_⟩
    intro other member
    rw [refused other member]
    rfl

theorem count_ne_zero_of_firstMatch?
    (found : firstMatch? kinds text = some (kind, count)) : count ≠ 0 := by
  obtain ⟨_, _, _, matched, _⟩ := firstMatch?_eq_some_iff.mp found
  rw [Kind.matchRunes?, Pattern.matchLength?, Option.filter_eq_some_iff]
    at matched
  simpa using matched.2

theorem tokensFrom_congr
    (same : ∀ rune rest,
      firstMatch? kinds (rune :: rest) = firstMatch? others (rune :: rest))
    (position : Position) (pending : Nat) (text : List Rune) :
    tokensFrom kinds position pending text =
      tokensFrom others position pending text := by
  induction text generalizing position pending with
  | nil => rfl
  | cons rune rest ih =>
      cases pending with
      | succ left => exact ih (position.advance rune) left
      | zero =>
          simp only [tokensFrom, same rune rest, ih]

theorem tokensFrom_eq_drop (kinds : List Kind) (position : Position)
    (pending : Nat) (text : List Rune) :
    tokensFrom kinds position pending text =
      tokensFrom kinds (position.advanceAll (text.take pending)) 0
        (text.drop pending) := by
  induction text generalizing position pending with
  | nil => cases pending <;> rfl
  | cons rune rest ih =>
      cases pending with
      | zero => rfl
      | succ left => exact ih (position.advance rune) left

@[simp]
theorem tokensFrom_length (kinds : List Kind) (position : Position)
    (text : List Rune) :
    tokensFrom kinds position text.length text = [] := by
  rw [tokensFrom_eq_drop, List.drop_length]
  rfl

end Lexer

end Defun
