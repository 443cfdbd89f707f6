import Defun.Text.Decimal
import Defun.Token

/-!
# Terminals of the grammar

A terminal is a token whose kind carries the name of a category.  The names of
the categories are pairwise different, so a token is a terminal of at most one
category, and looking a category up by name finds exactly that one.
-/

namespace Defun

namespace Category

@[simp]
theorem ofName?_name (category : Category) :
    ofName? category.name = some category := by
  cases category <;> decide

@[simp]
theorem ofName?_eq_some_iff {name : Bytes} {category : Category} :
    ofName? name = some category ↔ name = category.name := by
  constructor
  · intro found
    have matched := List.find?_some found
    exact (beq_iff_eq.mp matched).symm
  · rintro rfl
    exact ofName?_name category

theorem eq_of_name_eq {first second : Category}
    (nameEq : first.name = second.name) : first = second := by
  have found : ofName? first.name = some second :=
    ofName?_eq_some_iff.mpr nameEq
  rw [ofName?_name] at found
  exact Option.some.inj found

/-- A token of a category, at no place in particular. -/
def token (category : Category) (lexeme : Bytes) : Token :=
  ⟨some (.silent category.name), lexeme, Token.absent.position⟩

end Category

theorem Token.category?_eq_some_iff {token : Token} {category : Category} :
    token.category? = some category ↔ token.kindName? = some category.name := by
  rw [Token.category?, Option.bind_eq_some_iff]
  constructor
  · rintro ⟨name, nameEq, found⟩
    rw [nameEq, Category.ofName?_eq_some_iff.mp found]
  · intro nameEq
    exact ⟨category.name, nameEq, Category.ofName?_name category⟩

@[simp]
theorem Category.token_category? (category : Category) (lexeme : Bytes) :
    (category.token lexeme).category? = some category :=
  Token.category?_eq_some_iff.mpr rfl

/-- A token of a given category. -/
@[ext]
structure Terminal (category : Category) where
  token : Token
  kindName?_eq : token.kindName? = some category.name

/-- A token whose lexeme denotes an integer of 32 bits. -/
@[ext]
structure Numeral extends Terminal .integer where
  value : Int
  denotes : Decimal.toWord? token.lexeme = some value

@[simp]
theorem Terminal.category? {category : Category}
    (terminal : Terminal category) :
    terminal.token.category? = some category :=
  Token.category?_eq_some_iff.mpr terminal.kindName?_eq

/-- The terminal that a token of the right category is. -/
def Token.terminal {category : Category} (token : Token)
    (categoryEq : token.category? = some category) : Terminal category :=
  ⟨token, Token.category?_eq_some_iff.mp categoryEq⟩

/-- A token is a terminal of one category only. -/
theorem Terminal.category_eq {first second : Category}
    (left : Terminal first) (right : Terminal second)
    (tokenEq : left.token = right.token) : first = second := by
  have categoryEq := left.category?
  rw [tokenEq, right.category?] at categoryEq
  exact (Option.some.inj categoryEq).symm

/-- A numeral is determined by its token. -/
theorem Numeral.eq_of_token {first second : Numeral}
    (tokenEq : first.token = second.token) : first = second := by
  have valueEq : some first.value = some second.value := by
    rw [← first.denotes, ← second.denotes, tokenEq]
  exact Numeral.ext tokenEq (Option.some.inj valueEq)

/-- The same token at another place. -/
def Token.relocated (change : Position → Position) (token : Token) : Token :=
  { token with position := change token.position }

end Defun
