import Defun.Unicode.GeneralCategory

/-!
# Printable and blank characters

A character is printable if it is a letter, a mark, a number, a punctuation
mark or a symbol of Unicode, or the plain space.
-/

namespace Defun

namespace Printable

/-- Letters, marks, numbers, punctuation and symbols. -/
def visible : CharSet :=
  ⟨['L', 'M', 'N', 'P', 'S'].flatMap fun letter =>
    (GeneralCategory.major letter).ranges⟩

/-- Whether a character is shown as it is in quoted texts. -/
def isPrintable (char : Char) : Bool :=
  if char.toNat < 0x7F then 0x20 ≤ char.toNat
  else visible.contains char.toNat

def blanks : CharSet :=
  ⟨[(0x09, 0x0D), (0x20, 0x20), (0x85, 0x85), (0xA0, 0xA0), (0x1680, 0x1680),
    (0x2000, 0x200A), (0x2028, 0x2029), (0x202F, 0x202F), (0x205F, 0x205F),
    (0x3000, 0x3000)]⟩

def isBlank (char : Char) : Bool :=
  blanks.contains char.toNat

end Printable

end Defun
