import Defun.Encoding.Unicode
import Defun.Proofs.Text.Rune

/-!
# Characters in UTF-8

Characters that are written as UTF-8 are read back as they were, and octets that
continue a sequence are malformed where none has begun.  A text condenses to
another if both have the same ASCII characters and something beyond ASCII at the
same places between them, though not as much of it.
-/

namespace Defun

namespace Lead

variable {octet : UInt8}

theorem of?_eq_none (below : octet.toNat < 0xC2) : Lead.of? octet = none := by
  rw [Lead.of?, if_pos (UInt8.lt_iff_toNat_lt.mpr below)]

theorem of?_two (lower : 0xC2 ≤ octet.toNat) (upper : octet.toNat < 0xE0) :
    Lead.of? octet = some ⟨1, 0x80, 0xBF, octet.toNat - 0xC0⟩ := by
  simp only [Lead.of?, UInt8.lt_iff_toNat_lt, UInt8.reduceToNat]
  rw [if_neg (Nat.not_lt.mpr lower), if_pos upper]

theorem of?_three (lower : 0xE0 ≤ octet.toNat) (upper : octet.toNat < 0xF0) :
    Lead.of? octet = some ⟨2, if octet = 0xE0 then 0xA0 else 0x80,
      if octet = 0xED then 0x9F else 0xBF, octet.toNat - 0xE0⟩ := by
  simp only [Lead.of?, UInt8.lt_iff_toNat_lt, UInt8.reduceToNat]
  rw [if_neg (by omega), if_neg (Nat.not_lt.mpr lower), if_pos upper]

theorem of?_four (lower : 0xF0 ≤ octet.toNat) (upper : octet.toNat < 0xF5) :
    Lead.of? octet = some ⟨3, if octet = 0xF0 then 0x90 else 0x80,
      if octet = 0xF4 then 0x8F else 0xBF, octet.toNat - 0xF0⟩ := by
  simp only [Lead.of?, UInt8.lt_iff_toNat_lt, UInt8.reduceToNat]
  rw [if_neg (by omega), if_neg (by omega), if_neg (Nat.not_lt.mpr lower),
    if_pos upper]

end Lead

namespace Rune

section Sequence

variable (lead : UInt8) {second third fourth : UInt8} (rest : Bytes)

theorem sequence?_two (lower : 0xC2 ≤ lead.toNat) (upper : lead.toNat < 0xE0)
    (continued : isContinuation second = true) :
    sequence? lead (second :: rest) =
      some ⟨Char.ofNat ((lead.toNat - 0xC0) * 64 + (second.toNat - 0x80)),
        [lead, second]⟩ := by
  rw [isContinuation_iff] at continued
  simp [sequence?, Lead.of?_two lower upper, UInt8.lt_iff_toNat_lt, continued]

theorem sequence?_three (lower : 0xE0 ≤ lead.toNat) (upper : lead.toNat < 0xF0)
    (secondContinues : isContinuation second = true)
    (notOverlong : lead.toNat = 0xE0 → 0xA0 ≤ second.toNat)
    (notSurrogate : lead.toNat = 0xED → second.toNat ≤ 0x9F)
    (thirdContinues : isContinuation third = true) :
    sequence? lead (second :: third :: rest) =
      some ⟨Char.ofNat (((lead.toNat - 0xE0) * 64 + (second.toNat - 0x80)) * 64 +
          (third.toNat - 0x80)), [lead, second, third]⟩ := by
  rw [isContinuation_iff] at secondContinues
  have inBounds : (second < (if lead = 0xE0 then 0xA0 else 0x80) ||
      (if lead = 0xED then 0x9F else 0xBF) < second) = false := by
    simp only [Bool.or_eq_false_iff, decide_eq_false_iff_not,
      UInt8.lt_iff_toNat_lt, ← UInt8.toNat_inj, UInt8.reduceToNat, Nat.not_lt]
    constructor
    · split <;> simp only [UInt8.reduceToNat] <;> omega
    · split <;> simp only [UInt8.reduceToNat] <;> omega
  simp only [sequence?, Lead.of?_three lower upper, inBounds, thirdContinues,
    Bool.false_eq_true, if_false, if_true]

theorem sequence?_four (lower : 0xF0 ≤ lead.toNat) (upper : lead.toNat < 0xF5)
    (secondContinues : isContinuation second = true)
    (notOverlong : lead.toNat = 0xF0 → 0x90 ≤ second.toNat)
    (notBeyond : lead.toNat = 0xF4 → second.toNat ≤ 0x8F)
    (thirdContinues : isContinuation third = true)
    (fourthContinues : isContinuation fourth = true) :
    sequence? lead (second :: third :: fourth :: rest) =
      some ⟨Char.ofNat ((((lead.toNat - 0xF0) * 64 + (second.toNat - 0x80)) * 64 +
          (third.toNat - 0x80)) * 64 + (fourth.toNat - 0x80)),
        [lead, second, third, fourth]⟩ := by
  rw [isContinuation_iff] at secondContinues
  have inBounds : (second < (if lead = 0xF0 then 0x90 else 0x80) ||
      (if lead = 0xF4 then 0x8F else 0xBF) < second) = false := by
    simp only [Bool.or_eq_false_iff, decide_eq_false_iff_not,
      UInt8.lt_iff_toNat_lt, ← UInt8.toNat_inj, UInt8.reduceToNat, Nat.not_lt]
    constructor
    · split <;> simp only [UInt8.reduceToNat] <;> omega
    · split <;> simp only [UInt8.reduceToNat] <;> omega
  simp only [sequence?, Lead.of?_four lower upper, inBounds, thirdContinues,
    fourthContinues, Bool.false_eq_true, if_false, if_true, Bool.and_self]

end Sequence

/-- An octet that carries the lowest six bits of a number behind a mark. -/
@[simp]
theorem isContinuation_ofNat (value : Nat) :
    isContinuation (UInt8.ofNat (value % 64 + 128)) = true := by
  rw [isContinuation_iff, UInt8.toNat_ofNat']
  omega

theorem toNat_ofNat_of_lt (value : Nat) (small : value < 256) :
    (UInt8.ofNat value).toNat = value := by
  rw [UInt8.toNat_ofNat', Nat.mod_eq_of_lt small]

theorem not_ascii_of_le {octet : UInt8} (beyond : 0x80 ≤ octet.toNat) :
    ¬ octet < 0x80 := by
  rw [UInt8.lt_iff_toNat_lt]
  exact Nat.not_lt.mpr beyond

theorem first_of_sequence? {octet : UInt8} {rest : Bytes} {rune : Rune}
    (notAscii : ¬ octet < 0x80) (found : sequence? octet rest = some rune) :
    first octet rest = rune := by
  rw [first, if_neg notAscii, found, Option.getD_some]

/-- The UTF-8 octets of a character are read as that character, whatever
follows. -/
theorem exists_first_ofChar (char : Char) :
    ∃ octet tail, Bytes.ofChar char = octet :: tail ∧
      ∀ rest, first octet (tail ++ rest) = ofChar char := by
  have charEq : Char.ofNat char.val.toNat = char := Char.ofNat_toNat char
  have valid : char.val.toNat.isValidChar := char.valid
  rw [ofChar]
  simp only [Bytes.ofChar, String.utf8EncodeChar]
  generalize char.val.toNat = value at charEq valid ⊢
  simp only [Nat.isValidChar] at valid
  have lastEq := toNat_ofNat_of_lt (value % 64 + 128) (by omega)
  have middleEq := toNat_ofNat_of_lt (value / 64 % 64 + 128) (by omega)
  have upperEq := toNat_ofNat_of_lt (value / 4096 % 64 + 128) (by omega)
  split
  · refine ⟨_, _, rfl, ?_⟩
    intro rest
    have leadEq := toNat_ofNat_of_lt value (by omega)
    have isAscii : UInt8.ofNat value < 0x80 := by
      rw [UInt8.lt_iff_toNat_lt, leadEq]
      exact Nat.lt_succ_of_le ‹value ≤ 127›
    rw [first, if_pos isAscii, leadEq, charEq]
  split
  · refine ⟨_, _, rfl, ?_⟩
    intro rest
    have leadEq := toNat_ofNat_of_lt (value / 64 % 32 + 192) (by omega)
    have valueEq : (value / 64 % 32 + 192 - 0xC0) * 64 +
        (value % 64 + 128 - 0x80) = value := by omega
    have found := sequence?_two (.ofNat (value / 64 % 32 + 192)) rest
      (by omega) (by omega)
      (isContinuation_ofNat value)
    rw [leadEq, lastEq, valueEq, charEq] at found
    exact first_of_sequence? (not_ascii_of_le (by omega)) found
  split
  · refine ⟨_, _, rfl, ?_⟩
    intro rest
    have leadEq := toNat_ofNat_of_lt (value / 4096 % 16 + 224) (by omega)
    have valueEq : ((value / 4096 % 16 + 224 - 0xE0) * 64 +
        (value / 64 % 64 + 128 - 0x80)) * 64 + (value % 64 + 128 - 0x80) =
          value := by omega
    have found := sequence?_three (.ofNat (value / 4096 % 16 + 224)) rest
      (by omega) (by omega)
      (isContinuation_ofNat (value / 64)) (by omega) (by omega)
      (isContinuation_ofNat value)
    rw [leadEq, middleEq, lastEq, valueEq, charEq] at found
    exact first_of_sequence? (not_ascii_of_le (by omega)) found
  · refine ⟨_, _, rfl, ?_⟩
    intro rest
    have leadEq := toNat_ofNat_of_lt (value / 262144 % 8 + 240) (by omega)
    have valueEq : (((value / 262144 % 8 + 240 - 0xF0) * 64 +
        (value / 4096 % 64 + 128 - 0x80)) * 64 +
          (value / 64 % 64 + 128 - 0x80)) * 64 + (value % 64 + 128 - 0x80) =
            value := by omega
    have found := sequence?_four (.ofNat (value / 262144 % 8 + 240)) rest
      (by omega) (by omega)
      (isContinuation_ofNat (value / 4096)) (by omega) (by omega)
      (isContinuation_ofNat (value / 64)) (isContinuation_ofNat value)
    rw [leadEq, upperEq, middleEq, lastEq, valueEq, charEq] at found
    exact first_of_sequence? (not_ascii_of_le (by omega)) found

theorem ofChar_ascii {octet : UInt8} (isAscii : octet < 0x80) :
    ofChar (Encoding.ascii octet) = ascii octet := by
  have charEq : Encoding.ascii octet = (ascii octet).char := rfl
  have codeEq : (ascii octet).char.val.toNat = octet.toNat :=
    ascii_char_toNat octet
  rw [UInt8.lt_iff_toNat_lt] at isAscii
  have small : octet.toNat ≤ 127 := Nat.le_of_lt_succ isAscii
  rw [ofChar, charEq, String.utf8EncodeChar, codeEq, if_pos small,
    UInt8.ofNat_toNat]
  rfl

/-- The rune of an octet that belongs to no well-formed sequence. -/
def malformed (octet : UInt8) : Rune := ⟨replacement, [octet]⟩

theorem beyond_malformed (octet : UInt8) : 0x80 ≤ (malformed octet).char.toNat :=
  show 0x80 ≤ replacement.toNat by decide

theorem first_of_sequence?_eq_none {octet : UInt8} {rest : Bytes}
    (notAscii : ¬ octet < 0x80) (refused : sequence? octet rest = none) :
    first octet rest = malformed octet := by
  rw [first, if_neg notAscii, refused]
  rfl

/-- Octets that can only go on with a sequence are malformed where none has
begun. -/
theorem read_continuations {octets : Bytes}
    (continuing : ∀ octet ∈ octets, isContinuation octet = true) (rest : Bytes) :
    read (octets ++ rest) = octets.map malformed ++ read rest := by
  induction octets with
  | nil => rfl
  | cons octet octets ih =>
      obtain ⟨isFirst, others⟩ := List.forall_mem_cons.mp continuing
      rw [isContinuation_iff] at isFirst
      have notAscii := not_ascii_of_le isFirst.1
      have noLead : Lead.of? octet = none := Lead.of?_eq_none (by omega)
      have refused : sequence? octet (octets ++ rest) = none := by
        simp [sequence?, noLead]
      rw [List.cons_append, read_cons,
        first_of_sequence?_eq_none notAscii refused, List.map_cons,
        List.cons_append, ← ih others]
      rfl

/-- The second text has the ASCII characters of the first one.  What stands
between them is beyond ASCII in both, and there is something in the one text
exactly if there is something in the other. -/
inductive Condenses : List Rune → List Rune → Prop where
  | nil : Condenses [] []
  | ascii {octet : UInt8} {left right : List Rune} (isAscii : octet < 0x80)
      (following : Condenses left right) :
      Condenses (ascii octet :: left) (ascii octet :: right)
  | beyond {rune other : Rune} {more left right : List Rune}
      (leftBeyond : ∀ piece ∈ rune :: more, 0x80 ≤ piece.char.toNat)
      (rightBeyond : 0x80 ≤ other.char.toNat)
      (following : Condenses left right) :
      Condenses (rune :: (more ++ left)) (other :: right)

end Rune

end Defun
