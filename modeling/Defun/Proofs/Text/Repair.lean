import Mathlib.Data.List.Basic
import Defun.Proofs.Text.Utf8

/-!
# Repairing UTF-8

A text is repaired if its well-formed sequences are copied and each longest
piece that could begin one but does not, or single octet that could not, becomes
one U+FFFD.  Repairing keeps the ASCII octets of a text and where others stand
between them, and decoding UTF-8 is a way to do it.
-/

namespace Defun

namespace Utf8

/-- Octets that a well-formed sequence can begin with, though they are none. -/
def Begins (piece : Bytes) : Prop :=
  ∃ char more, more ≠ [] ∧ Bytes.ofChar char = piece ++ more

/-- The longest malformed piece at the front of a text: no well-formed sequence
stands there, and the piece is a single octet or could begin one, but not
together with what follows. -/
structure IsMalformed (piece rest : Bytes) : Prop where
  ne_nil : piece ≠ []
  no_sequence : ∀ char, ¬ Bytes.ofChar char <+: piece ++ rest
  begins : piece.length = 1 ∨ Begins piece
  longest : ∀ next others, rest = next :: others → ¬ Begins (piece ++ [next])

/-- Well-formed sequences are copied, and malformed pieces are replaced. -/
inductive Repairs : Bytes → Bytes → Prop where
  | nil : Repairs [] []
  | copy {text repaired : Bytes} (char : Char)
      (following : Repairs text repaired) :
      Repairs (Bytes.ofChar char ++ text) (Bytes.ofChar char ++ repaired)
  | replace {piece text repaired : Bytes} (malformed : IsMalformed piece text)
      (following : Repairs text repaired) :
      Repairs (piece ++ text) (Bytes.ofChar replacement ++ repaired)

end Utf8

namespace Rune

@[simp]
theorem read_ofChar_append (char : Char) (rest : Bytes) :
    read (Bytes.ofChar char ++ rest) = ofChar char :: read rest := by
  obtain ⟨octet, tail, octetsEq, firstEq⟩ := exists_first_ofChar char
  have whole : (first octet (tail ++ rest)).octets = octet :: tail := by
    rw [firstEq, ofChar, ← octetsEq]
    rfl
  rw [octetsEq, List.cons_append, read_cons_of_octets whole, firstEq]

theorem faithful_ofChar (char : Char) : (ofChar char).Faithful := by
  have readEq := read_ofChar_append char []
  exact faithful_of_mem_read (readEq ▸ List.mem_cons_self)

theorem ofNat_eq_of_toNat {value : Nat} (octet : UInt8)
    (same : value = octet.toNat) : UInt8.ofNat value = octet := by
  rw [same, UInt8.ofNat_toNat]

section Encoding

variable {lead second third fourth : UInt8}

theorem ofChar_two (lower : 0xC2 ≤ lead.toNat) (upper : lead.toNat < 0xE0)
    (secondContinues : isContinuation second = true) :
    Bytes.ofChar (Char.ofNat ((lead.toNat - 0xC0) * 64 +
      (second.toNat - 0x80))) = [lead, second] := by
  rw [isContinuation_iff] at secondContinues
  generalize valueEq : (lead.toNat - 0xC0) * 64 + (second.toNat - 0x80) = value
  have valid : value.isValidChar := by
    simp only [Nat.isValidChar]
    omega
  have codeEq : (Char.ofNat value).val.toNat = value := toNat_char_of_valid valid
  simp only [Bytes.ofChar, String.utf8EncodeChar, codeEq]
  rw [if_neg (by omega), if_pos (by omega),
    ofNat_eq_of_toNat lead (by omega), ofNat_eq_of_toNat second (by omega)]

theorem ofChar_three (lower : 0xE0 ≤ lead.toNat) (upper : lead.toNat < 0xF0)
    (secondContinues : isContinuation second = true)
    (notOverlong : lead.toNat = 0xE0 → 0xA0 ≤ second.toNat)
    (notSurrogate : lead.toNat = 0xED → second.toNat ≤ 0x9F)
    (thirdContinues : isContinuation third = true) :
    Bytes.ofChar (Char.ofNat (((lead.toNat - 0xE0) * 64 +
      (second.toNat - 0x80)) * 64 + (third.toNat - 0x80))) =
        [lead, second, third] := by
  rw [isContinuation_iff] at secondContinues thirdContinues
  generalize valueEq : ((lead.toNat - 0xE0) * 64 + (second.toNat - 0x80)) * 64 +
    (third.toNat - 0x80) = value
  have valid : value.isValidChar := by
    simp only [Nat.isValidChar]
    omega
  have codeEq : (Char.ofNat value).val.toNat = value := toNat_char_of_valid valid
  simp only [Bytes.ofChar, String.utf8EncodeChar, codeEq]
  rw [if_neg (by omega), if_neg (by omega), if_pos (by omega),
    ofNat_eq_of_toNat lead (by omega), ofNat_eq_of_toNat second (by omega),
    ofNat_eq_of_toNat third (by omega)]

theorem ofChar_four (lower : 0xF0 ≤ lead.toNat) (upper : lead.toNat < 0xF5)
    (secondContinues : isContinuation second = true)
    (notOverlong : lead.toNat = 0xF0 → 0x90 ≤ second.toNat)
    (notBeyond : lead.toNat = 0xF4 → second.toNat ≤ 0x8F)
    (thirdContinues : isContinuation third = true)
    (fourthContinues : isContinuation fourth = true) :
    Bytes.ofChar (Char.ofNat ((((lead.toNat - 0xF0) * 64 +
      (second.toNat - 0x80)) * 64 + (third.toNat - 0x80)) * 64 +
        (fourth.toNat - 0x80))) = [lead, second, third, fourth] := by
  rw [isContinuation_iff] at secondContinues thirdContinues fourthContinues
  generalize valueEq : (((lead.toNat - 0xF0) * 64 +
    (second.toNat - 0x80)) * 64 + (third.toNat - 0x80)) * 64 +
      (fourth.toNat - 0x80) = value
  have valid : value.isValidChar := by
    simp only [Nat.isValidChar]
    omega
  have codeEq : (Char.ofNat value).val.toNat = value := toNat_char_of_valid valid
  simp only [Bytes.ofChar, String.utf8EncodeChar, codeEq]
  rw [if_neg (by omega), if_neg (by omega), if_neg (by omega),
    ofNat_eq_of_toNat lead (by omega), ofNat_eq_of_toNat second (by omega),
    ofNat_eq_of_toNat third (by omega), ofNat_eq_of_toNat fourth (by omega)]

end Encoding

end Rune

namespace Lead

theorem of?_eq_none_of_beyond {octet : UInt8} (beyond : 0xF5 ≤ octet.toNat) :
    Lead.of? octet = none := by
  simp only [Lead.of?, UInt8.lt_iff_toNat_lt, UInt8.reduceToNat]
  rw [if_neg (by omega), if_neg (by omega), if_neg (by omega),
    if_neg (by omega)]

/-- Octets that may stand behind a lead octet: the first of them is within its
bounds, and the others continue the sequence. -/
structure Admits (lead : Lead) (tail : Bytes) : Prop where
  bounds : ∀ second ∈ tail.head?, lead.lower ≤ second ∧ second ≤ lead.upper
  continues : ∀ octet ∈ tail.tail, isContinuation octet = true

variable {lead : Lead} {octet : UInt8} {tail more : Bytes}

theorem Admits.of_append (admits : lead.Admits (tail ++ more)) :
    lead.Admits tail := by
  cases tail with
  | nil => exact ⟨by simp, by simp⟩
  | cons second others =>
      obtain ⟨bounds, continues⟩ := admits
      refine ⟨bounds, fun octet member => continues octet ?_⟩
      exact List.mem_append_left more member

theorem Admits.isContinuation_second {second : UInt8} {others : Bytes}
    (admits : lead.Admits (second :: others))
    (announced : Lead.of? octet = some lead) :
    isContinuation second = true := by
  obtain ⟨lowerBound, upperBound, -⟩ := Lead.bounds announced
  obtain ⟨lower, upper⟩ := admits.bounds second rfl
  rw [UInt8.le_iff_toNat_le] at lower upper
  rw [Rune.isContinuation_iff]
  omega

/-- Octets behind a lead octet that are as many as it announces make a
character with it. -/
theorem Admits.exists_ofChar (admits : lead.Admits tail)
    (announced : Lead.of? octet = some lead)
    (whole : tail.length = lead.following) :
    ∃ char, Bytes.ofChar char = octet :: tail := by
  have continued {second : UInt8} {others : Bytes}
      (tailEq : tail = second :: others) : isContinuation second = true :=
    (tailEq ▸ admits).isContinuation_second announced
  rcases Nat.lt_or_ge octet.toNat 0xC2 with below | atLeastTwo
  · rw [of?_eq_none below] at announced
    cases announced
  rcases Nat.lt_or_ge octet.toNat 0xE0 with two | atLeastThree
  · rw [of?_two atLeastTwo two] at announced
    cases announced
    obtain ⟨second, rfl⟩ := List.length_eq_one_iff.mp whole
    exact ⟨_, Rune.ofChar_two atLeastTwo two (continued rfl)⟩
  rcases Nat.lt_or_ge octet.toNat 0xF0 with three | atLeastFour
  · rw [of?_three atLeastThree three] at announced
    cases announced
    obtain ⟨second, third, rfl⟩ := List.length_eq_two.mp whole
    obtain ⟨lower, upper⟩ := admits.bounds second rfl
    dsimp only at lower upper
    refine ⟨_, Rune.ofChar_three atLeastThree three (continued rfl) ?_ ?_
      (admits.continues third (by simp))⟩
    · intro isFirst
      rw [if_pos (UInt8.toNat_inj.mp isFirst), UInt8.le_iff_toNat_le] at lower
      exact lower
    · intro isLast
      rw [if_pos (UInt8.toNat_inj.mp isLast), UInt8.le_iff_toNat_le] at upper
      exact upper
  rcases Nat.lt_or_ge octet.toNat 0xF5 with four | beyond
  · rw [of?_four atLeastFour four] at announced
    cases announced
    obtain ⟨second, third, fourth, rfl⟩ := List.length_eq_three.mp whole
    obtain ⟨lower, upper⟩ := admits.bounds second rfl
    dsimp only at lower upper
    refine ⟨_, Rune.ofChar_four atLeastFour four (continued rfl) ?_ ?_
      (admits.continues third (by simp)) (admits.continues fourth (by simp))⟩
    · intro isFirst
      rw [if_pos (UInt8.toNat_inj.mp isFirst), UInt8.le_iff_toNat_le] at lower
      exact lower
    · intro isLast
      rw [if_pos (UInt8.toNat_inj.mp isLast), UInt8.le_iff_toNat_le] at upper
      exact upper
  · rw [of?_eq_none_of_beyond beyond] at announced
    cases announced

/-- A sequence has as many octets behind its lead octet as that announces. -/
theorem admits_of_sequence? {rest : Bytes} {rune : Rune}
    (found : Rune.sequence? octet rest = some rune) :
    ∃ lead tail others, Lead.of? octet = some lead ∧ rest = tail ++ others ∧
      rune.octets = octet :: tail ∧ lead.Admits tail ∧
      tail.length = lead.following := by
  unfold Rune.sequence? at found
  split at found
  · next lead second rest announced =>
      split at found
      · cases found
      · next inBounds =>
          simp only [Bool.or_eq_true, decide_eq_true_eq, not_or,
            UInt8.not_lt] at inBounds
          dsimp only at found
          split at found
          · next oneFollows =>
              obtain rfl := Option.some.inj found
              refine ⟨lead, [second], _, announced, rfl, rfl, ⟨?_, ?_⟩,
                oneFollows.symm⟩
              · simpa using inBounds
              · simp
          · next third others twoFollow =>
              split at found
              · next continued =>
                  obtain rfl := Option.some.inj found
                  refine ⟨lead, [second, third], others, announced, rfl, rfl,
                    ⟨?_, ?_⟩, twoFollow.symm⟩
                  · simpa using inBounds
                  · simpa using continued
              · cases found
          · next third fourth others threeFollow =>
              split at found
              · next continued =>
                  obtain rfl := Option.some.inj found
                  refine ⟨lead, [second, third, fourth], others, announced, rfl,
                    rfl, ⟨?_, ?_⟩, threeFollow.symm⟩
                  · simpa using inBounds
                  · simpa using continued
              · cases found
          · cases found
  · cases found

end Lead

namespace Rune

variable {octet : UInt8} {rest : Bytes}

/-- A character at the front of a text is its first rune. -/
theorem first_of_ofChar_prefix {char : Char}
    (front : Bytes.ofChar char <+: octet :: rest) :
    first octet rest = ofChar char := by
  obtain ⟨lead, tail, octetsEq, firstEq⟩ := exists_first_ofChar char
  obtain ⟨others, textEq⟩ := front
  rw [octetsEq, List.cons_append] at textEq
  cases textEq
  exact firstEq others

theorem malformed_ne_ofChar (char : Char) : malformed octet ≠ ofChar char := by
  intro same
  obtain rfl : replacement = char := congrArg Rune.char same
  have lengths : 1 = 3 := congrArg (fun rune => rune.octets.length) same
  cases lengths

theorem sequence?_of_ofChar_prefix {char : Char} (notAscii : ¬ octet < 0x80)
    (front : Bytes.ofChar char <+: octet :: rest) :
    sequence? octet rest = some (ofChar char) := by
  have firstEq := first_of_ofChar_prefix front
  cases found : sequence? octet rest with
  | some rune => rw [← firstEq, first_of_sequence? notAscii found]
  | none =>
      rw [first_of_sequence?_eq_none notAscii found] at firstEq
      exact absurd firstEq (malformed_ne_ofChar char)

/-- The octets of a sequence are those of its character. -/
theorem octets_of_sequence? {rune : Rune} (notAscii : ¬ octet < 0x80)
    (found : sequence? octet rest = some rune) :
    octet :: rest.take (rune.width - 1) = Bytes.ofChar rune.char := by
  obtain ⟨lead, tail, others, announced, rfl, octetsEq, admits, whole⟩ :=
    Lead.admits_of_sequence? found
  obtain ⟨char, encoded⟩ := admits.exists_ofChar announced whole
  have front : Bytes.ofChar char <+: octet :: (tail ++ others) :=
    ⟨others, by rw [encoded, List.cons_append]⟩
  have runeEq := sequence?_of_ofChar_prefix notAscii front
  rw [found] at runeEq
  cases runeEq
  have widthEq : (ofChar char).width - 1 = tail.length := by
    rw [width, octetsEq, List.length_cons, Nat.add_sub_cancel]
  rw [widthEq, List.take_left]
  exact encoded.symm

end Rune

namespace Utf8

variable {octet : UInt8} {tail : Bytes}

theorem admits_of_ofChar {char : Char} (notAscii : ¬ octet < 0x80)
    (encoded : Bytes.ofChar char = octet :: tail) :
    ∃ lead, Lead.of? octet = some lead ∧ lead.Admits tail ∧
      tail.length = lead.following := by
  have front : Bytes.ofChar char <+: octet :: tail :=
    encoded ▸ List.prefix_refl _
  have found := Rune.sequence?_of_ofChar_prefix notAscii front
  obtain ⟨lead, own, others, announced, tailEq, octetsEq, admits, whole⟩ :=
    Lead.admits_of_sequence? found
  have sameTail : octet :: own = octet :: tail := by
    rw [← octetsEq, ← encoded]
    rfl
  cases sameTail
  exact ⟨lead, announced, admits, whole⟩

theorem admits_of_begins (notAscii : ¬ octet < 0x80)
    (begins : Begins (octet :: tail)) :
    ∃ lead, Lead.of? octet = some lead ∧ lead.Admits tail ∧
      tail.length < lead.following := by
  obtain ⟨char, more, moreNe, encoded⟩ := begins
  rw [List.cons_append] at encoded
  obtain ⟨lead, announced, admits, whole⟩ := admits_of_ofChar notAscii encoded
  refine ⟨lead, announced, admits.of_append, ?_⟩
  have := List.length_pos_iff.mpr moreNe
  rw [List.length_append] at whole
  omega

theorem begins_of_admits {lead : Lead} (announced : Lead.of? octet = some lead)
    (admits : lead.Admits tail) (tailNe : tail ≠ [])
    (short : tail.length < lead.following) : Begins (octet :: tail) := by
  have filled :
      lead.Admits (tail ++ List.replicate (lead.following - tail.length) 0x80) := by
    obtain ⟨second, others, rfl⟩ := List.exists_cons_of_ne_nil tailNe
    refine ⟨admits.bounds, fun octet member => ?_⟩
    rw [List.cons_append, List.tail_cons, List.mem_append] at member
    rcases member with isOld | isFilling
    · exact admits.continues octet isOld
    · rw [List.eq_of_mem_replicate isFilling]
      decide
  obtain ⟨char, encoded⟩ := filled.exists_ofChar announced (by simp; omega)
  refine ⟨char, _, ?_, encoded⟩
  rw [Ne, List.replicate_eq_nil_iff]
  omega

section Followers

open Encoding (followers)

theorem followers_le (lead : Lead) (rest : Bytes) :
    followers lead rest ≤ rest.length := by
  cases rest with
  | nil => exact Nat.le_refl 0
  | cons second rest =>
      rw [followers]
      split
      · exact Nat.zero_le _
      · have front : ((rest.take (lead.following - 1)).takeWhile
            isContinuation) <+: rest :=
          (List.takeWhile_prefix _).trans (List.take_prefix _ _)
        have := front.length_le
        rw [List.length_cons]
        omega

theorem admits_followers (lead : Lead) (rest : Bytes) :
    lead.Admits (rest.take (followers lead rest)) := by
  cases rest with
  | nil => exact ⟨by simp, by simp⟩
  | cons second rest =>
      rw [followers]
      split
      · exact ⟨by simp, by simp⟩
      · next inBounds =>
          simp only [Bool.or_eq_true, decide_eq_true_eq, not_or,
            UInt8.not_lt] at inBounds
          have front : ((rest.take (lead.following - 1)).takeWhile
              isContinuation) <+: rest :=
            (List.takeWhile_prefix _).trans (List.take_prefix _ _)
          rw [Nat.add_comm, List.take_succ_cons,
            ← List.prefix_iff_eq_take.mp front]
          refine ⟨by simpa using inBounds, ?_⟩
          exact List.all_eq_true.mp List.all_takeWhile

/-- The octet behind the followers is no follower, unless enough were found. -/
theorem not_admits_followers {lead : Lead} {rest others : Bytes} {next : UInt8}
    (short : followers lead rest < lead.following)
    (restEq : rest.drop (followers lead rest) = next :: others) :
    ¬ lead.Admits (rest.take (followers lead rest) ++ [next]) := by
  cases rest with
  | nil => simp at restEq
  | cons second rest =>
      intro admits
      rw [followers] at short restEq admits
      split at restEq
      · next outOfBounds =>
          rw [if_pos outOfBounds] at admits
          obtain rfl : second = next := (List.cons.inj restEq).1
          obtain ⟨lower, upper⟩ := admits.bounds second rfl
          simp only [Bool.or_eq_true, decide_eq_true_eq] at outOfBounds
          rcases outOfBounds with below | above
          · exact absurd below (UInt8.not_lt.mpr lower)
          · exact absurd above (UInt8.not_lt.mpr upper)
      · next inBounds =>
          rw [if_neg inBounds] at short admits
          generalize windowEq : rest.take (lead.following - 1) = window at *
          generalize countEq : (window.takeWhile isContinuation).length =
            count at *
          rw [Nat.add_comm, List.drop_succ_cons] at restEq
          rw [Nat.add_comm, List.take_succ_cons, List.cons_append] at admits
          have continued : isContinuation next = true :=
            admits.continues next (by simp)
          have left : lead.following - 1 - count =
              lead.following - 2 - count + 1 := by omega
          have behind : window.dropWhile isContinuation =
              next :: others.take (lead.following - 2 - count) := by
            have dropped : window.drop count =
                window.dropWhile isContinuation := by
              conv_lhs =>
                rw [← List.takeWhile_append_dropWhile (p := isContinuation)
                  (l := window)]
              exact List.drop_left' countEq
            rw [← dropped, ← windowEq, List.drop_take, restEq, left,
              List.take_succ_cons]
          have refused := List.head?_dropWhile_not isContinuation window
          rw [behind] at refused
          simp [continued] at refused

end Followers

section Pieces

open Encoding (followers)

variable {rest : Bytes}

theorem no_sequence_of_sequence? (notAscii : ¬ octet < 0x80)
    (refused : Rune.sequence? octet rest = none) (char : Char) :
    ¬ Bytes.ofChar char <+: octet :: rest := by
  intro front
  rw [Rune.sequence?_of_ofChar_prefix notAscii front] at refused
  cases refused

/-- A lead octet with the followers that it has is a longest malformed piece,
if they are too few. -/
theorem isMalformed_followers (notAscii : ¬ octet < 0x80)
    (refused : Rune.sequence? octet rest = none) {lead : Lead}
    (announced : Lead.of? octet = some lead) :
    IsMalformed (octet :: rest.take (followers lead rest))
      (rest.drop (followers lead rest)) := by
  have noSequence := no_sequence_of_sequence? notAscii refused
  have admits := admits_followers lead rest
  have lengthEq : (rest.take (followers lead rest)).length =
      followers lead rest :=
    List.length_take_of_le (followers_le lead rest)
  have short : followers lead rest < lead.following := by
    by_contra enough
    -- Enough followers would make a sequence.
    rw [← List.take_append_drop lead.following (rest.take _), List.take_take,
      Nat.min_eq_left (Nat.not_lt.mp enough)] at admits
    have wholeEq : (rest.take lead.following).length = lead.following :=
      List.length_take_of_le (by have := followers_le lead rest; omega)
    obtain ⟨char, encoded⟩ := admits.of_append.exists_ofChar announced wholeEq
    apply noSequence char
    rw [encoded]
    exact ⟨rest.drop lead.following, by simp⟩
  refine ⟨List.cons_ne_nil _ _, ?_, ?_, ?_⟩
  · rwa [List.cons_append, List.take_append_drop]
  · by_cases noFollower : rest.take (followers lead rest) = []
    · left
      rw [noFollower]
      rfl
    · exact Or.inr (begins_of_admits announced admits noFollower (by omega))
  · intro next others restEq begins
    obtain ⟨other, announcedToo, admitsNext, -⟩ :=
      admits_of_begins notAscii begins
    rw [announced] at announcedToo
    cases announcedToo
    exact not_admits_followers short restEq admitsNext

theorem isMalformed_single (notAscii : ¬ octet < 0x80)
    (noLead : Lead.of? octet = none) : IsMalformed [octet] rest := by
  have refused : Rune.sequence? octet rest = none := by
    simp [Rune.sequence?, noLead]
  refine ⟨List.cons_ne_nil _ _, no_sequence_of_sequence? notAscii refused,
    Or.inl rfl, ?_⟩
  intro next others _ begins
  obtain ⟨lead, announced, -⟩ := admits_of_begins notAscii begins
  rw [noLead] at announced
  cases announced

end Pieces

theorem ofChar_ascii {octet : UInt8} (isAscii : octet < 0x80) :
    Bytes.ofChar (Encoding.ascii octet) = [octet] :=
  congrArg Rune.octets (Rune.ofChar_ascii isAscii)

/-- A piece of UTF-8 is a character or a longest malformed piece. -/
theorem utf8Piece_cases (octet : UInt8) (rest : Bytes) :
    ∃ char following,
      Encoding.utf8Piece octet rest = .one char following ∧
      (octet :: rest.take following = Bytes.ofChar char ∨
        char = replacement ∧
          IsMalformed (octet :: rest.take following) (rest.drop following)) := by
  rw [Encoding.utf8Piece]
  by_cases isAscii : octet < 0x80
  · rw [if_pos isAscii]
    exact ⟨_, _, rfl, Or.inl (ofChar_ascii isAscii).symm⟩
  · rw [if_neg isAscii]
    cases found : Rune.sequence? octet rest with
    | some rune =>
        exact ⟨_, _, rfl, Or.inl (Rune.octets_of_sequence? isAscii found)⟩
    | none =>
        cases announced : Lead.of? octet with
        | some lead =>
            exact ⟨_, _, rfl,
              Or.inr ⟨rfl, isMalformed_followers isAscii found announced⟩⟩
        | none =>
            exact ⟨_, _, rfl, Or.inr ⟨rfl, isMalformed_single isAscii announced⟩⟩

/-- Decoding UTF-8 repairs it. -/
theorem repairs_decode (text : Bytes) :
    Repairs text (Bytes.ofChars (Encoding.utf8Chars text)) := by
  rw [Encoding.utf8Chars]
  fun_induction Encoding.decodeWith Encoding.utf8Piece text with
  | case1 => exact .nil
  | case2 octet rest piece ih =>
      obtain ⟨char, following, pieceEq, isPiece⟩ := utf8Piece_cases octet rest
      have pieceEq : piece = .one char following := pieceEq
      rw [pieceEq] at ih ⊢
      have textEq : octet :: rest =
          octet :: rest.take following ++ rest.drop following := by simp
      rw [Encoding.Decoded.one, Bytes.ofChars, List.flatMap_append,
        List.flatMap_singleton, textEq]
      rcases isPiece with isChar | ⟨rfl, malformed⟩
      · rw [isChar]
        exact .copy char ih
      · exact .replace malformed ih

/-- The octets of a malformed piece are read one by one. -/
theorem IsMalformed.read_append {piece rest : Bytes}
    (malformed : IsMalformed piece rest) :
    ∃ rune more, Rune.read (piece ++ rest) = rune :: (more ++ Rune.read rest) ∧
      ∀ read ∈ rune :: more, 0x80 ≤ read.char.toNat := by
  obtain ⟨octet, tail, rfl⟩ := List.exists_cons_of_ne_nil malformed.ne_nil
  have notAscii : ¬ octet < 0x80 := by
    intro isAscii
    apply malformed.no_sequence (Encoding.ascii octet)
    rw [ofChar_ascii isAscii]
    exact ⟨tail ++ rest, rfl⟩
  have refused : Rune.sequence? octet (tail ++ rest) = none := by
    cases found : Rune.sequence? octet (tail ++ rest) with
    | none => rfl
    | some rune =>
        have isChar := Rune.octets_of_sequence? notAscii found
        refine absurd ?_ (malformed.no_sequence rune.char)
        rw [← isChar, List.cons_append, List.cons_prefix_cons]
        exact ⟨rfl, List.take_prefix _ _⟩
  have continuing : ∀ follower ∈ tail, isContinuation follower = true := by
    rcases malformed.begins with isSingle | begins
    · obtain rfl : tail = [] := by simpa using isSingle
      exact List.forall_mem_nil _
    · obtain ⟨lead, announced, admits, -⟩ := admits_of_begins notAscii begins
      cases tail with
      | nil => exact List.forall_mem_nil _
      | cons second others =>
          exact List.forall_mem_cons.mpr
            ⟨admits.isContinuation_second announced, admits.continues⟩
  refine ⟨.malformed octet, tail.map .malformed, ?_, ?_⟩
  · rw [List.cons_append, Rune.read_cons,
      Rune.first_of_sequence?_eq_none notAscii refused,
      ← Rune.read_continuations continuing]
    rfl
  · rw [List.forall_mem_cons, List.forall_mem_map]
    exact ⟨Rune.beyond_malformed octet,
      fun follower _ => Rune.beyond_malformed follower⟩

/-- Repairing condenses what is beyond ASCII. -/
theorem Repairs.condenses {text repaired : Bytes}
    (repairs : Repairs text repaired) :
    Rune.Condenses (Rune.read text) (Rune.read repaired) := by
  induction repairs with
  | nil => exact .nil
  | copy char following ih =>
      rw [Rune.read_ofChar_append, Rune.read_ofChar_append]
      rcases Rune.faithful_ofChar char with
        ⟨octet, isAscii, charEq⟩ | ⟨beyond, -⟩
      · rw [charEq]
        exact .ascii isAscii ih
      · have single : ∀ piece ∈ [Rune.ofChar char],
            0x80 ≤ piece.char.toNat := by simpa using beyond
        exact .beyond single beyond ih
  | replace malformed following ih =>
      obtain ⟨rune, more, readEq, beyond⟩ := malformed.read_append
      rw [readEq, Rune.read_ofChar_append]
      exact .beyond beyond (by decide) ih

end Utf8

end Defun
