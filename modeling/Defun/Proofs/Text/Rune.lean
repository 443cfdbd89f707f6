import Defun.Text.Rune

/-!
# Reading runes

The octets of the runes of a text are the text.  A rune of several octets
holds no ASCII octet and stands for no ASCII character, so a text can be cut
in front of any ASCII octet and its parts read apart, whatever malformed octets
stand before the cut.
-/

namespace Defun

/-- What a lead octet announces leaves no room for overlong forms, surrogates
or values beyond the last code point. -/
theorem Lead.bounds {octet : UInt8} {announced : Lead}
    (found : Lead.of? octet = some announced) :
    0x80 ≤ announced.lower.toNat ∧ announced.upper.toNat ≤ 0xBF ∧
      ((announced.following = 1 ∧ 2 ≤ announced.bits ∧
          announced.bits ≤ 0x1F) ∨
        (announced.following = 2 ∧ announced.bits ≤ 0xF ∧
          (announced.bits = 0 → 0xA0 ≤ announced.lower.toNat) ∧
          (announced.bits = 0xD → announced.upper.toNat ≤ 0x9F)) ∨
        (announced.following = 3 ∧ announced.bits ≤ 4 ∧
          (announced.bits = 0 → 0x90 ≤ announced.lower.toNat) ∧
          (announced.bits = 4 → announced.upper.toNat ≤ 0x8F))) := by
  unfold Lead.of? at found
  simp only [UInt8.lt_iff_toNat_lt, ← UInt8.toNat_inj] at found
  split at found
  · cases found
  split at found
  · cases found
    simp_all
    omega
  split at found
  · cases found
    dsimp only
    split <;> split <;> simp_all
    all_goals omega
  split at found
  · cases found
    dsimp only
    split <;> split <;> simp_all
    all_goals omega
  · cases found

namespace Rune

/-- The rune of an ASCII octet. -/
def ascii (octet : UInt8) : Rune :=
  ⟨Char.ofNat octet.toNat, [octet]⟩

/-- The first octet of a text, if there is one, is an ASCII octet. -/
def AsciiFirst (text : Bytes) : Prop :=
  ∀ octet ∈ text.head?, octet < 0x80

theorem asciiFirst_cons {octet : UInt8} (isAscii : octet < 0x80)
    (rest : Bytes) : AsciiFirst (octet :: rest) := by
  intro first isFirst
  cases isFirst
  exact isAscii

theorem toNat_char_of_valid {value : Nat} (valid : value.isValidChar) :
    (Char.ofNat value).toNat = value := by
  rw [Char.ofNat, dif_pos valid]
  rfl

@[simp]
theorem ascii_char_toNat (octet : UInt8) :
    (ascii octet).char.toNat = octet.toNat := by
  have bound := octet.toNat_lt
  exact toNat_char_of_valid (Or.inl (by omega))

theorem ascii_char_eq_iff {octet : UInt8} {char : Char} :
    (ascii octet).char = char ↔ octet.toNat = char.toNat := by
  rw [← Char.toNat_inj, ascii_char_toNat]

theorem isContinuation_iff {octet : UInt8} :
    isContinuation octet = true ↔ 0x80 ≤ octet.toNat ∧ octet.toNat ≤ 0xBF := by
  simp [isContinuation, UInt8.le_iff_toNat_le]

/-- A sequence of several octets has no ASCII octet and stands for no ASCII
character. -/
theorem sequence?_eq_some {lead : UInt8} {rest : Bytes} {rune : Rune}
    (found : sequence? lead rest = some rune) :
    ∃ tail others, rest = tail ++ others ∧ rune.octets = lead :: tail ∧
      (∀ octet ∈ tail, 0x80 ≤ octet.toNat) ∧ 0x80 ≤ rune.char.toNat := by
  unfold sequence? at found
  split at found
  · next announced second rest leadEq =>
      obtain ⟨lowerBound, upperBound, ranges⟩ := Lead.bounds leadEq
      split at found
      · cases found
      · next inRange =>
          simp only [UInt8.lt_iff_toNat_lt, Bool.or_eq_true,
            decide_eq_true_eq, not_or, Nat.not_lt] at inRange
          dsimp only at found
          split at found
          · next oneFollows =>
              obtain rfl := Option.some.inj found
              refine ⟨[second], _, rfl, rfl, ?_, ?_⟩
              · simp only [List.mem_singleton, forall_eq]
                omega
              · rw [toNat_char_of_valid (by left; omega)]
                omega
          · next third others twoFollow =>
              split at found
              · next continued =>
                  rw [isContinuation_iff] at continued
                  obtain rfl := Option.some.inj found
                  refine ⟨[second, third], others, rfl, rfl, ?_, ?_⟩
                  · simp only [List.mem_cons, List.not_mem_nil, or_false,
                      forall_eq_or_imp, forall_eq]
                    omega
                  · rw [toNat_char_of_valid (by
                      simp only [Nat.isValidChar]
                      omega)]
                    omega
              · cases found
          · next third fourth others threeFollow =>
              split at found
              · next continued =>
                  rw [Bool.and_eq_true, isContinuation_iff,
                    isContinuation_iff] at continued
                  obtain rfl := Option.some.inj found
                  refine ⟨[second, third, fourth], others, rfl, rfl, ?_, ?_⟩
                  · simp only [List.mem_cons, List.not_mem_nil, or_false,
                      forall_eq_or_imp, forall_eq]
                    omega
                  · rw [toNat_char_of_valid (by
                      simp only [Nat.isValidChar]
                      omega)]
                    omega
              · cases found
          · cases found
  · cases found

/-- A sequence of several octets is not continued by an ASCII octet. -/
theorem sequence?_append (lead : UInt8) (rest : Bytes) {after : Bytes}
    (asciiAfter : AsciiFirst after) :
    sequence? lead (rest ++ after) = sequence? lead rest := by
  cases after with
  | nil => rw [List.append_nil]
  | cons next others =>
      have isAscii : next.toNat < 0x80 :=
        UInt8.lt_iff_toNat_lt.mp (asciiAfter next rfl)
      have notContinued : isContinuation next = false := by
        rw [← Bool.not_eq_true, isContinuation_iff]
        omega
      cases found : Lead.of? lead with
      | none => simp [sequence?, found]
      | some announced =>
          -- The octet lies below the bounds of every octet that may follow.
          have below : next < announced.lower := by
            have lowerBound := (Lead.bounds found).1
            rw [UInt8.lt_iff_toNat_lt]
            omega
          obtain ⟨following, lower, upper, bits⟩ := announced
          rcases rest with _ | ⟨second, _ | ⟨third, _ | ⟨fourth, rest⟩⟩⟩
          · simp [sequence?, found, below]
          all_goals
            rcases following with _ | _ | _ | _ | following <;>
              cases others <;> simp [sequence?, found, notContinued]

/-- An ASCII octet stands for itself, and other octets make characters beyond
ASCII. -/
def Faithful (rune : Rune) : Prop :=
  (∃ octet : UInt8, octet < 0x80 ∧ rune = ascii octet) ∨
    (0x80 ≤ rune.char.toNat ∧ ∀ octet ∈ rune.octets, 0x80 ≤ octet.toNat)

theorem first_of_ascii {octet : UInt8} (isAscii : octet < 0x80)
    (rest : Bytes) : first octet rest = ascii octet := by
  rw [first, if_pos isAscii]
  rfl

theorem first_append (octet : UInt8) (rest : Bytes) {after : Bytes}
    (asciiAfter : AsciiFirst after) :
    first octet (rest ++ after) = first octet rest := by
  rw [first, first, sequence?_append octet rest asciiAfter]

/-- The first rune takes some octets from the beginning of a text. -/
theorem first_octets (octet : UInt8) (rest : Bytes) :
    ∃ tail others, rest = tail ++ others ∧
      (first octet rest).octets = octet :: tail ∧
      (first octet rest).Faithful := by
  by_cases isAscii : octet < 0x80
  · rw [first_of_ascii isAscii]
    exact ⟨[], rest, rfl, rfl, Or.inl ⟨octet, isAscii, rfl⟩⟩
  · have beyond : 0x80 ≤ octet.toNat := by
      rw [UInt8.lt_iff_toNat_lt] at isAscii
      exact Nat.not_lt.mp isAscii
    rw [first, if_neg isAscii]
    cases found : sequence? octet rest with
    | none =>
        have charBeyond : 0x80 ≤ replacement.toNat := by decide
        refine ⟨[], rest, rfl, rfl, Or.inr ⟨charBeyond, ?_⟩⟩
        simpa using beyond
    | some rune =>
        obtain ⟨tail, others, split, octetsEq, tailBeyond, charBeyond⟩ :=
          sequence?_eq_some found
        refine ⟨tail, others, split, octetsEq, Or.inr ⟨charBeyond, ?_⟩⟩
        simpa [octetsEq] using ⟨beyond, tailBeyond⟩

theorem readFrom_eq_read_drop (pending : Nat) (text : Bytes) :
    readFrom pending text = read (text.drop pending) := by
  induction text generalizing pending with
  | nil => cases pending <;> rfl
  | cons octet rest ih =>
      cases pending with
      | zero => rfl
      | succ pending => exact ih pending

theorem read_cons (octet : UInt8) (rest : Bytes) :
    read (octet :: rest) = first octet rest ::
      read (rest.drop ((first octet rest).width - 1)) := by
  rw [← readFrom_eq_read_drop]
  rfl

theorem read_cons_of_octets {octet : UInt8} {tail others : Bytes}
    (octetsEq : (first octet (tail ++ others)).octets = octet :: tail) :
    read (octet :: (tail ++ others)) =
      first octet (tail ++ others) :: read others := by
  rw [read_cons, width, octetsEq, List.length_cons, Nat.add_sub_cancel,
    List.drop_left]

/-- Induction along the runes of a text. -/
@[elab_as_elim]
theorem read_induction {motive : Bytes → Prop} (empty : motive [])
    (step : ∀ (octet : UInt8) (tail others : Bytes),
      (first octet (tail ++ others)).octets = octet :: tail →
      (first octet (tail ++ others)).Faithful →
      read (octet :: (tail ++ others)) =
        first octet (tail ++ others) :: read others →
      motive others → motive (octet :: (tail ++ others)))
    (text : Bytes) : motive text := by
  induction bound : text.length using Nat.strongRecOn
    generalizing text with
  | ind length ih =>
      cases text with
      | nil => exact empty
      | cons octet rest =>
          obtain ⟨tail, others, rfl, octetsEq, faithful⟩ :=
            first_octets octet rest
          have shorter : others.length < length := by
            rw [← bound, List.length_cons, List.length_append]
            omega
          exact step octet tail others octetsEq faithful
            (read_cons_of_octets octetsEq)
            (ih others.length shorter others rfl)

theorem read_cons_of_ascii {octet : UInt8} (isAscii : octet < 0x80)
    (rest : Bytes) : read (octet :: rest) = ascii octet :: read rest := by
  rw [read_cons, first_of_ascii isAscii]
  rfl

theorem read_ascii_append {text : Bytes}
    (isAscii : ∀ octet ∈ text, octet < 0x80) (after : Bytes) :
    read (text ++ after) = text.map ascii ++ read after := by
  induction text with
  | nil => rfl
  | cons octet rest ih =>
      rw [List.cons_append,
        read_cons_of_ascii (isAscii octet List.mem_cons_self),
        ih fun other member => isAscii other (List.mem_cons_of_mem _ member),
        List.map_cons, List.cons_append]

/-- An ASCII octet begins a rune, whatever stands before it. -/
theorem read_append (text : Bytes) {after : Bytes}
    (asciiAfter : AsciiFirst after) :
    read (text ++ after) = read text ++ read after := by
  induction text using read_induction with
  | empty => rfl
  | step octet tail others octetsEq faithful readEq ih =>
      rw [readEq, List.cons_append, List.cons_append, ← ih, read_cons,
        first_append octet _ asciiAfter, width, octetsEq]
      simp

@[simp]
theorem octetsOf_cons (rune : Rune) (rest : List Rune) :
    octetsOf (rune :: rest) = rune.octets ++ octetsOf rest :=
  List.flatMap_cons

@[simp]
theorem octetsOf_append (first second : List Rune) :
    octetsOf (first ++ second) = octetsOf first ++ octetsOf second :=
  List.flatMap_append

/-- Nothing is lost in reading. -/
@[simp]
theorem octetsOf_read (text : Bytes) : octetsOf (read text) = text := by
  induction text using read_induction with
  | empty => rfl
  | step octet tail others octetsEq faithful readEq ih =>
      simp [readEq, octetsEq, ih]

theorem faithful_of_mem_read {text : Bytes} {rune : Rune}
    (member : rune ∈ read text) : rune.Faithful := by
  induction text using read_induction with
  | empty => cases member
  | step octet tail others octetsEq faithful readEq ih =>
      rw [readEq, List.mem_cons] at member
      rcases member with rfl | later
      · exact faithful
      · exact ih later

end Rune

end Defun
