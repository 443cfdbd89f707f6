import Mathlib.Data.List.Induction
import Mathlib.Data.Nat.Digits.Defs
import Defun.Proofs.Text.Decimal

/-!
# What numerals denote

Digits denote a number by their places, and a sign in front of them counts.  A
numeral is read as the integer that it denotes, however long it is, and the
canonical numeral of the number that digits denote is what is left of them
without the zeros in front.
-/

namespace Defun

namespace Decimal

structure IsDigits (text : Bytes) : Prop where
  ne_nil : text ≠ []
  isDigit : ∀ octet ∈ text, isDigit octet = true

/-- The number that digits denote: the last one counts ones, the one before it
tens, and so on. -/
def placeValue (digits : Bytes) : Nat :=
  Nat.ofDigits 10 (digits.reverse.map fun digit => digit.toNat - 0x30)

/-- Digits without superfluous zeros in front of them. -/
def canonical (digits : Bytes) : Bytes :=
  match digits.dropWhile fun digit => digit == 0x30 with
  | [] => [0x30]
  | significant => significant

/-- A text denotes an integer: it consists of digits, and a sign may precede
them. -/
inductive Denotes : Bytes → Int → Prop where
  | unsigned {digits : Bytes} (isDigits : IsDigits digits) :
      Denotes digits (placeValue digits)
  | positive {digits : Bytes} (isDigits : IsDigits digits) :
      Denotes (Bytes.octet '+' :: digits) (placeValue digits)
  | negative {digits : Bytes} (isDigits : IsDigits digits) :
      Denotes (Bytes.octet '-' :: digits) (-placeValue digits)

@[simp]
theorem value_concat (digits : Bytes) (digit : UInt8) :
    value (digits ++ [digit]) = value digits * 10 + (digit.toNat - 0x30) := by
  rw [value, List.foldl_append]
  rfl

theorem value_eq_placeValue (digits : Bytes) :
    value digits = placeValue digits := by
  rw [value, placeValue, List.foldl_eq_foldr_reverse, Nat.ofDigits_eq_foldr,
    List.foldr_map]
  congr 1
  funext digit total
  simp only [Nat.cast_id]
  omega

theorem octet_digitChar {digit : UInt8} (isDigit : isDigit digit = true) :
    Bytes.octet (digit.toNat - 0x30).digitChar = digit := by
  have bounds := isDigit_iff.mp isDigit
  apply UInt8.toNat_inj.mp
  have charEq := Nat.toNat_digitChar_of_lt_ten
    (show digit.toNat - 0x30 < 10 by omega)
  rw [toNat_octet (by omega), charEq]
  omega

/-- A digit behind the numeral of a number that is not zero. -/
theorem ofNat_append_digit {number : Nat} (positive : 0 < number)
    {digit : UInt8} (isDigit : isDigit digit = true) :
    ofNat number ++ [digit] =
      ofNat (number * 10 + (digit.toNat - 0x30)) := by
  have bounds := isDigit_iff.mp isDigit
  have small : digit.toNat - 0x30 < 10 := by omega
  have appended := Nat.toDigits_append_toDigits (by decide) positive small
  rw [Nat.toDigits_of_lt_base small, Nat.mul_comm] at appended
  rw [ofNat, ofNat, ← appended, List.map_append, List.map_singleton,
    octet_digitChar isDigit]

/-- Digits are the numeral of their value unless the first one is a zero. -/
theorem ofNat_value_cons {first : UInt8} {rest : Bytes}
    (areDigits : ∀ octet ∈ first :: rest, isDigit octet = true)
    (firstNe : first ≠ 0x30) :
    ofNat (value (first :: rest)) = first :: rest ∧
      0 < value (first :: rest) := by
  have firstDigit := areDigits first List.mem_cons_self
  have bounds := isDigit_iff.mp firstDigit
  induction rest using List.reverseRecOn with
  | nil =>
      have valueEq : value [first] = first.toNat - 0x30 := Nat.zero_add _
      have firstNeNat : first.toNat ≠ (0x30 : UInt8).toNat :=
        mt UInt8.toNat_inj.mp firstNe
      have zeroEq : (0x30 : UInt8).toNat = 0x30 := rfl
      rw [valueEq]
      constructor
      · rw [ofNat, Nat.toDigits_of_lt_base (by omega), List.map_singleton,
          octet_digitChar firstDigit]
      · omega
  | append_singleton rest digit ih =>
      obtain ⟨numeralEq, positive⟩ := ih fun octet member =>
        areDigits octet (by simp at member ⊢; tauto)
      have lastDigit := areDigits digit (by simp)
      rw [← List.cons_append, value_concat,
        ← ofNat_append_digit positive lastDigit, numeralEq]
      exact ⟨rfl, by omega⟩

@[simp]
theorem value_dropWhile_zero (digits : Bytes) :
    value (digits.dropWhile fun digit => digit == 0x30) = value digits := by
  have zeros : digits.takeWhile (fun digit => digit == 0x30) =
      List.replicate (digits.takeWhile fun digit => digit == 0x30).length
        0x30 := by
    rw [List.eq_replicate_iff]
    refine ⟨rfl, fun digit member => ?_⟩
    simpa using List.all_eq_true.mp (List.all_takeWhile) digit member
  conv_rhs =>
    rw [← List.takeWhile_append_dropWhile (p := fun digit => digit == 0x30)
      (l := digits), zeros, value_zeros_append]

/-- Zeros in front are all that a numeral loses. -/
theorem ofNat_placeValue {digits : Bytes} (isDigits : IsDigits digits) :
    ofNat (placeValue digits) = canonical digits := by
  rw [← value_eq_placeValue, ← value_dropWhile_zero, canonical]
  cases significant : digits.dropWhile fun digit => digit == 0x30 with
  | nil => rfl
  | cons first rest =>
      have firstNe : first ≠ 0x30 := by
        have refused := List.head?_dropWhile_not
          (fun digit : UInt8 => digit == 0x30) digits
        simpa [significant] using refused
      have areDigits : ∀ octet ∈ first :: rest, isDigit octet = true := by
        intro octet member
        rw [← significant] at member
        exact isDigits.isDigit octet ((List.dropWhile_sublist _).mem member)
      exact (ofNat_value_cons areDigits firstNe).1

@[simp]
theorem ofInt_natCast (number : Nat) : ofInt number = ofNat number := by
  rw [ofInt, if_neg (by omega), Int.natAbs_natCast]

theorem toNat?_eq_some_iff {text : Bytes} {number : Nat} :
    toNat? text = some number ↔
      IsDigits text ∧ number = placeValue text := by
  rw [toNat?, ← value_eq_placeValue]
  constructor
  · intro read
    split at read
    · next digits =>
        simp only [Bool.and_eq_true, Bool.not_eq_true', List.isEmpty_eq_false_iff,
          List.all_eq_true] at digits
        exact ⟨⟨digits.1, digits.2⟩, (Option.some.inj read).symm⟩
    · cases read
  · rintro ⟨⟨textNe, areDigits⟩, rfl⟩
    rw [if_pos]
    simpa [textNe] using areDigits

theorem denotes_of_toInt? {text : Bytes} {number : Int}
    (read : toInt? text = some number) : Denotes text number := by
  cases text with
  | nil => cases read
  | cons first rest =>
      rw [toInt?] at read
      split at read
      · next isMinus =>
          obtain ⟨size, sizeEq, rfl⟩ := Option.map_eq_some_iff.mp read
          obtain ⟨natural, naturalEq, castEq⟩ :=
            Option.bind_eq_some_iff.mp sizeEq
          cases castEq
          obtain ⟨isDigits, rfl⟩ := toNat?_eq_some_iff.mp naturalEq
          rw [isMinus]
          exact .negative isDigits
      · split at read
        · next isPlus =>
            obtain ⟨size, sizeEq, rfl⟩ := Option.map_eq_some_iff.mp read
            obtain ⟨isDigits, rfl⟩ := toNat?_eq_some_iff.mp sizeEq
            rw [isPlus]
            exact .positive isDigits
        · obtain ⟨size, sizeEq, rfl⟩ := Option.map_eq_some_iff.mp read
          obtain ⟨isDigits, rfl⟩ := toNat?_eq_some_iff.mp sizeEq
          exact .unsigned isDigits

theorem toInt?_of_denotes {text : Bytes} {number : Int}
    (denotes : Denotes text number) : toInt? text = some number := by
  cases denotes with
  | unsigned isDigits =>
      rw [toInt?_of_digits isDigits.ne_nil isDigits.isDigit,
        value_eq_placeValue]
  | positive isDigits =>
      have size := toNat?_eq_some_iff.mpr ⟨isDigits, rfl⟩
      rw [toInt?, if_neg (by decide), if_pos rfl, size]
      rfl
  | negative isDigits =>
      have size := toNat?_eq_some_iff.mpr ⟨isDigits, rfl⟩
      rw [toInt?, if_pos rfl, size]
      rfl

/-- A text is read as the integer that it denotes, if that fits in a word. -/
theorem toWord?_eq_some_iff {text : Bytes} {number : Int} :
    toWord? text = some number ↔ Denotes text number ∧ FitsWord number := by
  rw [toWord?, Option.filter_eq_some_iff, decide_eq_true_iff]
  exact and_congr_left fun _ => ⟨denotes_of_toInt?, toInt?_of_denotes⟩

theorem toWord?_eq_none_iff {text : Bytes} :
    toWord? text = none ↔
      ∀ number, Denotes text number → ¬ FitsWord number := by
  rw [Option.eq_none_iff_forall_ne_some]
  exact forall_congr' fun number =>
    (not_congr toWord?_eq_some_iff).trans not_and

theorem Denotes.unique {text : Bytes} {first second : Int}
    (left : Denotes text first) (right : Denotes text second) :
    first = second := by
  have same := toInt?_of_denotes left
  rw [toInt?_of_denotes right] at same
  exact (Option.some.inj same).symm

/-- Only the upper bound counts for digits without a sign. -/
theorem denotes_fits_iff_of_isDigits {digits : Bytes}
    (isDigits : IsDigits digits) {number : Int} :
    Denotes digits number ∧ FitsWord number ↔
      number = placeValue digits ∧ placeValue digits ≤ 2147483647 := by
  constructor
  · rintro ⟨denotes, fits⟩
    obtain rfl := denotes.unique (.unsigned isDigits)
    rw [FitsWord] at fits
    exact ⟨rfl, by omega⟩
  · rintro ⟨rfl, small⟩
    refine ⟨.unsigned isDigits, ?_⟩
    rw [FitsWord]
    omega

theorem toWord?_eq_some_iff_of_isDigits {digits : Bytes}
    (isDigits : IsDigits digits) {number : Int} :
    toWord? digits = some number ↔
      number = placeValue digits ∧ placeValue digits ≤ 2147483647 :=
  toWord?_eq_some_iff.trans (denotes_fits_iff_of_isDigits isDigits)

/-- A numeral with zeros in front denotes its number. -/
theorem toWord?_zeros_ofNat (zeros : Nat) {number : Nat}
    (fits : number ≤ 2147483647) :
    toWord? (List.replicate zeros 0x30 ++ ofNat number) =
      some (number : Int) := by
  have valueEq : placeValue (List.replicate zeros 0x30 ++ ofNat number) =
      number := by
    rw [← value_eq_placeValue, value_zeros_append, value_ofNat]
  have isDigits : IsDigits (List.replicate zeros 0x30 ++ ofNat number) := by
    refine ⟨by simp, fun octet member => ?_⟩
    rcases List.mem_append.mp member with isZero | later
    · rw [List.eq_of_mem_replicate isZero]
      rfl
    · exact isDigit_of_mem_ofNat later
  rw [toWord?_eq_some_iff_of_isDigits isDigits, valueEq]
  exact ⟨rfl, fits⟩

end Decimal

end Defun
