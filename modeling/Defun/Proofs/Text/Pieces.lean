import Mathlib.Data.List.SplitBy
import Defun.Proofs.Text.Ascii

/-!
# Pieces of a text

A text falls into maximal runs of word octets, which are letters, digits and
underscores, and single other octets.  There is one way to cut it so.  The last
word of a run is the longest suffix that has only letters or only digits; it is
empty exactly if the run ends in an underscore.
-/

namespace Defun

namespace Bytes

def isWordOctet (octet : UInt8) : Bool :=
  isLetter octet || Decimal.isDigit octet || octet == Bytes.octet '_'

/-- The maximal runs of word octets of a text and its other octets, each by
itself, in order. -/
def pieces (text : Bytes) : List Bytes :=
  text.splitBy fun left right => isWordOctet left && isWordOctet right

/-- A text cut into runs of word octets, no two of them neighbours, and single
other octets. -/
structure IsSplit (text : Bytes) (pieces : List Bytes) : Prop where
  flatten_eq : pieces.flatten = text
  run_or_single : ∀ piece ∈ pieces,
    (piece ≠ [] ∧ ∀ octet ∈ piece, isWordOctet octet = true) ∨
      ∃ octet, isWordOctet octet = false ∧ piece = [octet]
  runs_apart : pieces.IsChain fun left right =>
    ¬ ∀ octet ∈ left ++ right, isWordOctet octet = true

/-- Only letters or only digits. -/
def isUniform (text : Bytes) : Bool :=
  text.all isLetter || text.all Decimal.isDigit

/-- The longest suffix that has only letters or only digits. -/
def lastWord : Bytes → Bytes
  | [] => []
  | octet :: rest =>
      if isUniform (octet :: rest) then octet :: rest else lastWord rest

structure IsLastWord (run word : Bytes) : Prop where
  suffix : word <:+ run
  uniform : isUniform word = true
  longest : ∀ other, other <:+ run → isUniform other = true →
    other.length ≤ word.length

theorem isWordOctet_iff {octet : UInt8} :
    isWordOctet octet = true ↔
      isLetter octet = true ∨ Decimal.isDigit octet = true ∨
        octet = Bytes.octet '_' := by
  simp [isWordOctet, or_assoc]

theorem lt_of_isWordOctet {octet : UInt8}
    (isWord : isWordOctet octet = true) : octet < 0x80 := by
  rw [isWordOctet_iff, isLetter_iff, Decimal.isDigit_iff] at isWord
  have bound : (0x80 : UInt8).toNat = 0x80 := rfl
  rw [UInt8.lt_iff_toNat_lt, bound]
  rcases isWord with isLetter | isDigit | rfl
  · omega
  · omega
  · decide

section Splitting

variable {left right text : Bytes}

theorem pieces_append
    (apart : ∀ last ∈ left.getLast?, ∀ first ∈ right.head?,
      (isWordOctet last && isWordOctet first) = false) :
    pieces (left ++ right) = pieces left ++ pieces right :=
  List.splitBy_append apart

theorem isChain_of_run (isRun : ∀ octet ∈ text, isWordOctet octet = true) :
    text.IsChain fun left right =>
      (isWordOctet left && isWordOctet right) = true := by
  rw [List.isChain_iff_forall_rel_of_append_cons_cons]
  rintro first second before after rfl
  have isFirst := isRun first (by simp)
  have isSecond := isRun second (by simp)
  rw [isFirst, isSecond]
  rfl

theorem pieces_of_run (textNe : text ≠ [])
    (isRun : ∀ octet ∈ text, isWordOctet octet = true) :
    pieces text = [text] :=
  List.splitBy_of_isChain textNe (isChain_of_run isRun)

theorem run_of_isChain {first second : UInt8} {rest : Bytes}
    (chain : (first :: second :: rest).IsChain fun left right =>
      (isWordOctet left && isWordOctet right) = true) :
    ∀ octet ∈ first :: second :: rest, isWordOctet octet = true := by
  induction rest generalizing first second with
  | nil =>
      rw [List.isChain_pair, Bool.and_eq_true] at chain
      simpa using chain
  | cons third rest ih =>
      rw [List.isChain_cons_cons, Bool.and_eq_true] at chain
      obtain ⟨⟨isFirst, _⟩, chain⟩ := chain
      intro octet member
      rcases List.mem_cons.mp member with rfl | later
      · exact isFirst
      · exact ih chain octet later

theorem isSplit_pieces (text : Bytes) : IsSplit text (pieces text) where
  flatten_eq := List.flatten_splitBy _ text
  run_or_single := by
    intro piece member
    have chain := List.isChain_of_mem_splitBy member
    rcases piece with _ | ⟨first, _ | ⟨second, rest⟩⟩
    · exact absurd member (List.nil_notMem_splitBy _ text)
    · cases isWord : isWordOctet first with
      | true => exact Or.inl ⟨List.cons_ne_nil _ _, by simpa using isWord⟩
      | false => exact Or.inr ⟨first, isWord, rfl⟩
    · exact Or.inl ⟨List.cons_ne_nil _ _, run_of_isChain chain⟩
  runs_apart := by
    apply (List.isChain_getLast_head_splitBy _ text).imp
    rintro left right ⟨leftNe, rightNe, apart⟩ isRun
    have isLast := isRun _ (List.mem_append_left _ (List.getLast_mem leftNe))
    have isFirst := isRun _ (List.mem_append_right _ (List.head_mem rightNe))
    rw [isLast, isFirst] at apart
    cases apart

theorem IsSplit.eq_pieces {cuts : List Bytes} (split : IsSplit text cuts) :
    cuts = pieces text := by
  obtain ⟨rfl, runOrSingle, runsApart⟩ := split
  have cutsNe : [] ∉ cuts := by
    intro member
    rcases runOrSingle [] member with ⟨absurdity, _⟩ | ⟨octet, _, impossible⟩
    · exact absurdity rfl
    · cases impossible
  refine (List.splitBy_flatten cutsNe ?_ ?_).symm
  · intro piece member
    rcases runOrSingle piece member with ⟨_, isRun⟩ | ⟨octet, _, rfl⟩
    · exact isChain_of_run isRun
    · exact List.isChain_singleton octet
  · refine runsApart.imp_of_mem_imp fun left right leftMem rightMem apart => ?_
    have leftNe : left ≠ [] := fun empty => cutsNe (empty ▸ leftMem)
    have rightNe : right ≠ [] := fun empty => cutsNe (empty ▸ rightMem)
    refine ⟨leftNe, rightNe, ?_⟩
    rcases runOrSingle left leftMem with ⟨_, leftRun⟩ | ⟨octet, notWord, rfl⟩
    · rcases runOrSingle right rightMem with
        ⟨_, rightRun⟩ | ⟨octet, notWord, rfl⟩
      · refine absurd (fun octet member => ?_) apart
        rcases List.mem_append.mp member with inLeft | inRight
        · exact leftRun octet inLeft
        · exact rightRun octet inRight
      · simp [notWord]
    · simp [notWord]

end Splitting

theorem isLastWord_lastWord (run : Bytes) : IsLastWord run (lastWord run) := by
  induction run with
  | nil =>
      refine ⟨List.suffix_refl [], rfl, ?_⟩
      intro other suffix _
      exact suffix.length_le
  | cons octet rest ih =>
      rw [lastWord]
      split
      · next uniform =>
          exact ⟨List.suffix_refl _, uniform,
            fun other suffix _ => suffix.length_le⟩
      · next notUniform =>
          refine ⟨ih.suffix.trans (List.suffix_cons octet rest), ih.uniform, ?_⟩
          intro other suffix uniform
          rcases List.suffix_cons_iff.mp suffix with rfl | inRest
          · exact absurd uniform notUniform
          · exact ih.longest other inRest uniform

theorem isUniform_iff {text : Bytes} :
    isUniform text = true ↔
      (∀ octet ∈ text, isLetter octet = true) ∨
        ∀ octet ∈ text, Decimal.isDigit octet = true := by
  simp [isUniform]

/-- A run without a last word ends in an underscore. -/
theorem IsLastWord.eq_nil_iff {run word : Bytes} (isLast : IsLastWord run word)
    (runNe : run ≠ []) (isRun : ∀ octet ∈ run, isWordOctet octet = true) :
    word = [] ↔ run.getLast? = some (Bytes.octet '_') := by
  constructor
  · rintro rfl
    have lastSuffix : [run.getLast runNe] <:+ run :=
      ⟨run.dropLast, List.dropLast_concat_getLast runNe⟩
    have notUniform : ¬ isUniform [run.getLast runNe] = true := by
      intro uniform
      cases isLast.longest _ lastSuffix uniform
    rw [isUniform_iff, List.forall_mem_singleton, List.forall_mem_singleton,
      not_or] at notUniform
    rcases isWordOctet_iff.mp (isRun _ (List.getLast_mem runNe)) with
      isLetter | isDigit | isUnderscore
    · exact absurd isLetter notUniform.1
    · exact absurd isDigit notUniform.2
    · rw [List.getLast?_eq_some_getLast runNe, isUnderscore]
  · intro endsSo
    by_contra wordNe
    obtain ⟨before, rfl⟩ := isLast.suffix
    rw [List.getLast?_append_of_ne_nil _ wordNe] at endsSo
    have member := List.mem_of_getLast? endsSo
    rcases isUniform_iff.mp isLast.uniform with areLetters | areDigits
    · exact absurd (areLetters _ member) (by decide)
    · exact absurd (areDigits _ member) (by decide)

end Bytes

end Defun
