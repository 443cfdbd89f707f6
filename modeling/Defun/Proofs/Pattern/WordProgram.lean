import Mathlib.Data.List.TakeWhile
import Defun.Pattern.Program

/-!
# Programs for words

The patterns of keywords, of words over a set of characters and of single
characters are compiled to programs of three shapes.  What each shape matches
is stated without threads: a keyword or a word is matched where it ends in
front of a character that is not part of a word, and a single character is
matched wherever it stands.
-/

namespace Defun

namespace Program

/-- The program of a word of three letters. -/
def keyword (first second third : Char) : Program :=
  ⟨#[.check .beginText 1, .check .wordBoundary 2,
    .consume (.single first.toNat) 3, .consume (.single second.toNat) 4,
    .consume (.single third.toNat) 5, .check .wordBoundary 6, .accept], 0⟩

/-- The program of a word whose characters belong to a set. -/
def wordOver (set : CharSet) : Program :=
  ⟨#[.check .beginText 1, .check .wordBoundary 2, .consume set 3,
    .split 2 4, .check .wordBoundary 5, .accept], 0⟩

/-- The program of a single character. -/
def character (char : Char) : Program :=
  ⟨#[.check .beginText 1, .consume (.single char.toNat) 2, .accept], 0⟩

/-- No word goes on at the beginning of a text. -/
def endsWord (text : List Rune) : Bool :=
  !text.head?.any fun rune => isWord rune.char

/-- Whether a rune stands for a character of a set. -/
def within (set : CharSet) (rune : Rune) : Bool :=
  set.contains rune.char.toNat

@[simp]
theorem contains_single {char other : Char} :
    (CharSet.single char.toNat).contains other.toNat = true ↔
      other = char := by
  simp only [CharSet.contains, CharSet.single, CharSet.range, List.any_cons,
    List.any_nil, Bool.or_false, Bool.and_eq_true, decide_eq_true_eq,
    ← Char.toNat_inj]
  omega

@[simp]
theorem run_nil (program : Program) (before : Option Char) (consumed : Nat)
    (best : Option Nat) (text : List Rune) :
    run program [] before consumed best text = best := by
  cases text <;> simp [run, threads, reach]

/-- One character, while no thread accepts. -/
theorem run_cons_of_not_accepts {program : Program} {agenda found : List Nat}
    {before : Option Char} {rune : Rune}
    (agendaNe : agenda.isEmpty = false)
    (threadsEq : program.threads ⟨before, some rune.char⟩ agenda = found)
    (notAccepted : found.any program.accepts = false) (consumed : Nat)
    (best : Option Nat) (rest : List Rune) :
    run program agenda before consumed best (rune :: rest) =
      run program (program.advance rune.char found) (some rune.char)
        (consumed + 1) best rest := by
  have kept : found.takeWhile (fun index => !program.accepts index) =
      found := by
    rw [List.takeWhile_eq_self_iff]
    intro index member
    simpa using List.any_eq_false.mp notAccepted index member
  simp only [run, agendaNe, threadsEq, notAccepted, kept,
    Bool.false_eq_true, if_false]

section Word

variable (set : CharSet)

theorem wordOver_threads_start (after : Option Char) :
    (wordOver set).threads ⟨none, after⟩ [0] =
      if after.any isWord then [2] else [] := by
  cases decided : after.any isWord <;>
    simp [threads, reach, wordOver, Context.satisfies, decided]

theorem wordOver_threads_again {before : Char}
    (isWordBefore : isWord before = true) (after : Option Char) :
    (wordOver set).threads ⟨some before, after⟩ [3] =
      if after.any isWord then [2] else [2, 5] := by
  cases decided : after.any isWord <;>
    simp [threads, reach, wordOver, Context.satisfies, decided, isWordBefore]

theorem wordOver_advance (char : Char) :
    (wordOver set).advance char [2] =
      if set.contains char.toNat then [3] else [] := by
  cases decided : set.contains char.toNat <;>
    simp [advance, wordOver, decided]

@[simp]
theorem wordOver_not_accepts : (wordOver set).accepts 2 = false := by
  simp [accepts, wordOver]

@[simp]
theorem wordOver_accepts : (wordOver set).accepts 5 = true := by
  simp [accepts, wordOver]

variable {set} (words : ∀ char : Char,
  set.contains char.toNat = true → isWord char = true)
include words

/-- Behind a character of the set, the word goes on as long as it can. -/
theorem wordOver_run (text : List Rune) {before : Char}
    (isWordBefore : isWord before = true) (consumed : Nat) :
    run (wordOver set) [3] (some before) consumed none text =
      if endsWord (text.dropWhile (within set)) then
        some (consumed + (text.takeWhile (within set)).length)
      else none := by
  induction text generalizing before consumed with
  | nil => simp [run, wordOver_threads_again set isWordBefore, endsWord]
  | cons rune rest ih =>
      have threadsEq := wordOver_threads_again set isWordBefore
        (some rune.char)
      rw [Option.any_some] at threadsEq
      by_cases isWordRune : isWord rune.char = true
      · rw [if_pos isWordRune] at threadsEq
        rw [run_cons_of_not_accepts rfl threadsEq (by simp),
          wordOver_advance]
        by_cases member : set.contains rune.char.toNat = true
        · rw [if_pos member, ih isWordRune]
          simp [within, member, Nat.add_assoc, Nat.add_comm]
        · simp [within, member, endsWord, isWordRune]
      · rw [if_neg isWordRune] at threadsEq
        have notMember : set.contains rune.char.toNat = false := by
          rw [← Bool.not_eq_true]
          exact fun member => isWordRune (words rune.char member)
        simp [run, threadsEq, wordOver_advance, notMember, within, endsWord,
          isWordRune]

/-- The program of words over a set matches the longest one, unless a word
goes on behind it. -/
theorem wordOver_match? (text : List Rune) :
    (wordOver set).match? text =
      if (text.takeWhile (within set)).length ≠ 0 ∧
          endsWord (text.dropWhile (within set)) then
        some (text.takeWhile (within set)).length
      else none := by
  change run (wordOver set) [0] none 0 none text = _
  cases text with
  | nil => simp [run, wordOver_threads_start]
  | cons rune rest =>
      have threadsEq := wordOver_threads_start set (some rune.char)
      rw [Option.any_some] at threadsEq
      by_cases isWordRune : isWord rune.char = true
      · rw [if_pos isWordRune] at threadsEq
        rw [run_cons_of_not_accepts rfl threadsEq (by simp),
          wordOver_advance]
        by_cases member : set.contains rune.char.toNat = true
        · rw [if_pos member, wordOver_run words rest isWordRune]
          simp [within, member, Nat.add_comm]
        · simp [within, member]
      · rw [if_neg isWordRune] at threadsEq
        have notMember : set.contains rune.char.toNat = false := by
          rw [← Bool.not_eq_true]
          exact fun member => isWordRune (words rune.char member)
        rw [run_cons_of_not_accepts rfl threadsEq rfl]
        simp [advance, within, notMember]

end Word

section Keyword

theorem advance_singleton {program : Program} {index next : Nat}
    {letter : Char} (instruction : program.code[index]? =
      some (.consume (.single letter.toNat) next)) (char : Char) :
    program.advance char [index] = if char = letter then [next] else [] := by
  by_cases same : char = letter
  · have member := contains_single.mpr same
    simp [advance, instruction, member, if_pos same]
  · have notMember :=
      Bool.eq_false_iff.mpr (mt contains_single.mp same)
    simp [advance, instruction, notMember, same]

/-- The characters of a set that a text begins with are those of a word, and
the word ends behind them. -/
def Spells (set : CharSet) (word : List Char) (text : List Rune) : Prop :=
  (text.takeWhile (within set)).map Rune.char = word ∧
    endsWord (text.dropWhile (within set)) = true

instance (set : CharSet) (word : List Char) (text : List Rune) :
    Decidable (Spells set word text) :=
  inferInstanceAs (Decidable (_ ∧ _))

@[simp]
theorem spells_cons_iff {set : CharSet} {letter : Char}
    (member : set.contains letter.toNat = true) {word : List Char}
    {rune : Rune} {rest : List Rune} :
    Spells set (letter :: word) (rune :: rest) ↔
      rune.char = letter ∧ Spells set word rest := by
  by_cases memberRune : within set rune = true
  · simp [Spells, memberRune, and_assoc]
  · have different : rune.char ≠ letter := by
      rintro rfl
      exact memberRune member
    simp [Spells, memberRune, different]

variable {set : CharSet} (words : ∀ char : Char,
  set.contains char.toNat = true → isWord char = true)
include words

@[simp]
theorem spells_nil_iff {text : List Rune} :
    Spells set [] text ↔ endsWord text = true := by
  cases text with
  | nil => simp [Spells]
  | cons rune rest =>
      by_cases memberRune : within set rune = true
      · have isWordRune := words rune.char memberRune
        simp [Spells, memberRune, endsWord, isWordRune]
      · simp [Spells, memberRune]

/-- One letter of a keyword is read, and the program goes on with the letters
behind it. -/
theorem run_letter {program : Program} {agenda : List Nat}
    {before : Option Char} {index next consumed total : Nat}
    {letter : Char} {word : List Char} (agendaNe : agenda.isEmpty = false)
    (threadsEq : ∀ after, program.threads ⟨before, after⟩ agenda = [index] ∨
      program.threads ⟨before, after⟩ agenda = [] ∧
        after.any isWord = false)
    (instruction : program.code[index]? =
      some (.consume (.single letter.toNat) next))
    (member : set.contains letter.toNat = true)
    (runNext : ∀ (last : Char) (rest : List Rune), isWord last = true →
      run program [next] (some last) (consumed + 1) none rest =
        if Spells set word rest then some total else none)
    (text : List Rune) :
    run program agenda before consumed none text =
      if Spells set (letter :: word) text then some total else none := by
  have waits : program.accepts index = false := by
    simp [accepts, instruction]
  cases text with
  | nil =>
      have notSpelled : ¬ Spells set (letter :: word) [] := by
        simp [Spells]
      rcases threadsEq none with found | ⟨found, _⟩ <;>
        simp [run, found, waits, notSpelled]
  | cons rune rest =>
      simp only [spells_cons_iff member]
      rcases threadsEq (some rune.char) with found | ⟨found, notWord⟩
      · rw [run_cons_of_not_accepts agendaNe found (by simp [waits]),
          advance_singleton instruction]
        by_cases same : rune.char = letter
        · have isWordRune : isWord rune.char = true :=
            words rune.char (by rw [same]; exact member)
          rw [if_pos same, runNext rune.char rest isWordRune]
          simp [same]
        · simp [same]
      · -- A place without threads is followed by no word, so by no letter.
        have different : rune.char ≠ letter := by
          rintro rfl
          have isWordRune := words rune.char member
          simp [isWordRune] at notWord
        rw [run_cons_of_not_accepts agendaNe found rfl]
        simp [advance, different]

theorem keyword_run_end {first second third last : Char}
    (isWordLast : isWord last = true) (consumed : Nat) (text : List Rune) :
    run (keyword first second third) [5] (some last) consumed none text =
      if Spells set [] text then some consumed else none := by
  have accepted : (keyword first second third).accepts 6 = true := by
    simp [accepts, keyword]
  have threadsEq (after : Option Char) :
      (keyword first second third).threads ⟨some last, after⟩ [5] =
        if after.any isWord then [] else [6] := by
    cases decided : after.any isWord <;>
      simp [threads, reach, keyword, Context.satisfies, decided, isWordLast]
  simp only [spells_nil_iff words]
  cases text with
  | nil => simp [run, threadsEq, endsWord, accepted]
  | cons rune rest =>
      cases isWordRune : isWord rune.char <;>
        simp [run, threadsEq, isWordRune, endsWord, accepted, advance]

/-- The program of a keyword matches it where the letters that a text begins
with spell it and no word goes on behind them. -/
theorem keyword_match? {first second third : Char}
    (firstIn : set.contains first.toNat = true)
    (secondIn : set.contains second.toNat = true)
    (thirdIn : set.contains third.toNat = true) (text : List Rune) :
    (keyword first second third).match? text =
      if Spells set [first, second, third] text then some 3 else none := by
  have startThreads (after : Option Char) :
      (keyword first second third).threads ⟨none, after⟩ [0] = [2] ∨
        (keyword first second third).threads ⟨none, after⟩ [0] = [] ∧
          after.any isWord = false := by
    cases decided : after.any isWord <;>
      simp [threads, reach, keyword, Context.satisfies, decided]
  have secondThreads (context : Context) :
      (keyword first second third).threads context [3] = [3] := by
    simp [threads, reach, keyword]
  have thirdThreads (context : Context) :
      (keyword first second third).threads context [4] = [4] := by
    simp [threads, reach, keyword]
  have runThird (last : Char) (rest : List Rune) :=
    run_letter words rfl (fun after => Or.inl (thirdThreads ⟨some last, after⟩))
      rfl thirdIn
      (fun last rest isWordLast => keyword_run_end words isWordLast 3 rest)
      rest
  have runSecond (last : Char) (rest : List Rune) :=
    run_letter words rfl
      (fun after => Or.inl (secondThreads ⟨some last, after⟩)) rfl secondIn
      (fun last rest _ => runThird last rest) rest
  exact run_letter words rfl startThreads rfl firstIn
    (fun last rest _ => runSecond last rest) text

end Keyword

/-- The program of a character matches it wherever it stands. -/
theorem character_match? (char : Char) (text : List Rune) :
    (character char).match? text =
      if text.head?.any (fun rune => rune.char == char) then some 1
      else none := by
  have startThreads (after : Option Char) :
      (character char).threads ⟨none, after⟩ [0] = [1] := by
    simp [threads, reach, character, Context.satisfies]
  have endThreads (context : Context) :
      (character char).threads context [2] = [2] := by
    simp [threads, reach, character]
  have waits : (character char).accepts 1 = false := by
    simp [accepts, character]
  have accepted : (character char).accepts 2 = true := by
    simp [accepts, character]
  change run (character char) [0] none 0 none text = _
  cases text with
  | nil => simp [run, startThreads, waits]
  | cons rune rest =>
      rw [run_cons_of_not_accepts rfl (startThreads _) (by simp [waits]),
        advance_singleton rfl]
      by_cases same : rune.char = char
      · cases rest <;> simp [run, endThreads, accepted, same, advance]
      · simp [same]

end Program

end Defun
