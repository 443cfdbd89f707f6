import Mathlib.Data.List.DropRight
import Defun.Proofs.Command.Lines
import Defun.Proofs.Text.Lines

/-!
# Histories in files

A history is written entry by entry and read line by line.  What comes back are
therefore the lines of the entries, and an entry of several lines comes back as
several entries.
-/

namespace Defun

namespace History

/-- The text of a history file. -/
def text (entries : List Bytes) : Bytes := entries.flatMap entryLine

@[simp]
theorem text_nil : text [] = [] := rfl

@[simp]
theorem text_cons (entry : Bytes) (rest : List Bytes) :
    text (entry :: rest) = entryLine entry ++ text rest := rfl

@[simp]
theorem text_append (entries more : List Bytes) :
    text (entries ++ more) = text entries ++ text more :=
  List.flatMap_append

end History

namespace Line

theorem next_entryLine_append {line : Bytes} (plain : IsPlain line)
    (rest : Bytes) :
    next (History.entryLine line ++ rest) = (⟨line, false⟩, rest) := by
  have textEq : History.entryLine line ++ rest =
      line ++ Bytes.newline :: rest := by
    rw [History.entryLine, List.append_assoc, List.singleton_append]
  -- The line end is the last octet that still has to be in the window.
  have fits := plain.length_lt
  obtain ⟨room, roomEq⟩ : ∃ room, bufferSize - line.length = room + 1 :=
    ⟨bufferSize - line.length - 1, by omega⟩
  have window : (line ++ Bytes.newline :: rest).take bufferSize =
      line ++ Bytes.newline :: rest.take room := by
    rw [List.take_append, List.take_of_length_le (Nat.le_of_lt fits), roomEq,
      List.take_succ_cons]
  have noNewline : ∀ octet ∈ line, (octet != Bytes.newline) = true := by
    intro octet member
    rw [bne_iff_ne]
    rintro rfl
    exact plain.newline_not_mem member
  have noReturn : dropReturn line = line := by
    rw [dropReturn, if_neg]
    intro endsSo
    exact plain.return_not_mem (List.mem_of_getLast? endsSo)
  have lineEq : (line ++ Bytes.newline :: rest.take room).takeWhile
      (· != Bytes.newline) = line := by
    rw [List.takeWhile_append_of_pos noNewline]
    simp
  rw [textEq, next, window, lineEq, if_pos (by simp), noReturn]
  simp

theorem all_text {lines : List Bytes} (plain : ∀ line ∈ lines, IsPlain line) :
    all (History.text lines) = lines.map fun line => ⟨line, false⟩ := by
  induction lines with
  | nil => simp [all]
  | cons line rest ih =>
      have textNe : History.entryLine line ++ History.text rest ≠ [] := by
        simp [History.entryLine]
      have first := next_entryLine_append
        (plain line List.mem_cons_self) (History.text rest)
      have restEq := ih fun other member =>
        plain other (List.mem_cons_of_mem line member)
      simp [all_of_ne_nil textNe, first, restEq]

end Line

namespace History

/-- What is assumed of a keeper: an entry that repeats the last one is dropped,
and the oldest one if there are too many; each entry is written with a line end
behind it; and each plain line is read as an entry, as many as fit. -/
structure Keeper.Lawful (keeper : Keeper) : Prop where
  add_eq : ∀ entries entry, entries.length ≤ limit →
    keeper.add entries entry =
      if entries.getLast? = some entry then entries
      else (entries ++ [entry]).rtake limit
  write_eq : ∀ entries, (keeper.write entries).flatten = text entries
  read_eq : ∀ (file : Input) (lines : List Bytes),
    (∀ line ∈ lines, Line.IsPlain line) → file.chunks.flatten = text lines →
    file.failure = none → keeper.read file = (lines.rtake limit, none)

theorem length_nil_le : ([] : List Bytes).length ≤ limit := Nat.zero_le limit

theorem rtake_of_length_le {entries : List Bytes}
    (bounded : entries.length ≤ limit) : entries.rtake limit = entries := by
  rw [List.rtake, Nat.sub_eq_zero_of_le bounded, List.drop_zero]

theorem push_eq_rtake {entries : List Bytes}
    (bounded : entries.length ≤ limit) (entry : Bytes) :
    push entries entry = (entries ++ [entry]).rtake limit := by
  rw [push]
  split
  · next tooMany =>
      rw [List.length_append, List.length_singleton] at tooMany
      have full : entries.length + 1 - limit = 1 := by omega
      rw [List.rtake, List.length_append, List.length_singleton, full]
  · next within => rw [rtake_of_length_le (Nat.le_of_not_gt within)]

theorem length_push_le {entries : List Bytes}
    (bounded : entries.length ≤ limit) (entry : Bytes) :
    (push entries entry).length ≤ limit := by
  rw [push_eq_rtake bounded, List.rtake, List.length_drop]
  omega

theorem rtake_rtake_append (entries more : List Bytes) (count : Nat) :
    (entries.rtake count ++ more).rtake count =
      (entries ++ more).rtake count := by
  have kept : entries.rtake count ++ more =
      (entries ++ more).drop (entries.length - count) := by
    rw [List.rtake, List.drop_append_of_le_length (Nat.sub_le _ _)]
  rw [kept, List.rtake, List.rtake, List.drop_drop, List.length_drop,
    List.length_append]
  congr 1
  omega

/-- Entries that are pushed one by one stay up to the greatest number of
them. -/
theorem foldl_push {entries : List Bytes} (bounded : entries.length ≤ limit)
    (more : List Bytes) :
    more.foldl push entries = (entries ++ more).rtake limit := by
  induction more generalizing entries with
  | nil => rw [List.foldl_nil, List.append_nil, rtake_of_length_le bounded]
  | cons entry rest ih =>
      rw [List.foldl_cons, ih (length_push_le bounded entry),
        push_eq_rtake bounded, rtake_rtake_append, List.append_assoc,
        List.singleton_append]

theorem readLines_plain {lines : List Bytes}
    (plain : ∀ line ∈ lines, Line.IsPlain line) (entries : List Bytes)
    (number : Nat) :
    readLines entries number (lines.map fun line => ⟨line, false⟩) =
      (lines.foldl push entries, none) := by
  induction lines generalizing entries number with
  | nil => rfl
  | cons line rest ih =>
      have wellFormed := (plain line List.mem_cons_self).isWellFormed
      rw [List.map_cons, readLines]
      dsimp only
      rw [wellFormed, List.foldl_cons]
      exact ih (fun other member => plain other (List.mem_cons_of_mem line member))
        _ _

theorem lawful_keeper : keeper.Lawful where
  add_eq entries entry bounded := by
    change add entries entry = _
    rw [add, push_eq_rtake bounded]
  write_eq entries := rfl
  read_eq file lines plain isText ends := by
    change read file = _
    rw [read, isText, Line.all_text plain, readLines_plain plain,
      foldl_push length_nil_le, List.nil_append]
    dsimp only
    rw [ends]

theorem Keeper.Lawful.add_eq_add {keeper : Keeper} (lawful : keeper.Lawful)
    {entries : List Bytes} (bounded : entries.length ≤ limit) (entry : Bytes) :
    keeper.add entries entry = History.add entries entry := by
  rw [lawful.add_eq entries entry bounded, History.add, push_eq_rtake bounded]

/-- The lines of an entry. -/
def entryLines (entry : Bytes) : List Bytes :=
  entry.splitOn Bytes.newline

theorem entryLine_unlines {lines : List Bytes} (linesNe : lines ≠ []) :
    entryLine (Bytes.unlines lines) = text lines := by
  induction lines with
  | nil => exact absurd rfl linesNe
  | cons first rest ih =>
      cases rest with
      | nil => simp
      | cons second rest =>
          rw [text_cons, ← ih (List.cons_ne_nil second rest),
            Bytes.unlines_cons_cons, entryLine, entryLine, entryLine]
          simp

/-- A history is written line by line, wherever its entries end. -/
theorem text_eq_text_entryLines (entries : List Bytes) :
    text entries = text (entries.flatMap entryLines) := by
  induction entries with
  | nil => rfl
  | cons entry rest ih =>
      have entryEq : entryLine entry = text (entryLines entry) := by
        rw [entryLines, ← entryLine_unlines (List.splitOn_ne_nil _ _),
          Bytes.unlines, Bytes.join, List.intercalate_splitOn]
      simp [ih, entryEq]

theorem flatMap_entryLines_of_single {entries : List Bytes}
    (single : ∀ entry ∈ entries, Bytes.newline ∉ entry) :
    entries.flatMap entryLines = entries := by
  induction entries with
  | nil => rfl
  | cons entry rest ih =>
      have one : entryLines entry = [entry] :=
        List.splitOn_eq_singleton (single entry List.mem_cons_self)
      rw [List.flatMap_cons, one, List.singleton_append,
        ih fun other member => single other (List.mem_cons_of_mem entry member)]

theorem mem_of_mem_add {entries : List Bytes} {added entry : Bytes}
    (member : entry ∈ add entries added) : entry ∈ entries ∨ entry = added := by
  rw [add, push] at member
  have kept : entry ∈ entries ++ [added] := by
    split at member
    · exact List.mem_append_left [added] member
    · split at member
      · exact List.mem_of_mem_drop member
      · exact member
  rwa [List.mem_append, List.mem_singleton] at kept

theorem mem_of_mem_foldl_add {entries more : List Bytes} {entry : Bytes}
    (member : entry ∈ more.foldl add entries) :
    entry ∈ entries ∨ entry ∈ more := by
  induction more generalizing entries with
  | nil => exact Or.inl member
  | cons added rest ih =>
      rcases ih member with inEntries | inRest
      · rcases mem_of_mem_add inEntries with isOld | rfl
        · exact Or.inl isOld
        · exact Or.inr List.mem_cons_self
      · exact Or.inr (List.mem_cons_of_mem added inRest)

theorem length_foldl_add_le {entries : List Bytes}
    (bounded : entries.length ≤ limit) (more : List Bytes) :
    (more.foldl add entries).length ≤ limit := by
  induction more generalizing entries with
  | nil => exact bounded
  | cons added rest ih =>
      apply ih
      rw [add]
      split
      · exact bounded
      · exact length_push_le bounded added

end History

end Defun
