import Defun.Command.History

/-!
# Lines that arrive in pieces

A line that is known to have ended is the same whatever follows it.  The lines
of an input are therefore the same wherever it is cut.
-/

namespace Defun

namespace Line

/-- A line that is read back as it was written. -/
structure IsPlain (line : Bytes) : Prop where
  isWellFormed : Bytes.isWellFormed line = true
  newline_not_mem : Bytes.newline ∉ line
  return_not_mem : carriageReturn ∉ line
  length_lt : line.length < bufferSize

instance (line : Bytes) : Decidable (IsPlain line) :=
  decidable_of_iff
    (Bytes.isWellFormed line = true ∧ Bytes.newline ∉ line ∧
      carriageReturn ∉ line ∧ line.length < bufferSize)
    ⟨fun ⟨wellFormed, noNewline, noReturn, short⟩ =>
      ⟨wellFormed, noNewline, noReturn, short⟩,
    fun plain => ⟨plain.isWellFormed, plain.newline_not_mem,
      plain.return_not_mem, plain.length_lt⟩⟩

theorem all_of_ne_nil {text : Bytes} (textNe : text ≠ []) :
    all text = (next text).1 :: all (next text).2 := by
  obtain ⟨octet, rest, rfl⟩ := List.exists_cons_of_ne_nil textNe
  rw [all]

section Ready

variable {text : Bytes}

theorem takeWhile_length_lt (ends : Bytes.newline ∈ text) :
    (text.takeWhile (· != Bytes.newline)).length < text.length := by
  induction text with
  | nil => cases ends
  | cons octet rest ih =>
      by_cases isEnd : octet = Bytes.newline
      · simp [isEnd]
      · have endsLater : Bytes.newline ∈ rest :=
          (List.mem_cons.mp ends).resolve_left (Ne.symm isEnd)
        simpa [isEnd] using ih endsLater

theorem takeWhile_append_of_mem (ends : Bytes.newline ∈ text) (more : Bytes) :
    (text ++ more).takeWhile (· != Bytes.newline) =
      text.takeWhile (· != Bytes.newline) := by
  rw [List.takeWhile_append, if_neg (Nat.ne_of_lt (takeWhile_length_lt ends))]

/-- The first line of a text that is ready is the same whatever follows. -/
theorem next_append (isReady : isReady text = true) (more : Bytes) :
    next (text ++ more) = ((next text).1, (next text).2 ++ more) := by
  by_cases ends : Bytes.newline ∈ text.take bufferSize
  · -- The line end is in the window, and so the rest of the window is of no
    -- consequence.
    have short := takeWhile_length_lt ends
    have lineEq : ((text ++ more).take bufferSize).takeWhile
        (· != Bytes.newline) =
          (text.take bufferSize).takeWhile (· != Bytes.newline) := by
      rw [List.take_append, takeWhile_append_of_mem ends]
    have longer : ((text.take bufferSize).takeWhile
        (· != Bytes.newline)).length <
          ((text ++ more).take bufferSize).length := by
      rw [List.take_append, List.length_append]
      omega
    have within : ((text.take bufferSize).takeWhile
        (· != Bytes.newline)).length + 1 ≤ text.length := by
      rw [List.length_take] at short
      omega
    rw [next, next, lineEq, if_pos longer, if_pos short,
      List.drop_append_of_le_length within]
  · have full : bufferSize ≤ text.length := by
      rw [Line.isReady, Bool.or_eq_true, List.contains_iff_mem,
        decide_eq_true_iff] at isReady
      rcases isReady with isMember | isFull
      · rcases Nat.lt_or_ge text.length bufferSize with isShort | isFull
        · rw [List.take_of_length_le (Nat.le_of_lt isShort)] at ends
          exact absurd isMember ends
        · exact isFull
      · exact isFull
    have window : (text ++ more).take bufferSize = text.take bufferSize :=
      List.take_append_of_le_length full
    have windowLength : (text.take bufferSize).length = bufferSize := by
      rw [List.length_take, Nat.min_eq_left full]
    rw [next, next, window, windowLength]
    split
    · next short =>
        rw [List.drop_append_of_le_length (Nat.le_trans short full)]
    · split
      · next isShort => exact absurd isShort (Nat.lt_irrefl _)
      · split
        · rw [List.drop_append_of_le_length
            (Nat.le_trans (Nat.sub_le bufferSize 1) full)]
        · rw [List.drop_append_of_le_length full]

/-- The lines of a text are those that are ready, and those of what is left. -/
theorem all_append (text more : Bytes) :
    all (text ++ more) = (ready text).1 ++ all ((ready text).2 ++ more) := by
  induction text using ready.induct with
  | case1 =>
      rw [ready]
      rfl
  | case2 octet rest isReady lines left readyEq ih =>
      have textNe : octet :: rest ++ more ≠ [] := List.cons_ne_nil _ _
      rw [all_of_ne_nil textNe, next_append isReady, ih, ready, if_pos isReady]
      rfl
  | case3 octet rest notReady =>
      rw [ready, if_neg notReady]
      rfl

end Ready

end Line

end Defun
