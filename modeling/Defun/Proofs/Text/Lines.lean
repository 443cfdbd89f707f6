import Defun.Text.Bytes

/-!
# Texts of several lines

Texts without the empty ones among them, one line each, can be stacked in
parts.
-/

namespace Defun

namespace Bytes

@[simp]
theorem join_cons_cons (separator first second : Bytes)
    (rest : List Bytes) :
    join separator (first :: second :: rest) =
      first ++ separator ++ join separator (second :: rest) := by
  rw [join, List.intercalate_cons_cons, ← join]

theorem join_cons (separator first : Bytes) (rest : List Bytes) :
    join separator (first :: rest) =
      first ++ rest.flatMap fun next => separator ++ next := by
  induction rest generalizing first with
  | nil => simp [join]
  | cons second rest ih =>
      simp [ih]

@[simp]
theorem unlines_singleton (line : Bytes) : unlines [line] = line := by
  rw [unlines, join, List.intercalate_singleton]

@[simp]
theorem unlines_cons_cons (first second : Bytes) (rest : List Bytes) :
    unlines (first :: second :: rest) =
      first ++ newline :: unlines (second :: rest) := by
  simp [unlines]

theorem unlines_append {before after : List Bytes} (beforeNe : before ≠ [])
    (afterNe : after ≠ []) :
    unlines (before ++ after) =
      unlines before ++ newline :: unlines after := by
  induction before with
  | nil => exact absurd rfl beforeNe
  | cons first rest ih =>
      cases rest with
      | nil =>
          obtain ⟨second, others, rfl⟩ := List.exists_cons_of_ne_nil afterNe
          simp
      | cons second rest =>
          rw [List.cons_append, List.cons_append, unlines_cons_cons,
            unlines_cons_cons, ← List.cons_append,
            ih (List.cons_ne_nil second rest), List.append_assoc,
            List.cons_append]

/-- The texts that are not empty, one line each. -/
def stacked (texts : List Bytes) : Bytes :=
  unlines (texts.filter fun text => !text.isEmpty)

@[simp]
theorem stacked_singleton (text : Bytes) : stacked [text] = text := by
  cases text with
  | nil => rfl
  | cons octet rest => exact unlines_singleton (octet :: rest)

theorem stacked_of_ne_nil {texts : List Bytes}
    (textsNe : ∀ text ∈ texts, text ≠ []) : stacked texts = unlines texts := by
  have kept : texts.filter (fun text => !text.isEmpty) = texts := by
    rw [List.filter_eq_self]
    intro text member
    simpa using textsNe text member
  rw [stacked, kept]

theorem stacked_eq_nil_iff {texts : List Bytes} :
    stacked texts = [] ↔ texts.filter (fun text => !text.isEmpty) = [] := by
  constructor
  · intro empty
    cases kept : texts.filter (fun text => !text.isEmpty) with
    | nil => rfl
    | cons first rest =>
        have firstNe : first ≠ [] := by
          have member : first ∈ texts.filter fun text => !text.isEmpty := by
            rw [kept]
            exact List.mem_cons_self
          simpa using (List.mem_filter.mp member).2
        rw [stacked, kept] at empty
        cases rest with
        | nil => exact absurd ((unlines_singleton first).symm.trans empty) firstNe
        | cons second rest =>
            rw [unlines_cons_cons] at empty
            simp at empty
  · intro empty
    rw [stacked, empty]
    rfl

theorem stacked_append (before after : List Bytes) :
    stacked (before ++ after) = stacked [stacked before, stacked after] := by
  by_cases beforeEmpty : stacked before = []
  · rw [beforeEmpty]
    rw [stacked_eq_nil_iff] at beforeEmpty
    rw [stacked, List.filter_append, beforeEmpty, List.nil_append, ← stacked]
    exact (stacked_singleton _).symm
  · by_cases afterEmpty : stacked after = []
    · rw [afterEmpty]
      rw [stacked_eq_nil_iff] at afterEmpty
      have dropped : stacked [stacked before, []] =
          stacked [stacked before] := by
        cases stacked before <;> rfl
      rw [dropped, stacked_singleton, stacked, List.filter_append, afterEmpty,
        List.append_nil, ← stacked]
    · have bothKept : stacked [stacked before, stacked after] =
          unlines [stacked before, stacked after] :=
        stacked_of_ne_nil (by simp [beforeEmpty, afterEmpty])
      rw [stacked_eq_nil_iff] at beforeEmpty afterEmpty
      rw [bothKept, unlines_cons_cons, unlines_singleton, stacked,
        List.filter_append, unlines_append beforeEmpty afterEmpty]
      rfl

end Bytes

end Defun
