import Defun.Proofs.Text.Rune

/-!
# Cutting a text between runes

A rune depends on its own octets only: what follows a well-formed sequence does
not change it, and an octet that begins none in a text begins none in a shorter
text either.  So a text can be cut wherever a rune begins, and runes that stand
next to each other in a text are the runes of their own octets.
-/

namespace Defun

namespace Rune

/-- A well-formed sequence is found again whatever follows it. -/
theorem sequence?_of_octets {lead : UInt8} {rest : Bytes} {rune : Rune}
    (found : sequence? lead rest = some rune) :
    ∃ tail others, rest = tail ++ others ∧ rune.octets = lead :: tail ∧
      ∀ after, sequence? lead (tail ++ after) = some rune := by
  unfold sequence? at found
  split at found
  · next announced second rest leadEq =>
      split at found
      · cases found
      · next inRange =>
          dsimp only at found
          split at found
          · next oneFollows =>
              obtain rfl := Option.some.inj found
              refine ⟨[second], _, rfl, rfl, ?_⟩
              intro after
              simp [sequence?, leadEq, inRange, oneFollows]
          · next third others twoFollow =>
              split at found
              · next continued =>
                  obtain rfl := Option.some.inj found
                  refine ⟨[second, third], others, rfl, rfl, ?_⟩
                  intro after
                  simp [sequence?, leadEq, inRange, twoFollow, continued]
              · cases found
          · next third fourth others threeFollow =>
              split at found
              · next continued =>
                  obtain rfl := Option.some.inj found
                  refine ⟨[second, third, fourth], others, rfl, rfl, ?_⟩
                  intro after
                  simp [sequence?, leadEq, inRange, threeFollow, continued]
              · cases found
          · cases found
  · cases found

/-- The first rune of a text is the first rune of every beginning of the text
that has all of its octets. -/
theorem first_of_prefix {octet : UInt8} {tail others shorter : Bytes}
    (octetsEq : (first octet (tail ++ others)).octets = octet :: tail)
    (front : shorter <+: others) :
    first octet (tail ++ shorter) = first octet (tail ++ others) := by
  by_cases isAscii : octet < 0x80
  · rw [first_of_ascii isAscii, first_of_ascii isAscii]
  · rw [first, if_neg isAscii] at octetsEq ⊢
    rw [first, if_neg isAscii]
    cases found : sequence? octet (tail ++ others) with
    | some rune =>
        rw [found] at octetsEq
        obtain ⟨own, _, _, ownEq, again⟩ := sequence?_of_octets found
        have sameTail : own = tail := by
          rw [Option.getD_some, ownEq] at octetsEq
          exact (List.cons.inj octetsEq).2
        rw [← sameTail, again shorter]
    | none =>
        cases shorterFound : sequence? octet (tail ++ shorter) with
        | none => rfl
        | some rune =>
            -- A sequence in the shorter text is one in the longer text too.
            obtain ⟨own, following, cut, _, again⟩ :=
              sequence?_of_octets shorterFound
            obtain ⟨rest, rfl⟩ := front
            rw [← List.append_assoc, cut, List.append_assoc, again] at found
            cases found

section Parts

variable {text : Bytes} {before after : List Rune}

theorem eq_octetsOf_append (readEq : read text = before ++ after) :
    text = octetsOf before ++ octetsOf after := by
  rw [← octetsOf_append, ← readEq, octetsOf_read]

/-- A text can be read from any of its runes on. -/
theorem read_octetsOf_right (readEq : read text = before ++ after) :
    read (octetsOf after) = after := by
  induction text using read_induction generalizing before with
  | empty =>
      obtain ⟨rfl, rfl⟩ := List.append_eq_nil_iff.mp readEq.symm
      rfl
  | step octet tail others octetsEq faithful stepEq ih =>
      cases before with
      | nil =>
          rw [List.nil_append] at readEq
          rw [← readEq, octetsOf_read]
      | cons rune before =>
          rw [stepEq] at readEq
          exact ih (List.cons.inj readEq).2

/-- A text can be read up to any of its runes. -/
theorem read_octetsOf_left (readEq : read text = before ++ after) :
    read (octetsOf before) = before := by
  induction text using read_induction generalizing before with
  | empty =>
      obtain ⟨rfl, rfl⟩ := List.append_eq_nil_iff.mp readEq.symm
      rfl
  | step octet tail others octetsEq faithful stepEq ih =>
      cases before with
      | nil => rfl
      | cons rune before =>
          rw [stepEq] at readEq
          obtain ⟨rfl, restEq⟩ := List.cons.inj readEq
          have front : octetsOf before <+: others :=
            ⟨octetsOf after, (eq_octetsOf_append restEq).symm⟩
          have sameFirst := first_of_prefix octetsEq front
          simp [octetsEq, read_cons_of_octets (by rw [sameFirst, octetsEq]),
            sameFirst, ih restEq]

end Parts

theorem octetsOf_ne_nil {runes : List Rune}
    (readEq : read (octetsOf runes) = runes) (runesNe : runes ≠ []) :
    octetsOf runes ≠ [] := by
  intro empty
  apply runesNe
  rw [← readEq, empty]
  rfl

end Rune

end Defun
