import Mathlib.Data.Option.Defs
import Defun.Encoding
import Defun.Proofs.Batch.Source
import Defun.Proofs.Token.Condensed
import Defun.Proofs.Transpiler

/-!
# Whole inputs with and without a label

An input without a label is taken as it is, and malformed octets in it are
dropped one by one.  An input that is labelled as UTF-8 is decoded first, and
each malformed piece of it becomes one character.  Both come to the same
result, since neither can take an ASCII octet for a part of something else.
Only the offsets and columns in errors may differ.
-/

namespace Defun

/-- Tokens of the same kind and text on the same line. -/
structure Token.SameOnLine (token other : Token) : Prop where
  kind_eq : token.kind = other.kind
  lexeme_eq : token.lexeme = other.lexeme
  line_eq : token.position.line = other.position.line

/-- Errors that are the same, up to where on its line a token stands. -/
inductive BatchError.SameOnLine : BatchError → BatchError → Prop where
  | refl (error : BatchError) : SameOnLine error error
  | syntactic {token other : Token} {cause : SyntaxError}
      (tokens : token.SameOnLine other) :
      SameOnLine (.transpile (.syntactic ⟨token, cause⟩))
        (.transpile (.syntactic ⟨other, cause⟩))

theorem Token.sameOnLine_of_onLine {token other : Token}
    (same : token.onLine = other.onLine) : token.SameOnLine other := by
  simp only [Token.onLine, Token.relocated, Position.onLine, Token.mk.injEq,
    Position.mk.injEq, true_and, and_true] at same
  exact ⟨same.1, same.2.1, same.2.2⟩

theorem Located.cause_relocated (change : Position → Position)
    (located : Located SyntaxError) :
    (located.relocated change).cause = located.cause := by
  rw [Located.relocated]
  split <;> rfl

theorem Located.sameOnLine_of_relocated {located other : Located SyntaxError}
    (same : located.relocated Position.onLine =
      other.relocated Position.onLine) :
    located.cause = other.cause ∧ located.token.SameOnLine other.token := by
  obtain ⟨token, cause⟩ := located
  obtain ⟨otherToken, otherCause⟩ := other
  obtain rfl : cause = otherCause := by
    have causeEq := congrArg Located.cause same
    rw [cause_relocated, cause_relocated] at causeEq
    exact causeEq
  refine ⟨rfl, ?_⟩
  simp only [Located.relocated] at same
  split at same
  · cases same
    exact ⟨rfl, rfl, rfl⟩
  · exact Token.sameOnLine_of_onLine (Located.mk.inj same).1

/-- Tokens that differ only in where on their lines they stand are read in the
same way. -/
theorem parse_of_map_onLine {tokens others : List Token}
    (same : tokens.map Token.onLine = others.map Token.onLine) :
    (∃ root, parse tokens = .ok root ∧ parse others = .ok root) ∨
      ∃ token other cause, parse tokens = .error ⟨token, cause⟩ ∧
        parse others = .error ⟨other, cause⟩ ∧ token.SameOnLine other := by
  have relocated := congrArg parse same
  have onLineEq : Token.onLine = Token.relocated Position.onLine := rfl
  rw [onLineEq, parse_relocated, parse_relocated] at relocated
  cases parsed : parse tokens with
  | ok root =>
      rw [parsed] at relocated
      cases otherParsed : parse others with
      | ok otherRoot =>
          rw [otherParsed] at relocated
          cases relocated
          exact Or.inl ⟨root, rfl, rfl⟩
      | error located =>
          rw [otherParsed] at relocated
          cases relocated
  | error located =>
      rw [parsed] at relocated
      cases otherParsed : parse others with
      | ok otherRoot =>
          rw [otherParsed] at relocated
          cases relocated
      | error otherLocated =>
          rw [otherParsed] at relocated
          obtain ⟨causeEq, tokens⟩ :=
            Located.sameOnLine_of_relocated (Except.error.inj relocated)
          obtain ⟨token, cause⟩ := located
          obtain ⟨other, otherCause⟩ := otherLocated
          cases causeEq
          exact Or.inr ⟨token, other, _, rfl, rfl, tokens⟩

namespace Batch

theorem rendering_of_repairs {text repaired : Bytes}
    (repairs : Utf8.Repairs text repaired) :
    (∃ shown, rendering Registry.default text = .ok shown ∧
        rendering Registry.default repaired = .ok shown) ∨
      ∃ error other, rendering Registry.default text = .error error ∧
        rendering Registry.default repaired = .error other ∧
        error.SameOnLine other := by
  rcases parse_of_map_onLine (map_onLine_tokenize_of_repairs repairs) with
    ⟨root, parsed, repairedParsed⟩ | ⟨token, other, cause, refused,
      repairedRefused, tokens⟩
  · obtain ⟨body, rfl, _⟩ := generate_of_parse parsed
    left
    rw [rendering, rendering, transpile_of_parse parsed,
      transpile_of_parse repairedParsed]
    exact ⟨_, rfl, rfl⟩
  · right
    rw [rendering, rendering, transpile_of_parse_error refused,
      transpile_of_parse_error repairedRefused]
    exact ⟨_, _, rfl, rfl, .syntactic tokens⟩

/-- Decoding UTF-8 or not makes no difference to what is written or to whether
it fails, and an error differs only in where on its line it is found.  Of the
decoder it is assumed that it copies well-formed sequences and replaces each
longest malformed piece. -/
theorem run_undecoded_agrees_with_utf8
    {decoders : Bytes → Option (Bytes → Bytes)} {decode : Bytes → Bytes}
    (isKnown : decoders "utf-8" = some decode)
    (repairs : ∀ text, Utf8.Repairs text (decode text)) (input : Input)
    (refusal : Option Bytes) :
    let undecoded := run decoders Registry.default [] input refusal
    let decoded := run decoders Registry.default "utf-8" input refusal
    undecoded.writes = decoded.writes ∧
      Option.Rel BatchError.SameOnLine undecoded.error decoded.error := by
  intro undecoded decoded
  have labelNe : Bytes.ofString "utf-8" ≠ [] := by decide +kernel
  have plain : Decodes decoders [] id := .unlabelled rfl
  have labelled : Decodes decoders "utf-8" decode := .labelled labelNe isKnown
  cases failure : input.failure with
  | some reason =>
      have plainEq : undecoded = ⟨[], some (.read reason)⟩ :=
        run_of_source_error (plain.source_of_failure failure) refusal
      have decodedEq : decoded = ⟨[], some (.read reason)⟩ :=
        run_of_source_error (labelled.source_of_failure failure) refusal
      rw [plainEq, decodedEq]
      exact ⟨rfl, .some (.refl _)⟩
  | none =>
      have plainSource := plain.source_of_end failure
      have decodedSource := labelled.source_of_end failure
      rcases rendering_of_repairs (repairs input.chunks.flatten) with
        ⟨shown, plainEq, decodedEq⟩ | ⟨error, other, plainEq, decodedEq, same⟩
      · rw [show undecoded = _ from run_of_rendering plainSource plainEq refusal,
          show decoded = _ from run_of_rendering decodedSource decodedEq refusal]
        refine ⟨rfl, ?_⟩
        cases shown.bind fun _ => refusal.map BatchError.write with
        | none => exact .none
        | some error => exact .some (.refl error)
      · rw [show undecoded = _ from
            run_of_rendering_error plainSource plainEq refusal,
          show decoded = _ from
            run_of_rendering_error decodedSource decodedEq refusal]
        exact ⟨rfl, .some same⟩

/-- A malformed piece of three octets is three characters or one, and the error
behind it is in another column. -/
theorem run_undecoded_agrees_with_utf8_malformed :
    let input : Input := ⟨["def f", [0xF0, 0x9F, 0x98], "() )"], none⟩
    let undecoded := run Encoding.decoder? Registry.default [] input none
    let decoded := run Encoding.decoder? Registry.default "utf-8" input none
    Option.Rel BatchError.SameOnLine undecoded.error decoded.error ∧
      undecoded.error ≠ decoded.error := by
  intro input undecoded decoded
  have isKnown : Encoding.decoder? "utf-8" = some Encoding.utf8.decode := by
    have found : Encoding.ofLabel? "utf-8" = some .utf8 := by decide +kernel
    rw [Encoding.decoder?, found, Option.map_some]
  exact ⟨(run_undecoded_agrees_with_utf8 isKnown Utf8.repairs_decode input
    none).2, by decide +kernel⟩

end Batch

end Defun
