import Defun.Batch

/-!
# Sources of whole inputs

The source text of an input is had if its label names a decoder and it can be
read to its end.  It is what the decoder makes of all octets of the input,
wherever the input is cut.
-/

namespace Defun

namespace Input

variable {input : Input}

/-- What is read from an input is gathered in order, wherever it is cut. -/
@[simp]
theorem readOn_none (read : Bytes) (chunks : List Bytes) :
    readOn none read chunks = .ok (read.reverse ++ chunks.flatten) := by
  induction chunks generalizing read with
  | nil => simp [readOn]
  | cons chunk rest ih =>
      rw [readOn, ih, List.reverseAux_eq]
      simp

@[simp]
theorem readOn_some (reason read : Bytes) (chunks : List Bytes) :
    readOn (some reason) read chunks = .error reason := by
  induction chunks generalizing read with
  | nil => rfl
  | cons chunk rest ih => exact ih (chunk.reverseAux read)

theorem contents_of_end (ends : input.failure = none) :
    input.contents = .ok input.chunks.flatten := by
  simp [contents, ends]

theorem contents_of_failure {reason : Bytes}
    (fails : input.failure = some reason) : input.contents = .error reason := by
  simp [contents, fails]

theorem contents_congr {other : Input}
    (octets : other.chunks.flatten = input.chunks.flatten)
    (failure : other.failure = input.failure) :
    other.contents = input.contents := by
  cases fails : input.failure with
  | none =>
      rw [contents_of_end fails, contents_of_end (failure.trans fails), octets]
  | some reason =>
      rw [contents_of_failure fails,
        contents_of_failure (failure.trans fails)]

end Input

namespace Batch

variable {decoders : Bytes → Option (Bytes → Bytes)} {label : Bytes}

/-- How the octets of an input become a source text. -/
inductive Decodes (decoders : Bytes → Option (Bytes → Bytes)) (label : Bytes) :
    (Bytes → Bytes) → Prop where
  | unlabelled (noLabel : label = []) : Decodes decoders label id
  | labelled {decode : Bytes → Bytes} (isLabelled : label ≠ [])
      (isKnown : decoders label = some decode) : Decodes decoders label decode

theorem decodes_or_unknown (decoders : Bytes → Option (Bytes → Bytes))
    (label : Bytes) :
    (∃ decode, Decodes decoders label decode) ∨
      label ≠ [] ∧ decoders label = none := by
  by_cases isLabelled : label = []
  · exact Or.inl ⟨id, .unlabelled isLabelled⟩
  · cases isKnown : decoders label with
    | none => exact Or.inr ⟨isLabelled, rfl⟩
    | some decode => exact Or.inl ⟨_, .labelled isLabelled isKnown⟩

section Decodes

variable {decode : Bytes → Bytes} (decodes : Decodes decoders label decode)
  {input : Input}

include decodes

theorem Decodes.decoder_eq : decoder decoders label = .ok decode := by
  cases decodes with
  | unlabelled noLabel =>
      rw [decoder, noLabel]
      rfl
  | labelled isLabelled isKnown =>
      rw [decoder, List.isEmpty_eq_false_iff.mpr isLabelled, isKnown]
      rfl

theorem Decodes.source_of_end (ends : input.failure = none) :
    source decoders label input = .ok (decode input.chunks.flatten) := by
  rw [source, decodes.decoder_eq, Input.contents_of_end ends]
  rfl

theorem Decodes.source_of_failure {reason : Bytes}
    (fails : input.failure = some reason) :
    source decoders label input = .error (.read reason) := by
  rw [source, decodes.decoder_eq, Input.contents_of_failure fails]
  rfl

end Decodes

/-- An unknown label counts before anything is read. -/
theorem source_of_unknown (isLabelled : label ≠ [])
    (unknown : decoders label = none) (input : Input) :
    source decoders label input = .error (.unknownEncoding label) := by
  rw [source, decoder, List.isEmpty_eq_false_iff.mpr isLabelled, unknown]
  rfl

section Run

variable {kinds : List Kind} {input : Input} {text : Bytes}
  {error : BatchError}

theorem run_of_source_error
    (noSource : source decoders label input = .error error)
    (refusal : Option Bytes) :
    run decoders kinds label input refusal = ⟨[], some error⟩ := by
  rw [run, noSource]
  rfl

theorem rendering_of_transpile_error {cause : TranspileError}
    (refused : transpile kinds text = .error cause) :
    rendering kinds text = .error (.transpile cause) := by
  rw [rendering, refused]

theorem rendering_of_transpile {output : Bytes}
    (transpiles : transpile kinds text = .ok output) :
    rendering kinds text =
      .ok (if output.isEmpty then none
        else some (output ++ [Bytes.newline])) := by
  rw [rendering, transpiles]

theorem run_of_rendering_error
    (sourceEq : source decoders label input = .ok text)
    (refused : rendering kinds text = .error error) (refusal : Option Bytes) :
    run decoders kinds label input refusal = ⟨[], some error⟩ := by
  have bound : source decoders label input >>= rendering kinds =
      .error error := by
    rw [sourceEq]
    exact refused
  rw [run, bound]

theorem run_of_rendering {shown : Option Bytes}
    (sourceEq : source decoders label input = .ok text)
    (rendered : rendering kinds text = .ok shown) (refusal : Option Bytes) :
    run decoders kinds label input refusal =
      ⟨shown.toList, shown.bind fun _ => refusal.map .write⟩ := by
  have bound : source decoders label input >>= rendering kinds = .ok shown := by
    rw [sourceEq]
    exact rendered
  rw [run, bound]
  cases shown <;> rfl

end Run

end Batch

end Defun
