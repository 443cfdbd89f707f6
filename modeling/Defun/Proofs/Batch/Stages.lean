import Defun.Encoding
import Defun.Proofs.Batch.Source
import Defun.Proofs.Transpiler

/-!
# Stages of whole inputs

A run looks up its encoding, reads its input, parses the source text and writes
the output.  Each stage may have a fault, and several may have one at once.  A
run reports the first, and it asks the writer for nothing unless there is none
before the last stage.  How the input is cut makes no difference, since it is
gathered before it is looked at.
-/

namespace Defun

namespace Batch

/-- The stages of a run that may fail. -/
inductive Stage where
  | encoding
  | read
  | parse
  | write
deriving DecidableEq, Repr

namespace Stage

/-- How many stages come before. -/
def rank : Stage → Nat
  | encoding => 0
  | read => 1
  | parse => 2
  | write => 3

/-- How the messages of a stage begin. -/
def heading : Stage → Bytes
  | encoding => "encoding "
  | read => "read: "
  | parse => "parse: "
  | write => "write: "

end Stage

/-- The source text of the octets of an input. -/
def SourceIs (decoders : Bytes → Option (Bytes → Bytes)) (label : Bytes)
    (input : Input) (text : Bytes) : Prop :=
  ∃ decode, Decodes decoders label decode ∧ decode input.chunks.flatten = text

section Faults

variable (decoders : Bytes → Option (Bytes → Bytes)) (kinds : List Kind)
  (label : Bytes) (input : Input) (refusal : Option Bytes)

/-- A stage has a fault, whether or not the stages before it have one. -/
inductive Fault : Stage → BatchError → Prop where
  | encoding (isLabelled : label ≠ [])
      (unknown : decoders label = none) :
      Fault .encoding (.unknownEncoding label)
  | read {reason : Bytes} (fails : input.failure = some reason) :
      Fault .read (.read reason)
  | parse {text : Bytes} {located : Located SyntaxError}
      (sourceIs : SourceIs decoders label input text)
      (refused : Defun.parse (tokenize kinds text) = .error located) :
      Fault .parse (.transpile (.syntactic located))
  | write {text output reason : Bytes}
      (sourceIs : SourceIs decoders label input text)
      (transpiles : transpile kinds text = .ok output)
      (outputNe : output ≠ []) (fails : refusal = some reason) :
      Fault .write (.write reason)

/-- A stage has a fault, and none before it has one. -/
structure FirstFault (stage : Stage) (error : BatchError) : Prop where
  fault : Fault decoders kinds label input refusal stage error
  first : ∀ earlier other, earlier.rank < stage.rank →
    ¬ Fault decoders kinds label input refusal earlier other

/-- How a run ends. -/
inductive Ending : Outcome → Prop where
  | unknown (isLabelled : label ≠ [])
      (unknown : decoders label = none) :
      Ending ⟨[], some (.unknownEncoding label)⟩
  | unread {text reason : Bytes} (sourceIs : SourceIs decoders label input text)
      (fails : input.failure = some reason) :
      Ending ⟨[], some (.read reason)⟩
  | refused {text : Bytes} {located : Located SyntaxError}
      (sourceIs : SourceIs decoders label input text)
      (ends : input.failure = none)
      (refused : Defun.parse (tokenize kinds text) = .error located) :
      Ending ⟨[], some (.transpile (.syntactic located))⟩
  | empty {text : Bytes} (sourceIs : SourceIs decoders label input text)
      (ends : input.failure = none)
      (transpiles : transpile kinds text = .ok []) : Ending ⟨[], none⟩
  | written {text output : Bytes}
      (sourceIs : SourceIs decoders label input text)
      (ends : input.failure = none)
      (transpiles : transpile kinds text = .ok output)
      (outputNe : output ≠ []) :
      Ending ⟨[output ++ [Bytes.newline]], refusal.map .write⟩

end Faults

section Endings

variable {decoders : Bytes → Option (Bytes → Bytes)} {kinds : List Kind}
  {label : Bytes} {input : Input} {refusal : Option Bytes} {text : Bytes}

theorem SourceIs.unique {other : Bytes}
    (sourceIs : SourceIs decoders label input text)
    (otherIs : SourceIs decoders label input other) : text = other := by
  obtain ⟨decode, decodes, rfl⟩ := sourceIs
  obtain ⟨otherDecode, otherDecodes, rfl⟩ := otherIs
  have same := decodes.decoder_eq
  rw [otherDecodes.decoder_eq] at same
  rw [Except.ok.inj same]

section Excluded

variable {earlier : Stage} {error : BatchError}

theorem not_fault_before_read (sourceIs : SourceIs decoders label input text)
    (less : earlier.rank < Stage.read.rank) :
    ¬ Fault decoders kinds label input refusal earlier error := by
  cases earlier with
  | encoding =>
      rintro ⟨isLabelled, unknown⟩
      obtain ⟨decode, decodes, -⟩ := sourceIs
      cases decodes with
      | unlabelled noLabel => exact isLabelled noLabel
      | labelled _ isKnown =>
          rw [unknown] at isKnown
          cases isKnown
  | _ => exact absurd less (by decide)

theorem not_fault_before_parse (sourceIs : SourceIs decoders label input text)
    (ends : input.failure = none) (less : earlier.rank < Stage.parse.rank) :
    ¬ Fault decoders kinds label input refusal earlier error := by
  cases earlier with
  | encoding => exact not_fault_before_read sourceIs (by decide)
  | read =>
      intro fault
      cases fault with
      | read fails =>
          rw [ends] at fails
          cases fails
  | _ => exact absurd less (by decide)

theorem not_fault_before_write {output : Bytes}
    (sourceIs : SourceIs decoders label input text)
    (ends : input.failure = none)
    (transpiles : transpile kinds text = .ok output)
    (less : earlier.rank < Stage.write.rank) :
    ¬ Fault decoders kinds label input refusal earlier error := by
  cases earlier with
  | parse =>
      intro fault
      cases fault with
      | parse otherIs refused =>
          rw [sourceIs.unique otherIs, transpile_of_parse_error refused]
            at transpiles
          cases transpiles
  | write => exact absurd less (by decide)
  | _ => exact not_fault_before_parse sourceIs ends (by decide)

end Excluded

theorem Fault.unique {stage : Stage} {error other : BatchError}
    (fault : Fault decoders kinds label input refusal stage error)
    (otherFault : Fault decoders kinds label input refusal stage other) :
    error = other := by
  cases fault with
  | encoding =>
      cases otherFault
      rfl
  | read fails =>
      cases otherFault with
      | read otherFails =>
          rw [fails] at otherFails
          cases otherFails
          rfl
  | parse sourceIs refused =>
      cases otherFault with
      | parse otherIs otherRefused =>
          rw [sourceIs.unique otherIs, otherRefused] at refused
          cases refused
          rfl
  | write _ _ _ fails =>
      cases otherFault with
      | write _ _ _ otherFails =>
          rw [fails] at otherFails
          cases otherFails
          rfl

theorem FirstFault.unique {stage otherStage : Stage} {error other : BatchError}
    (first : FirstFault decoders kinds label input refusal stage error)
    (otherFirst :
      FirstFault decoders kinds label input refusal otherStage other) :
    error = other := by
  rcases Nat.lt_trichotomy stage.rank otherStage.rank with
    less | same | greater
  · exact (otherFirst.first stage error less first.fault).elim
  · obtain rfl : stage = otherStage := by
      cases stage <;> cases otherStage <;> first | rfl | cases same
    exact first.fault.unique otherFirst.fault
  · exact (first.first otherStage other greater otherFirst.fault).elim

theorem Fault.heading_prefix {stage : Stage} {error : BatchError}
    (fault : Fault decoders kinds label input refusal stage error) :
    stage.heading <+: error.message := by
  cases fault with
  | encoding =>
      rw [BatchError.message, List.append_assoc]
      exact List.prefix_append _ _
  | read => exact List.prefix_append _ _
  | parse => exact List.prefix_append _ _
  | write => exact List.prefix_append _ _

theorem ending_run (decoders : Bytes → Option (Bytes → Bytes))
    (kinds : List Kind) (label : Bytes) (input : Input)
    (refusal : Option Bytes) :
    Ending decoders kinds label input refusal
      (run decoders kinds label input refusal) := by
  rcases decodes_or_unknown decoders label with
    ⟨decode, decodes⟩ | ⟨isLabelled, unknown⟩
  · have sourceIs : SourceIs decoders label input
        (decode input.chunks.flatten) := ⟨decode, decodes, rfl⟩
    cases failure : input.failure with
    | some reason =>
        rw [run_of_source_error (decodes.source_of_failure failure)]
        exact .unread sourceIs failure
    | none =>
        have sourceEq := decodes.source_of_end failure
        cases transpiles : transpile kinds (decode input.chunks.flatten) with
        | error error =>
            obtain ⟨located, rfl, refused⟩ :=
              exists_located_of_transpile transpiles
            rw [run_of_rendering_error sourceEq
              (rendering_of_transpile_error transpiles)]
            exact .refused sourceIs failure refused
        | ok output =>
            rw [run_of_rendering sourceEq (rendering_of_transpile transpiles)]
            cases output with
            | nil => exact .empty sourceIs failure transpiles
            | cons first rest =>
                exact .written sourceIs failure transpiles (by simp)
  · rw [run_of_source_error (source_of_unknown isLabelled unknown input)]
    exact .unknown isLabelled unknown

section Outcomes

variable {outcome : Outcome}
  (ending : Ending decoders kinds label input refusal outcome)
include ending

theorem Ending.length_writes_le : outcome.writes.length ≤ 1 := by
  cases ending <;> simp

theorem Ending.mem_writes_iff {written : Bytes} :
    written ∈ outcome.writes ↔
      ∃ text output, SourceIs decoders label input text ∧ input.failure = none ∧
        transpile kinds text = .ok output ∧ output ≠ [] ∧
        written = output ++ [Bytes.newline] := by
  constructor
  · intro member
    cases ending with
    | written sourceIs ends transpiles outputNe =>
        exact ⟨_, _, sourceIs, ends, transpiles, outputNe,
          List.mem_singleton.mp member⟩
    | _ => cases member
  · rintro ⟨text, output, sourceIs, ends, transpiles, outputNe, rfl⟩
    -- An ending without a write would be a fault or an empty output.
    have excluded {earlier : Stage} {error : BatchError}
        (less : earlier.rank < Stage.write.rank) :
        ¬ Fault decoders kinds label input refusal earlier error :=
      not_fault_before_write sourceIs ends transpiles less
    cases ending with
    | unknown isLabelled unknown =>
        exact (excluded (by decide) (.encoding isLabelled unknown)).elim
    | unread _ fails => exact (excluded (by decide) (.read fails)).elim
    | refused otherIs _ refused =>
        exact (excluded (by decide) (.parse otherIs refused)).elim
    | empty otherIs _ isEmpty =>
        rw [otherIs.unique sourceIs, transpiles] at isEmpty
        exact (outputNe (Except.ok.inj isEmpty)).elim
    | written otherIs _ otherTranspiles =>
        rw [otherIs.unique sourceIs, transpiles] at otherTranspiles
        cases otherTranspiles
        exact List.mem_singleton_self _

theorem Ending.exists_firstFault {error : BatchError}
    (failed : outcome.error = some error) :
    ∃ stage, FirstFault decoders kinds label input refusal stage error := by
  cases ending with
  | unknown isLabelled unknown =>
      cases failed
      exact ⟨.encoding, .encoding isLabelled unknown,
        fun _ _ less => absurd less (Nat.not_lt_zero _)⟩
  | unread sourceIs fails =>
      cases failed
      exact ⟨.read, .read fails,
        fun _ _ less => not_fault_before_read sourceIs less⟩
  | refused sourceIs ends refused =>
      cases failed
      exact ⟨.parse, .parse sourceIs refused,
        fun _ _ less => not_fault_before_parse sourceIs ends less⟩
  | empty => cases failed
  | written sourceIs ends transpiles outputNe =>
      obtain ⟨reason, fails, rfl⟩ := Option.map_eq_some_iff.mp failed
      exact ⟨.write, .write sourceIs transpiles outputNe fails,
        fun _ _ less => not_fault_before_write sourceIs ends transpiles less⟩

theorem Ending.not_fault (succeeded : outcome.error = none) (stage : Stage)
    (error : BatchError) :
    ¬ Fault decoders kinds label input refusal stage error := by
  cases ending with
  | empty sourceIs ends isEmpty =>
      cases stage with
      | write =>
          intro fault
          cases fault with
          | write otherIs transpiles outputNe _ =>
              rw [otherIs.unique sourceIs, isEmpty] at transpiles
              exact outputNe (Except.ok.inj transpiles).symm
      | _ => exact not_fault_before_write sourceIs ends isEmpty (by decide)
  | written sourceIs ends transpiles =>
      cases stage with
      | write =>
          intro fault
          cases fault with
          | write _ _ _ fails =>
              rw [fails] at succeeded
              cases succeeded
      | _ => exact not_fault_before_write sourceIs ends transpiles (by decide)
  | _ => cases succeeded

theorem Ending.error_eq_some_iff {error : BatchError} :
    outcome.error = some error ↔
      ∃ stage, FirstFault decoders kinds label input refusal stage error := by
  constructor
  · exact ending.exists_firstFault
  · rintro ⟨stage, first⟩
    cases reported : outcome.error with
    | none => exact (ending.not_fault reported stage error first.fault).elim
    | some other =>
        obtain ⟨otherStage, otherFirst⟩ := ending.exists_firstFault reported
        rw [otherFirst.unique first]

end Outcomes

end Endings

/-- A run writes all of the output of its input or nothing, and reports the
first of the faults of its stages.  It does so for every way to cut the
input. -/
theorem run_writes_all_or_nothing
    (decoders : Bytes → Option (Bytes → Bytes)) (kinds : List Kind)
    (label : Bytes) (input : Input) (refusal : Option Bytes) :
    (run decoders kinds label input refusal).writes.length ≤ 1 ∧
      (∀ written, written ∈ (run decoders kinds label input refusal).writes ↔
        ∃ text output, SourceIs decoders label input text ∧
          input.failure = none ∧ transpile kinds text = .ok output ∧
          output ≠ [] ∧
          written = output ++ [Bytes.newline]) ∧
      (∀ error, (run decoders kinds label input refusal).error = some error ↔
        ∃ stage, FirstFault decoders kinds label input refusal stage error) ∧
      (∀ stage error, Fault decoders kinds label input refusal stage error →
        stage.heading <+: error.message) ∧
      ∀ other : Input, other.chunks.flatten = input.chunks.flatten →
        other.failure = input.failure →
        run decoders kinds label other refusal =
          run decoders kinds label input refusal := by
  have ending := ending_run decoders kinds label input refusal
  refine ⟨ending.length_writes_le, fun written => ending.mem_writes_iff,
    fun error => ending.error_eq_some_iff,
    fun stage error fault => fault.heading_prefix, ?_⟩
  intro other octets failure
  rw [run, run, source, source, Input.contents_congr octets failure]

/-- Units of two octets that arrive apart are written in one piece, and then the
writer fails. -/
theorem run_writes_all_of_octets_apart :
    let octets := ("def f() 1 end" : Bytes).flatMap fun octet => [octet, 0]
    let whole : Input := ⟨[octets], none⟩
    let apart : Input := ⟨octets.map fun octet => [octet], none⟩
    let runOn := fun input =>
      run Encoding.decoder? Registry.default "utf-16le" input (some "full")
    runOn whole = ⟨["function f() { return 1 }\n"], some (.write "full")⟩ ∧
      runOn apart = runOn whole ∧
      ∃ stage, FirstFault Encoding.decoder? Registry.default "utf-16le" whole
          (some "full") stage (.write "full") ∧
        stage.heading <+: BatchError.message (.write "full") := by
  intro octets whole apart runOn
  have written : runOn whole =
      ⟨["function f() { return 1 }\n"], some (.write "full")⟩ := by
    decide +kernel
  have flattened : apart.chunks.flatten = whole.chunks.flatten := by
    decide +kernel
  obtain ⟨-, -, reports, headings, agrees⟩ :=
    run_writes_all_or_nothing Encoding.decoder? Registry.default "utf-16le"
      whole (some "full")
  obtain ⟨stage, first⟩ := (reports (.write "full")).mp
    (congrArg Outcome.error written)
  exact ⟨written, agrees apart flattened rfl, stage, first,
    headings stage _ first.fault⟩

end Batch

end Defun
