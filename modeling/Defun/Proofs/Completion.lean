import Defun.Proofs.Grammar.Likeness
import Defun.Proofs.Grammar.Viability
import Defun.Proofs.Session
import Defun.Proofs.Tree.Words

/-!
# Completing what waits

A session that waits can be completed by a single line.  The tokens that
complete a place of the grammar are written on a line, each behind a space, and
read back behind the lines that wait.  Reading them does not depend on what those
lines end in, since a line feed ends every token.
-/

namespace Defun

namespace Word

/-- A word as a token at no place in particular. -/
def token (word : Word) : Token :=
  word.category.token word.lexeme

/-- Words on a line, each behind a space. -/
def spaced (words : List Word) : Bytes :=
  words.flatMap fun word => Bytes.octet ' ' :: word.lexeme

theorem layout_spaced (words : List Word) (afterWord : Bool) :
    Layout afterWord words (spaced words) := by
  induction words generalizing afterWord with
  | nil => exact .last rfl
  | cons word words ih =>
      have written : word.written 0 = word.lexeme := by
        rw [Word.written]
        split <;> rfl
      have laidOut := @Layout.next afterWord [Bytes.octet ' '] _ word words 0
        (by decide) (fun _ _ => List.cons_ne_nil _ _) (ih _)
      rw [written] at laidOut
      exact laidOut

theorem alike_of_writes {word : Word} (notInteger : word.category ≠ .integer)
    {token : Token} (writes : token.Writes word) :
    token.Alike word.token := by
  obtain ⟨kindEq, zeros, lexemeEq⟩ := writes
  rw [Word.written, if_neg notInteger] at lexemeEq
  exact ⟨Token.kindName?_of_kind kindEq, fun _ => lexemeEq⟩

theorem alike_map_of_writes {tokens : List Token} {words : List Word}
    (notInteger : ∀ word ∈ words, word.category ≠ .integer)
    (writes : List.Forall₂ Token.Writes tokens words) :
    List.Forall₂ Token.Alike tokens (words.map token) := by
  induction writes with
  | nil => exact .nil
  | cons writesWord _ ih =>
      rw [List.forall_mem_cons] at notInteger
      exact .cons (alike_of_writes notInteger.1 writesWord) (ih notInteger.2)

end Word

/-- The words that complete places of the grammar. -/
def closingWords : List Word :=
  [.opening, .closing, .finish, .name "f", .name "x"]

theorem isPlain_of_mem_closingWords :
    ∀ word ∈ closingWords, word.isPlain = true := by
  decide

theorem not_integer_of_mem_closingWords :
    ∀ word ∈ closingWords, word.category ≠ .integer := by
  decide

theorem Surroundings.completion_subset (around : Surroundings) :
    around.completion ⊆ closingWords.map Word.token := by
  obtain ⟨header, calls⟩ := around
  intro token member
  rcases List.mem_append.mp member with isClosing | isFinish
  · rw [List.eq_of_mem_replicate isClosing]
    decide
  · cases header with
    | none => cases isFinish
    | some header =>
        rw [List.mem_singleton.mp isFinish]
        decide

theorem State.completion_subset (state : State) :
    state.completion ⊆ closingWords.map Word.token := by
  cases state with
  | firstArgument name around =>
      exact List.cons_subset.mpr ⟨by decide, around.completion_subset⟩
  | nextArgument around =>
      exact List.cons_subset.mpr ⟨by decide, around.completion_subset⟩
  | identifier name around => exact around.completion_subset
  | complete node around => exact around.completion_subset
  | _ =>
      rw [completion]
      decide

theorem exists_words_of_subset {tokens : List Token}
    (written : tokens ⊆ closingWords.map Word.token) :
    ∃ words ⊆ closingWords, words.map Word.token = tokens := by
  induction tokens with
  | nil => exact ⟨[], List.nil_subset _, rfl⟩
  | cons token tokens ih =>
      obtain ⟨member, others⟩ := List.cons_subset.mp written
      obtain ⟨word, wordMem, rfl⟩ := List.mem_map.mp member
      obtain ⟨words, subset, rfl⟩ := ih others
      exact ⟨word :: words, List.cons_subset.mpr ⟨wordMem, subset⟩, rfl⟩

/-- A place of the grammar is completed by the tokens of a line. -/
theorem Progress.exists_line (progress : Progress) :
    ∃ line tree, Bytes.newline ∉ line ∧
      progress.result (tokenize Registry.default line) = .ok tree := by
  obtain ⟨tree, completed⟩ := progress.result_completion
  obtain ⟨words, subset, wordsEq⟩ :=
    exists_words_of_subset progress.state.completion_subset
  refine ⟨Word.spaced words, tree, ?_, ?_⟩
  · have oneLine : ∀ word ∈ closingWords,
        Bytes.newline ∉ Bytes.octet ' ' :: word.lexeme := by
      decide
    intro member
    obtain ⟨word, wordMem, inWord⟩ := List.mem_flatMap.mp member
    exact oneLine word (subset wordMem) inWord
  · have alike : List.Forall₂ Token.Alike
        (tokenize Registry.default (Word.spaced words))
        progress.state.completion := by
      rw [← wordsEq]
      apply Word.alike_map_of_writes
      · intro word member
        exact not_integer_of_mem_closingWords word (subset member)
      · apply (Word.layout_spaced words false).tokensFrom
        intro word member
        exact isPlain_of_mem_closingWords word (subset member)
    rcases exists_of_mapError_cause_eq (progress.result_alike alike) with
      ⟨found, accepted, acceptedToo⟩ | ⟨_, located, _, refused, _⟩
    · rw [completed] at acceptedToo
      cases acceptedToo
      exact accepted
    · rw [completed] at refused
      cases refused

/-- What ends too early was read so far. -/
theorem exists_readAll_of_unexpectedEnd {tokens : List Token}
    {located : Located SyntaxError}
    (refused : parse tokens = .error located)
    (early : located.cause.isUnexpectedEnd = true) :
    ∃ last, Progress.program.readAll tokens = .ok last := by
  cases readTokens : Progress.program.readAll tokens with
  | ok last => exact ⟨last, rfl⟩
  | error found =>
      rw [parse_eq_result, Progress.result, readTokens] at refused
      cases refused
      obtain ⟨_, _, _, _, _, _, stepped⟩ :=
        Progress.exists_refused_token readTokens
      rcases State.step_error stepped with rfl | ⟨rfl, _⟩ <;> cases early

/-- A program with tokens has an output. -/
theorem stacked_ne_nil_of_parse {tokens : List Token} {body : List Node}
    (accepted : parse tokens = .ok (.root body)) (tokensNe : tokens ≠ []) :
    Bytes.stacked (body.map Node.rendered) ≠ [] := by
  obtain ⟨⟨definitions⟩, rfl, treeEq⟩ :=
    Derivation.parse_eq_ok_iff.mp accepted
  cases treeEq
  cases definitions with
  | nil => exact absurd rfl tokensNe
  | cons definition others =>
      intro empty
      have noText := List.filter_eq_nil_iff.mp
        (Bytes.stacked_eq_nil_iff.mp empty) definition.tree.rendered
        List.mem_cons_self
      simp [definition.rendered_tree_ne_nil] at noText

/-- A text that ends too early is completed by a further line. -/
theorem exists_line_of_unexpectedEnd {text : Bytes} {error : TranspileError}
    (failed : transpile Registry.default text = .error error)
    (early : error.isUnexpectedEnd = true) :
    ∃ line output, Bytes.newline ∉ line ∧
      transpile Registry.default (text ++ Bytes.newline :: line) =
        .ok output ∧ output ≠ [] := by
  obtain ⟨located, rfl, refused⟩ := exists_located_of_transpile failed
  obtain ⟨last, readText⟩ := exists_readAll_of_unexpectedEnd refused early
  obtain ⟨line, tree, oneLine, completed⟩ := last.exists_line
  have accepted : parse (tokenize Registry.default
      (text ++ Bytes.newline :: line)) = .ok tree := by
    rw [tokenize_append_newline, parse_eq_result,
      Progress.result_append_of_readAll readText]
    -- The places of the tokens on the line do not matter.
    exact (Progress.result_relocated _ last _).trans
      (congrArg (Except.mapError _) completed)
  have tokensNe : tokenize Registry.default
      (text ++ Bytes.newline :: line) ≠ [] := by
    rw [tokenize_append_newline]
    apply List.append_ne_nil_of_left_ne_nil
    intro noTokens
    rw [noTokens] at refused
    cases refused
  obtain ⟨body, rfl, _⟩ := generate_of_parse accepted
  exact ⟨line, _, oneLine, transpile_of_parse accepted,
    stacked_ne_nil_of_parse accepted tokensNe⟩

namespace Session

theorem waits_feed (session : Session) (line : Bytes) :
    (session.feed Registry.default line).1.Waits := by
  cases transpiled : transpile Registry.default
      (Bytes.unlines (session.pending ++ [line])) with
  | ok output =>
      rw [feed_of_ok transpiled]
      exact Or.inl rfl
  | error error =>
      cases early : error.isUnexpectedEnd with
      | true =>
          rw [feed_of_unexpectedEnd transpiled early]
          exact Or.inr ⟨error, transpiled, early⟩
      | false =>
          rw [feed_of_error transpiled early]
          exact Or.inl rfl

theorem waits_feedAll (lines : List Bytes) {session : Session}
    (waits : session.Waits) :
    (session.feedAll Registry.default lines).1.Waits := by
  induction lines generalizing session with
  | nil => exact waits
  | cons line rest ih =>
      rw [feedAll_cons]
      exact ih (session.waits_feed line)

/-- Whatever lines were fed, if the session waits then one more line completes
it with an output. -/
theorem exists_completing_line (lines : List Bytes)
    (waiting : (fresh.feedAll Registry.default lines).1.continuing = true) :
    ∃ line output, Bytes.newline ∉ line ∧
      ((fresh.feedAll Registry.default lines).1.feed Registry.default
        line).2.result = some (.ok output) ∧
      output ≠ [] := by
  generalize reached : (fresh.feedAll Registry.default lines).1 = session
    at waiting ⊢
  have waits : session.Waits := reached ▸ waits_feedAll lines (Or.inl rfl)
  have pendingNe : session.pending ≠ [] := by
    simpa [continuing] using waiting
  obtain ⟨error, failed, early⟩ := waits.resolve_left pendingNe
  obtain ⟨line, output, oneLine, transpiled, outputNe⟩ :=
    exists_line_of_unexpectedEnd failed early
  refine ⟨line, output, oneLine, ?_, outputNe⟩
  rw [← Bytes.unlines_singleton line,
    ← Bytes.unlines_append pendingNe (List.cons_ne_nil _ _)] at transpiled
  rw [feed_of_ok transpiled]

/-- A comment-like line in front, a call that is open and malformed octets at
the end. -/
theorem exists_completing_line_open_call :
    (fresh.feedAll Registry.default
      ["# ;", "def f(x", ") g(h(1,", [0xC3, 0xFF]]).1.continuing = true ∧
    ∃ line output, Bytes.newline ∉ line ∧
      ((fresh.feedAll Registry.default
        ["# ;", "def f(x", ") g(h(1,", [0xC3, 0xFF]]).1.feed Registry.default
        line).2.result = some (.ok output) ∧
      output ≠ [] := by
  have waiting : (fresh.feedAll Registry.default
      ["# ;", "def f(x", ") g(h(1,", [0xC3, 0xFF]]).1.continuing = true := by
    decide +kernel
  exact ⟨waiting, exists_completing_line _ waiting⟩

end Session

end Defun
