import Mathlib.Data.List.DropRight
import Defun.Proofs.Text.Boundary
import Defun.Proofs.Token.Concatenation

/-!
# True positions

Splitting a text into tokens keeps a position up to date rune by rune, through
gaps and through lexemes, and begins a new column at every line feed.  The same
position can be told from the octets in front of it alone: their number, the
number of line feeds among them, and the number of runes behind the last line
feed.  This holds for every registry, also where lexemes go over several lines
and where octets are malformed.
-/

namespace Defun

namespace Bytes

/-- The octets behind the last line feed of a text. -/
def lastLine (text : Bytes) : Bytes :=
  text.rtakeWhile (· != newline)

theorem lastLine_append {after : Bytes} (noNewline : newline ∉ after)
    (text : Bytes) : lastLine (text ++ after) = lastLine text ++ after := by
  have allPass : ∀ octet ∈ after.reverse, (octet != newline) = true := by
    intro octet member
    rw [bne_iff_ne]
    rintro rfl
    exact noNewline (List.mem_reverse.mp member)
  rw [lastLine, lastLine, List.rtakeWhile, List.rtakeWhile,
    List.reverse_append, List.takeWhile_append_of_pos allPass,
    List.reverse_append, List.reverse_reverse]

@[simp]
theorem lastLine_append_newline (text : Bytes) :
    lastLine (text ++ [newline]) = [] :=
  List.rtakeWhile_concat_neg _ text newline (by decide)

end Bytes

namespace Rune

/-- The runes behind the last line feed of a text. -/
def lastLine (text : List Rune) : List Rune :=
  text.rtakeWhile fun rune => rune.char != '\n'

theorem Faithful.octets_of_newline {rune : Rune} (faithful : rune.Faithful)
    (isNewline : rune.char = '\n') : rune.octets = [Bytes.newline] := by
  rcases faithful with ⟨octet, _, rfl⟩ | ⟨charBeyond, _⟩
  · rw [ascii_char_eq_iff] at isNewline
    have octetEq : octet = Bytes.newline := UInt8.toNat_inj.mp isNewline
    rw [octetEq]
    rfl
  · rw [isNewline] at charBeyond
    exact absurd charBeyond (by decide)

theorem Faithful.newline_notMem {rune : Rune} (faithful : rune.Faithful)
    (notNewline : rune.char ≠ '\n') : Bytes.newline ∉ rune.octets := by
  rw [← List.count_eq_zero, faithful.newline, beq_eq_false_iff_ne.mpr notNewline]
  rfl

/-- A line feed is a rune and an octet at once, so that the last line is the
same for both. -/
theorem lastLine_octetsOf {text : List Rune}
    (faithful : ∀ rune ∈ text, rune.Faithful) :
    Bytes.lastLine (octetsOf text) = octetsOf (lastLine text) := by
  induction text using List.reverseRecOn with
  | nil => rfl
  | append_singleton before rune ih =>
      have beforeFaithful : ∀ other ∈ before, other.Faithful :=
        fun other member => faithful other (List.mem_append_left _ member)
      have runeFaithful : rune.Faithful := faithful rune (by simp)
      have lastOctets : octetsOf [rune] = rune.octets := List.append_nil _
      rw [octetsOf_append, lastOctets, lastLine]
      by_cases isNewline : rune.char = '\n'
      · rw [runeFaithful.octets_of_newline isNewline,
          Bytes.lastLine_append_newline,
          List.rtakeWhile_concat_neg _ _ _ (by simpa using isNewline)]
        rfl
      · rw [Bytes.lastLine_append (runeFaithful.newline_notMem isNewline),
          List.rtakeWhile_concat_pos _ _ _ (by simpa using isNewline),
          octetsOf_append, lastOctets, ih beforeFaithful, lastLine]

end Rune

namespace Position

/-- The place behind a text. -/
def behind (text : Bytes) : Position :=
  ⟨text.length, 1 + text.count Bytes.newline,
    1 + (Rune.read text.lastLine).length⟩

@[simp]
theorem advanceAll_concat (position : Position) (text : List Rune)
    (rune : Rune) :
    position.advanceAll (text ++ [rune]) =
      (position.advanceAll text).advance rune :=
  List.foldl_concat _ _ _ _

@[simp]
theorem advanceAll_column (text : List Rune) :
    (start.advanceAll text).column = 1 + (Rune.lastLine text).length := by
  induction text using List.reverseRecOn with
  | nil => rfl
  | append_singleton before rune ih =>
      rw [advanceAll_concat, advance, Rune.lastLine]
      by_cases isNewline : rune.char = '\n'
      · rw [if_pos (beq_iff_eq.mpr isNewline),
          List.rtakeWhile_concat_neg _ _ _ (by simpa using isNewline)]
        rfl
      · rw [if_neg (by simpa using isNewline),
          List.rtakeWhile_concat_pos _ _ _ (by simpa using isNewline),
          List.length_append, List.length_singleton, ← Rune.lastLine]
        simp only [ih]
        omega

/-- Advancing over the first runes of a text leads to the place behind their
octets. -/
theorem advanceAll_eq_behind {text : Bytes} {before after : List Rune}
    (readEq : Rune.read text = before ++ after) :
    start.advanceAll before = behind (Rune.octetsOf before) := by
  have faithful : ∀ rune ∈ before, rune.Faithful := by
    intro rune member
    have inText : rune ∈ Rune.read text := by
      rw [readEq]
      exact List.mem_append_left _ member
    exact Rune.faithful_of_mem_read inText
  obtain ⟨offsetEq, lineEq⟩ := advanceAll_offset_line faithful start
  -- The last line stands between a line feed and the cut, so that its octets
  -- are read as the runes that they were.
  have readLine : Rune.read (Rune.octetsOf (Rune.lastLine before)) =
      Rune.lastLine before := by
    have cut : before.rdropWhile (fun rune => rune.char != '\n') ++
        Rune.lastLine before = before :=
      List.rdropWhile_append_rtakeWhile
    exact Rune.read_octetsOf_right
      ((Rune.read_octetsOf_left readEq).trans cut.symm)
  have columnEq : (start.advanceAll before).column =
      1 + (Rune.read (Rune.octetsOf before).lastLine).length := by
    simp [Rune.lastLine_octetsOf faithful, readLine]
  rw [behind, ← columnEq]
  generalize start.advanceAll before = position at offsetEq lineEq ⊢
  obtain ⟨offset, line, column⟩ := position
  simp only [start] at offsetEq lineEq
  rw [offsetEq, lineEq, Int.zero_add]

end Position

/-- Every token begins somewhere in the text, at the position that is reached
there. -/
theorem Lexer.exists_cut_of_mem_tokensFrom {kinds : List Kind}
    {position : Position} {pending : Nat} {text : List Rune} {token : Token}
    (member : token ∈ tokensFrom kinds position pending text) :
    ∃ before after, text = before ++ after ∧ after ≠ [] ∧
      token.position = position.advanceAll before ∧
      token.lexeme <+: Rune.octetsOf after := by
  induction text generalizing position pending with
  | nil => cases member
  | cons rune rest ih =>
      -- A token of the rest has the first rune in front of it as well.
      have later {left : Nat}
          (member : token ∈ tokensFrom kinds (position.advance rune) left
            rest) :
          ∃ before after, rune :: rest = before ++ after ∧ after ≠ [] ∧
            token.position = position.advanceAll before ∧
            token.lexeme <+: Rune.octetsOf after := by
        obtain ⟨before, after, rfl, afterNe, positionEq, front⟩ := ih member
        exact ⟨rune :: before, after, rfl, afterNe, positionEq, front⟩
      cases pending with
      | succ left => exact later member
      | zero =>
          rw [tokensFrom] at member
          split at member
          · next kind count found =>
              rcases List.mem_cons.mp member with rfl | inRest
              · refine ⟨[], rune :: rest, rfl, List.cons_ne_nil _ _, rfl, ?_⟩
                refine ⟨Rune.octetsOf ((rune :: rest).drop count), ?_⟩
                rw [← Rune.octetsOf_append, List.take_append_drop]
              · exact later inRest
          · exact later member

/-- The position of a token counts what stands in front of its lexeme: the
octets, the line feeds and the runes behind the last of them. -/
theorem position_of_mem_tokenize {kinds : List Kind} {source : Bytes}
    {token : Token} (member : token ∈ tokenize kinds source) :
    ∃ offset : Nat, offset < source.length ∧
      token.lexeme <+: source.drop offset ∧
      token.position =
        ⟨offset, 1 + (source.take offset).count Bytes.newline,
          1 + (Rune.read (Bytes.lastLine (source.take offset))).length⟩ := by
  obtain ⟨before, after, readEq, afterNe, positionEq, front⟩ :=
    Lexer.exists_cut_of_mem_tokensFrom member
  have sourceEq := Rune.eq_octetsOf_append readEq
  have restNe := Rune.octetsOf_ne_nil (Rune.read_octetsOf_right readEq) afterNe
  refine ⟨(Rune.octetsOf before).length, ?_, ?_, ?_⟩
  · rw [sourceEq, List.length_append]
    have := List.length_pos_iff.mpr restNe
    omega
  · rw [sourceEq, List.drop_left]
    exact front
  · rw [positionEq, Position.advanceAll_eq_behind readEq, sourceEq,
      List.take_left]
    rfl

/-- A word behind a quotation that goes over two lines, with a malformed octet
and characters of two octets in front. -/
theorem position_behind_lines_of_quotation :
    let kinds : List Kind :=
      [("quotation", "\"[^\"]*\""), ("word", "[a-z]+")].filterMap
        fun (name, pattern) => (Kind.compile name pattern).toOption
    let source : Bytes := "é" ++ 0xFF :: Bytes.ofString "\"a\nü\" x"
    let token : Token := ⟨kinds[1]?, "x", ⟨10, 2, 4⟩⟩
    token ∈ tokenize kinds source ∧
      ∃ offset : Nat, offset < source.length ∧
        token.lexeme <+: source.drop offset ∧
        token.position =
          ⟨offset, 1 + (source.take offset).count Bytes.newline,
            1 + (Rune.read (Bytes.lastLine (source.take offset))).length⟩ := by
  intro kinds source token
  have member : token ∈ tokenize kinds source := by decide +kernel
  exact ⟨member, position_of_mem_tokenize member⟩

end Defun
