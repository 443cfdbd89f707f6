import Defun.Proofs.Transpiler
import Defun.Proofs.Tree.Words

/-!
# Writing programs down and reading them back

However the words of a program are laid out, reading the text gives the
program back, and its output is the text of the program in JavaScript.
-/

namespace Defun

theorem Layout.parse_eq {root : Node} {text : Bytes}
    (isProgram : root.isProgram = true)
    (layout : Layout false root.words text) :
    parse (tokenize Registry.default text) = .ok root := by
  have writes := layout.tokensFrom (Node.isPlain_of_mem_program isProgram)
    Position.start
  obtain ⟨program, tokensEq, treeEq⟩ :=
    Derivation.exists_program_of_words isProgram writes
  exact Derivation.parse_eq_ok_iff.mpr ⟨program, tokensEq, treeEq⟩

/-- Any layout of a program is read back as the program and transpiled to its
text. -/
theorem transpile_layout (root : Node) (text : Bytes)
    (isProgram : root.isProgram = true)
    (layout : Layout false root.words text) :
    parse (tokenize Registry.default text) = .ok root ∧
      ∃ output, root.generate = .ok output ∧
        transpile Registry.default text = .ok output := by
  have parsed := layout.parse_eq isProgram
  obtain ⟨body, rfl, generated⟩ := generate_of_parse parsed
  exact ⟨parsed, _, generated, transpile_of_parse parsed⟩

/-- Malformed octets may stand in the gaps. -/
theorem transpile_malformed_gaps :
    parse (tokenize Registry.default
        (0xFF :: Bytes.ofString "def f(x)07" ++
          0xC3 :: Bytes.ofString "end")) =
      .ok (.root [.define "f" ["x"] [.integer 7]]) ∧
    ∃ output,
      (Node.root [.define "f" ["x"] [.integer 7]]).generate = .ok output ∧
        transpile Registry.default
          (0xFF :: Bytes.ofString "def f(x)07" ++
            0xC3 :: Bytes.ofString "end") = .ok output := by
  have finish := @Layout.next true [0xC3] [] .finish [] 0 (by decide)
    (by decide) (.last (by decide))
  have number := @Layout.next false [] _ ⟨.integer, Decimal.ofInt 7⟩ _ 1
    (by decide) (by decide) finish
  have closing := @Layout.next true [] _ .closing _ 0 (by decide)
    (by decide) number
  have parameter := @Layout.next false [] _ (.name "x") _ 0 (by decide)
    (by decide) closing
  have opening := @Layout.next true [] _ .opening _ 0 (by decide)
    (by decide) parameter
  have name := @Layout.next true [0x20] _ (.name "f") _ 0 (by decide)
    (by decide) opening
  have define := @Layout.next false [0xFF] _ .define _ 0 (by decide)
    (by decide) name
  exact transpile_layout _ _ (by decide) define

end Defun
