import Defun.Main
import Defun.Files.Sources
import Defun.Command
import Defun.World
import Defun.Proofs.Command.Batch
import Defun.Proofs.Command.Prompt
import Defun.Proofs.Grammar.Places
import Defun.TestCase
import Defun.Proofs.Grammar.Viability
import Defun.Proofs.Grammar.Derivation
import Defun.Proofs.Grammar.Recognition
import Defun.Proofs.Pattern.WordProgram
import Defun.Proofs.Text.Rune
import Defun.Proofs.Token.DefaultKinds
import Defun.Proofs.Token.Concatenation
import Defun.Proofs.Grammar.Concatenation
import Defun.Proofs.Text.Lines
import Defun.Proofs.Transpiler
import Defun.Proofs.Session
import Defun.Proofs.Text.Ascii
import Defun.Proofs.Text.Decimal
import Defun.Proofs.Token.Layout
import Defun.Proofs.Tree.Words
import Defun.Proofs.RoundTrip
import Defun.Proofs.Text.Pieces
import Defun.Proofs.Token.Pieces
import Defun.Proofs.Tree.Vocabulary
import Defun.Proofs.OutputLanguage
import Defun.Proofs.Tree.Unambiguous
import Defun.Proofs.Completion
import Defun.Proofs.Session.Buffer
import Defun.Proofs.Text.Utf8
import Defun.Proofs.Batch.Labels
import Defun.Proofs.Text.Boundary
import Defun.Proofs.Token.Position
import Defun.Proofs.Token.Tiling
import Defun.Proofs.Grammar.Descent
import Defun.Proofs.Grammar.Agreement
import Defun.Proofs.Grammar.Calls
import Defun.Proofs.Grammar.Expectation
import Defun.Proofs.Grammar.Likeness
import Defun.Proofs.Tree.Reparse
import Defun.Proofs.Token.Priority
import Defun.Proofs.Grammar.Literal
import Defun.Proofs.Token.Registration
import Defun.Proofs.Batch.Stages
import Defun.Proofs.Tree.Traversal
import Defun.Proofs.Tree.SExpression
import Defun.Proofs.Tree.Parentheses
