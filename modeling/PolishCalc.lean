import PolishCalc.CommandLine.Help
import PolishCalc.CommandLine.Invocation
import PolishCalc.CommandLine.Level
import PolishCalc.CommandLine.Parser
import PolishCalc.Console
import PolishCalc.Decimal.Fixed
import PolishCalc.Decimal.Integer
import PolishCalc.Decimal.Layout
import PolishCalc.Decimal.Number
import PolishCalc.Decimal.Power
import PolishCalc.Decimal.Shortest
import PolishCalc.Dialogue
import PolishCalc.Error
import PolishCalc.Execution
import PolishCalc.Expr
import PolishCalc.Host.Account
import PolishCalc.Host.FileTree
import PolishCalc.Host.Path
import PolishCalc.Host.Script
import PolishCalc.Host.Sink
import PolishCalc.Main
import PolishCalc.Program
import PolishCalc.Report
import PolishCalc.RunError
import PolishCalc.Settings.Basic
import PolishCalc.Settings.Environment
import PolishCalc.Settings.File
import PolishCalc.Settings.KeyPath
import PolishCalc.Settings.Load
import PolishCalc.Store
import PolishCalc.Surroundings
import PolishCalc.Symbol
import PolishCalc.Text.Blank
import PolishCalc.Text.CaseTable
import PolishCalc.Text.CharRange
import PolishCalc.Text.LowerCase
import PolishCalc.Text.Printable
import PolishCalc.Text.Quoted
import PolishCalc.Text.Utf8
import PolishCalc.Toml.Lexeme
import PolishCalc.Toml.Reader
import PolishCalc.Toml.Scalar
import PolishCalc.Toml.StringForm
import PolishCalc.Toml.Table
import PolishCalc.Tree
import PolishCalc.Tree.Drawing
import PolishCalc.Tree.Scan
import PolishCalc.Tree.Traversal
import PolishCalc.Proofs.Forest
import PolishCalc.Proofs.Grammar
import PolishCalc.Proofs.Reading
import PolishCalc.Proofs.Result
import PolishCalc.Proofs.Acceptance
import PolishCalc.Proofs.Outcome
import PolishCalc.Proofs.Fold
import PolishCalc.Proofs.Traversal
import PolishCalc.Proofs.Integrity
import PolishCalc.Proofs.Interleaving
import PolishCalc.Proofs.Valuation
import PolishCalc.Proofs.Toml.StringBody
import PolishCalc.Proofs.Toml.StringForm
import PolishCalc.Proofs.Toml.Scalar
import PolishCalc.Proofs.Toml.Document
import PolishCalc.Proofs.Toml.Bounds
import PolishCalc.Proofs.Script
import PolishCalc.Proofs.Settings.RoundTrip
import PolishCalc.Proofs.Settings.Shown
import PolishCalc.Proofs.Settings.Effective
import PolishCalc.Proofs.Settings.GlobalFile
import PolishCalc.Proofs.Settings.Layers
import PolishCalc.Proofs.Settings.Variables
import PolishCalc.Proofs.Text.Line
import PolishCalc.Proofs.Text.LowerCase
import PolishCalc.Proofs.Trace
import PolishCalc.Proofs.Report
import PolishCalc.Proofs.Dialogue
import PolishCalc.Proofs.Commands
import PolishCalc.Proofs.Truncation
import PolishCalc.Proofs.Agreement
import PolishCalc.Proofs.FileTree
import PolishCalc.Proofs.Creation
import PolishCalc.Proofs.NormalForm
import PolishCalc.Proofs.Unanswered
import PolishCalc.Proofs.Failure
import PolishCalc.Proofs.Session
import PolishCalc.Proofs.Alike
import PolishCalc.Proofs.Independence
import PolishCalc.Proofs.Postorder
import PolishCalc.Proofs.Decimal.Integer
import PolishCalc.Proofs.Decimal.Value
import PolishCalc.Proofs.Decimal.Binary64
import PolishCalc.Proofs.Decimal.Nearest
import PolishCalc.Proofs.Decimal.Shortest
import PolishCalc.Proofs.Decimal.Text
import PolishCalc.Proofs.Decimal.Reading
import PolishCalc.Proofs.Decimal.Shape
import PolishCalc.Proofs.Decimal.Places
import PolishCalc.Proofs.Decimal.Ways
import PolishCalc.Proofs.Guides
import PolishCalc.Proofs.Orders
import PolishCalc.Proofs.Extent
import PolishCalc.Proofs.Pruning
import PolishCalc.Proofs.CommandLine
