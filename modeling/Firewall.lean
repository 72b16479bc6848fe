import Firewall.Calendar
import Firewall.CommandLine.Arguments
import Firewall.CommandLine.Request
import Firewall.CommandLine.Run
import Firewall.CommandLine.Usage
import Firewall.Console.Markup
import Firewall.Console.Picture
import Firewall.Console.PictureTable
import Firewall.Console.Sequence
import Firewall.Files
import Firewall.Log
import Firewall.Main
import Firewall.Number.Binary64
import Firewall.Number.Read
import Firewall.Number.Shortest
import Firewall.Policy
import Firewall.Policy.Fault
import Firewall.Policy.Load
import Firewall.Policy.Read
import Firewall.Proofs.Calendar
import Firewall.Proofs.CommandLine.Diagnostics
import Firewall.Proofs.CommandLine.FailClosed
import Firewall.Proofs.CommandLine.Invocation
import Firewall.Proofs.CommandLine.Limit
import Firewall.Proofs.CommandLine.Outcome
import Firewall.Proofs.CommandLine.Sinks
import Firewall.Proofs.CommandLine.Uncaught
import Firewall.Proofs.Console.Markup
import Firewall.Proofs.Console.Picture
import Firewall.Proofs.Console.Verbatim
import Firewall.Proofs.Failure
import Firewall.Proofs.Files
import Firewall.Proofs.Log
import Firewall.Proofs.Mapping
import Firewall.Proofs.Number.Layout
import Firewall.Proofs.Number.Proper
import Firewall.Proofs.Number.Shortest
import Firewall.Proofs.Policy.Faults
import Firewall.Proofs.Policy.Load
import Firewall.Proofs.Policy.Read
import Firewall.Proofs.Policy.Sequence
import Firewall.Proofs.Policy.Shape
import Firewall.Proofs.Policy.Slots
import Firewall.Proofs.Policy.Writing
import Firewall.Proofs.Restore.Lifecycle
import Firewall.Proofs.Ruleset.Builtin
import Firewall.Proofs.Ruleset.Checks
import Firewall.Proofs.Ruleset.Conditions
import Firewall.Proofs.Ruleset.Decoding
import Firewall.Proofs.Ruleset.FirstFault
import Firewall.Proofs.Ruleset.Framing
import Firewall.Proofs.Ruleset.Insertion
import Firewall.Proofs.Ruleset.Names
import Firewall.Proofs.Ruleset.Options
import Firewall.Proofs.Ruleset.Order
import Firewall.Proofs.Ruleset.Pieces
import Firewall.Proofs.Ruleset.Reading
import Firewall.Proofs.Ruleset.Rearranging
import Firewall.Proofs.Ruleset.Resolution
import Firewall.Proofs.Ruleset.Stated
import Firewall.Proofs.Ruleset.Tables
import Firewall.Proofs.Ruleset.Target
import Firewall.Proofs.Steps
import Firewall.Proofs.Text.Digits
import Firewall.Proofs.Text.Fork
import Firewall.Proofs.Text.LetterCase
import Firewall.Proofs.Text.Shown
import Firewall.Proofs.Value
import Firewall.Proofs.Yaml.Grammar
import Firewall.Proofs.Yaml.Keys
import Firewall.Proofs.Yaml.Lexer
import Firewall.Proofs.Yaml.NodeValue
import Firewall.Proofs.Yaml.ScalarValue
import Firewall.Proofs.Yaml.Shape
import Firewall.Restore
import Firewall.Ruleset.Compile
import Firewall.Ruleset.Directive
import Firewall.Ruleset.Group
import Firewall.Ruleset.Word
import Firewall.Settings
import Firewall.Text.Base64
import Firewall.Text.Blank
import Firewall.Text.CaseMap
import Firewall.Text.CaseTable
import Firewall.Text.CodeRange
import Firewall.Text.Digit
import Firewall.Text.HiddenTable
import Firewall.Text.Lines
import Firewall.Text.Pattern
import Firewall.Text.Shown
import Firewall.Text.Similarity
import Firewall.Text.Utf8
import Firewall.Text.Width
import Firewall.Text.Words
import Firewall.Value
import Firewall.Yaml.BlockScalar
import Firewall.Yaml.Cursor
import Firewall.Yaml.Fault
import Firewall.Yaml.Grammar
import Firewall.Yaml.Lexer
import Firewall.Yaml.Merge
import Firewall.Yaml.Node
import Firewall.Yaml.NodeValue
import Firewall.Yaml.PlainScalar
import Firewall.Yaml.Property
import Firewall.Yaml.QuotedScalar
import Firewall.Yaml.ScalarValue
import Firewall.Yaml.Tag
import Firewall.Yaml.Token
import Firewall.Proofs.Ruleset.Quoting
