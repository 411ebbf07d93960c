import FormLogic.Calendar
import FormLogic.Command.Arguments
import FormLogic.Command.Execution
import FormLogic.Command.Help
import FormLogic.Command.Report
import FormLogic.Command.Table
import FormLogic.Dict
import FormLogic.Formula.Evaluation
import FormLogic.Formula.Evaluator
import FormLogic.Formula.Fault
import FormLogic.Formula.Function
import FormLogic.Formula.Lexeme
import FormLogic.Formula.Reading
import FormLogic.Formula.References
import FormLogic.Formula.Token
import FormLogic.Formula.Tree
import FormLogic.Formula.Value
import FormLogic.Json.Codec
import FormLogic.Json.Reader
import FormLogic.Json.Stream
import FormLogic.Json.Tree
import FormLogic.Json.Writer
import FormLogic.Main
import FormLogic.Number.Arithmetic
import FormLogic.Number.Binary
import FormLogic.Number.Decimal
import FormLogic.Number.Layout
import FormLogic.Number.Shortest
import FormLogic.Options.Lookup
import FormLogic.Options.Source
import FormLogic.Pattern.CharSet
import FormLogic.Pattern.Matching
import FormLogic.Pattern.Reader
import FormLogic.Pattern.Tree
import FormLogic.Proofs.Calendar
import FormLogic.Proofs.Calendar.Layout
import FormLogic.Proofs.Dict
import FormLogic.Proofs.Formula.Acceptance
import FormLogic.Proofs.Formula.Balance
import FormLogic.Proofs.Formula.Canonical
import FormLogic.Proofs.Formula.Cut
import FormLogic.Proofs.Formula.Day
import FormLogic.Proofs.Formula.Descent
import FormLogic.Proofs.Formula.Faults
import FormLogic.Proofs.Formula.Fields
import FormLogic.Proofs.Formula.Grammar
import FormLogic.Proofs.Formula.Height
import FormLogic.Proofs.Formula.Literal
import FormLogic.Proofs.Formula.Memo
import FormLogic.Proofs.Formula.Mentions
import FormLogic.Proofs.Formula.Quotation
import FormLogic.Proofs.Formula.Reading
import FormLogic.Proofs.Formula.References
import FormLogic.Proofs.Formula.Separation
import FormLogic.Proofs.Formula.Slices
import FormLogic.Proofs.Formula.Usage
import FormLogic.Proofs.Json.Codec
import FormLogic.Proofs.Json.Number
import FormLogic.Proofs.Json.Text
import FormLogic.Proofs.Json.Tree
import FormLogic.Proofs.Number.Binary
import FormLogic.Proofs.Number.Digits
import FormLogic.Proofs.Number.Layout
import FormLogic.Proofs.Number.Nearest
import FormLogic.Proofs.Number.Shortest
import FormLogic.Proofs.Number.Whole
import FormLogic.Proofs.Options.Conjunction
import FormLogic.Proofs.Options.Lookup
import FormLogic.Proofs.Options.Quotation
import FormLogic.Proofs.Options.Source
import FormLogic.Proofs.Rules.Affected
import FormLogic.Proofs.Rules.Cycles
import FormLogic.Proofs.Rules.Flags
import FormLogic.Proofs.Rules.Graph
import FormLogic.Proofs.Rules.Nodes
import FormLogic.Proofs.Rules.Options
import FormLogic.Proofs.Rules.Order
import FormLogic.Proofs.Rules.Reads
import FormLogic.Proofs.Rules.Reordering
import FormLogic.Proofs.Rules.Update
import FormLogic.Proofs.Schema.Wire
import FormLogic.Proofs.Session.Agreement
import FormLogic.Proofs.Session.Cascade
import FormLogic.Proofs.Session.Default
import FormLogic.Proofs.Session.Literal
import FormLogic.Proofs.Session.Mandatory
import FormLogic.Proofs.Session.Offer
import FormLogic.Proofs.Session.Overwrite
import FormLogic.Proofs.Session.Path
import FormLogic.Proofs.Session.Reset
import FormLogic.Proofs.Session.Run
import FormLogic.Proofs.Session.Sections
import FormLogic.Proofs.Session.Selection
import FormLogic.Proofs.Session.Shape
import FormLogic.Proofs.Session.Start
import FormLogic.Proofs.Session.Upkeep
import FormLogic.Proofs.Text.Bytes
import FormLogic.Proofs.TypedValue
import FormLogic.Proofs.Validation.Candidate
import FormLogic.Proofs.Validation.Named
import FormLogic.Proofs.Validation.Rule
import FormLogic.Proofs.Validation.RuleSet
import FormLogic.Proofs.Validation.Verdict
import FormLogic.Rules.Graph
import FormLogic.Rules.Order
import FormLogic.Rules.Resolver
import FormLogic.Schema.Field
import FormLogic.Schema.Product
import FormLogic.Schema.Rule
import FormLogic.Schema.Wire
import FormLogic.Session
import FormLogic.Session.Default
import FormLogic.Session.Event
import FormLogic.Session.Form
import FormLogic.Session.Offer
import FormLogic.Session.Section
import FormLogic.Settings
import FormLogic.State
import FormLogic.Text.Blank
import FormLogic.Text.Case
import FormLogic.Text.Category
import FormLogic.Text.Printable
import FormLogic.Text.Quoted
import FormLogic.Text.Ranges
import FormLogic.Text.Script
import FormLogic.Text.Width
import FormLogic.Text.Words
import FormLogic.Toml.Reader
import FormLogic.Toml.Tree
import FormLogic.Toml.Writer
import FormLogic.TypedValue
import FormLogic.Validation.Rule
import FormLogic.Validation.Verdict
import FormLogic.Yaml.Writer
import FormLogic.Proofs.Formula.Descent
