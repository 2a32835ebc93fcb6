import LoanPricing.CommandLine.Options
import LoanPricing.CommandLine.Run
import LoanPricing.Config.Configuration
import LoanPricing.Config.Layers
import LoanPricing.Config.Path
import LoanPricing.Config.Setting
import LoanPricing.Decimal.Binary
import LoanPricing.Decimal.Layout
import LoanPricing.Decimal.Reader
import LoanPricing.Decimal.Shortest
import LoanPricing.Files
import LoanPricing.Json.Error
import LoanPricing.Json.Number
import LoanPricing.Json.Record
import LoanPricing.Json.Scalar
import LoanPricing.Json.Skip
import LoanPricing.Json.Text
import LoanPricing.Json.Value
import LoanPricing.Log.Entry
import LoanPricing.Log.Filter
import LoanPricing.Log.Record
import LoanPricing.Main
import LoanPricing.Pattern.Brackets
import LoanPricing.Pattern.Characters
import LoanPricing.Pattern.Escape
import LoanPricing.Pattern.Manner
import LoanPricing.Pattern.Reader
import LoanPricing.Pattern.Search
import LoanPricing.Product
import LoanPricing.Proofs.Decimal.Characters
import LoanPricing.Proofs.Json.Extent
import LoanPricing.Proofs.Json.Grammar
import LoanPricing.Proofs.Json.Lists
import LoanPricing.Proofs.Json.Literals
import LoanPricing.Proofs.Json.LiteralValue
import LoanPricing.Proofs.Json.NumberExtent
import LoanPricing.Proofs.Json.RecordExtent
import LoanPricing.Proofs.Json.Strings
import LoanPricing.Proofs.Rules.Compile
import LoanPricing.Proofs.Rules.Loading
import LoanPricing.Proofs.Rules.Snapshot
import LoanPricing.Proofs.Rules.Strict
import LoanPricing.Proofs.Rules.Tags
import LoanPricing.Proofs.Rules.Visits
import LoanPricing.Proofs.Rules.Vocabulary
import LoanPricing.Proofs.Text.Utf8
import LoanPricing.Rules.Action
import LoanPricing.Rules.Condition
import LoanPricing.Rules.Error
import LoanPricing.Rules.Evaluate
import LoanPricing.Rules.Rule
import LoanPricing.Rules.RuleSet
import LoanPricing.Session
import LoanPricing.Text.Blank
import LoanPricing.Text.Case
import LoanPricing.Text.Cased
import LoanPricing.Text.Letters
import LoanPricing.Text.Lines
import LoanPricing.Text.Lowercase
import LoanPricing.Text.Numeral
import LoanPricing.Text.Quoted
import LoanPricing.Text.Ranges
import LoanPricing.Text.Utf8
import LoanPricing.Text.Visible
import LoanPricing.Toml.Document
import LoanPricing.Toml.Moment
import LoanPricing.Toml.Scalar
import LoanPricing.Toml.Text
import LoanPricing.Toml.Value
import LoanPricing.Proofs.Json.Members
import LoanPricing.Proofs.Json.Slots
import LoanPricing.Proofs.Rules.RecordFormat
import LoanPricing.Proofs.Json.NumberText
import LoanPricing.Proofs.Json.Writing
import LoanPricing.Proofs.RoundTrip
import LoanPricing.Proofs.CommandLine.Changes
import LoanPricing.Proofs.CommandLine.Prompts
import LoanPricing.Proofs.CommandLine.ExitCodes
import LoanPricing.Proofs.Json.Acceptance
import LoanPricing.Proofs.Sessions
import LoanPricing.Proofs.Json.Document
import LoanPricing.Proofs.Json.Pretty
import LoanPricing.Proofs.CommandLine.Results
import LoanPricing.Proofs.Toml.Keys
import LoanPricing.Proofs.Config.Places
import LoanPricing.Proofs.Config.Fields
import LoanPricing.Proofs.Config.Resolution
import LoanPricing.Proofs.Config.Overrides
import LoanPricing.Proofs.Rules.Facts
import LoanPricing.Proofs.Rules.Order
import LoanPricing.Proofs.Rules.Spelling
import LoanPricing.Proofs.Log.Quiet
import LoanPricing.Proofs.CommandLine.ErrorStream
import LoanPricing.Proofs.Rules.Trace
import LoanPricing.Proofs.CommandLine.Presentation
import LoanPricing.Proofs.Decimal.Negation
import LoanPricing.Proofs.Rules.Origins
import LoanPricing.Proofs.Rules.Bookkeeping
import LoanPricing.Proofs.Decimal.Arithmetic
import LoanPricing.Proofs.Decimal.Magnitude
import LoanPricing.Proofs.Json.NumberRange
import LoanPricing.Proofs.Json.Gathering
import LoanPricing.Proofs.Rules.FirstFault
import LoanPricing.Proofs.Rules.Rates
import LoanPricing.Proofs.Rules.FiniteAmounts
import LoanPricing.Proofs.Rules.CreditScore
import LoanPricing.Proofs.Config.Reported
import LoanPricing.Proofs.Rules.Events
import LoanPricing.Proofs.CommandLine.ScoreTexts
import LoanPricing.Proofs.Text.LossyLines
import LoanPricing.Proofs.CommandLine.PromptedLines
