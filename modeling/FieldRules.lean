import FieldRules.Text.Ranges
import FieldRules.Text.Blank
import FieldRules.Text.Digit
import FieldRules.Text.Word
import FieldRules.Text.Printable
import FieldRules.Text.Case
import FieldRules.Text.Quote
import FieldRules.Text.Identifier
import FieldRules.Text.CharName
import FieldRules.Number.Binary64
import FieldRules.Number.Shortest
import FieldRules.Number.FloatText
import FieldRules.Lang.Token
import FieldRules.Lang.Lexer
import FieldRules.Lang.Expr
import FieldRules.Lang.Parser
import FieldRules.Number.Decimal
import FieldRules.Number.Fraction
import FieldRules.Time.Calendar
import FieldRules.Value.Basic
import FieldRules.Value.Text
import FieldRules.Value.Compare
import FieldRules.Value.Facts
import FieldRules.Value.Fault
import FieldRules.Value.Attributes
import FieldRules.Value.Number
import FieldRules.Value.Order
import FieldRules.Pattern.Syntax
import FieldRules.Pattern.Parse
import FieldRules.Pattern.Match
import FieldRules.Time.Instant
import FieldRules.Time.Iso
import FieldRules.Value.Introspection
import FieldRules.Value.Access
import FieldRules.Lang.Builtin.Basic
import FieldRules.Lang.Builtin.Apply
import FieldRules.Lang.Operator
import FieldRules.Lang.Eval
import FieldRules.Lang.Session
import FieldRules.Rule.Tags
import FieldRules.Rule.Error
import FieldRules.Rule.Mapper
import FieldRules.Rule.Expression
import FieldRules.Validation.Options
import FieldRules.Validation.Result
import FieldRules.Validation.Walk
import FieldRules.Validation.Validator
import FieldRules.Yaml.Source
import FieldRules.Yaml.Token
import FieldRules.Yaml.Token.Scalar
import FieldRules.Yaml.TokenStream
import FieldRules.Yaml.Event
import FieldRules.Yaml.Node
import FieldRules.Yaml.Scalar
import FieldRules.Yaml.Document
import FieldRules.Validation.OptionsFile
import FieldRules.Proofs.Lexeme
import FieldRules.Proofs.Tokenize
import FieldRules.Proofs.Print
import FieldRules.Proofs.ParserSteps
import FieldRules.Proofs.RoundTrip
import FieldRules.Proofs.Scoping
import FieldRules.Proofs.Traversal
import FieldRules.Proofs.Lockstep
import FieldRules.Proofs.Alike
import FieldRules.Proofs.Sequence
import FieldRules.Proofs.History
import FieldRules.Proofs.Addressable
import FieldRules.Proofs.Failures
import FieldRules.Proofs.Successes
import FieldRules.Proofs.Serialization
import FieldRules.Proofs.FloatOrder
import FieldRules.Proofs.Rounding
import FieldRules.Proofs.ReadBack
import FieldRules.Proofs.HostOrder
import FieldRules.Proofs.RuleOrder
import FieldRules.Proofs.NumberComparison
import FieldRules.Proofs.HostEquality
import FieldRules.Proofs.Membership
import FieldRules.Proofs.Positions
import FieldRules.Proofs.Shorthand
import FieldRules.Proofs.Timestamp
import FieldRules.Proofs.OptionOrder
import FieldRules.Proofs.EndOfInput
