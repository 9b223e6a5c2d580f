import Criteria.Calendar.Clock
import Criteria.Calendar.Date
import Criteria.Calendar.Moment
import Criteria.Calendar.Text
import Criteria.Clause
import Criteria.Condition
import Criteria.Config.Basic
import Criteria.Config.Json
import Criteria.Config.Options
import Criteria.Config.Yaml
import Criteria.Decimal.Layout
import Criteria.Decimal.Shortest
import Criteria.Error
import Criteria.Fields
import Criteria.Filter
import Criteria.Format.Base64
import Criteria.Format.Email
import Criteria.Format.Json
import Criteria.Format.Shape
import Criteria.Guard
import Criteria.Json.Document
import Criteria.Json.Numeral
import Criteria.Json.Token
import Criteria.Leaf.Basic
import Criteria.Leaf.Collection
import Criteria.Leaf.Item
import Criteria.Leaf.Moment
import Criteria.Leaf.Number
import Criteria.Leaf.Text
import Criteria.Number.Basic
import Criteria.Number.Binary64
import Criteria.Number.Primitive
import Criteria.Number.Text
import Criteria.Operator
import Criteria.Pattern.Basic
import Criteria.Pattern.Matching
import Criteria.Pattern.Meaning
import Criteria.Pattern.Reader
import Criteria.Pattern.Weight
import Criteria.Pattern.Written
import Criteria.Predicate
import Criteria.Query
import Criteria.Record
import Criteria.Shape
import Criteria.Step
import Criteria.Text.Blank
import Criteria.Text.Case
import Criteria.Text.Hexadecimal
import Criteria.Text.Quoted
import Criteria.Text.Search
import Criteria.Unicode.Alphabetic
import Criteria.Unicode.Boundaries
import Criteria.Unicode.ByteRow
import Criteria.Unicode.CaseFolding
import Criteria.Unicode.Casing
import Criteria.Unicode.Category
import Criteria.Unicode.CharClass
import Criteria.Unicode.Grapheme
import Criteria.Unicode.Lowercase
import Criteria.Unicode.Property
import Criteria.Unicode.Runs
import Criteria.Unicode.Script
import Criteria.Unicode.Shift
import Criteria.Unicode.WhiteSpace
import Criteria.Value
import Criteria.Yaml.Block
import Criteria.Yaml.Cursor
import Criteria.Yaml.Quoted
import Criteria.Yaml.Scalar
import Criteria.Yaml.Settings
import Criteria.Yaml.Tag
import Criteria.Yaml.Token
import Criteria.Proofs.Filter.Basic
import Criteria.Proofs.Leaf.Conditions
import Criteria.Proofs.Filter.Reachable
import Criteria.Proofs.Step.Run
import Criteria.Proofs.Filter.NormalForm
import Criteria.Proofs.Filter.Held
import Criteria.Proofs.Step.Formula
import Criteria.Proofs.Step.Refused
import Criteria.Proofs.Filter.Joining
import Criteria.Proofs.Condition.Degenerate
import Criteria.Proofs.Step.Degenerate
import Criteria.Proofs.Filter.Reading
import Criteria.Proofs.Leaf.Reading
import Criteria.Proofs.Step.Reading
import Criteria.Proofs.Number.Exact
import Criteria.Proofs.Number.Order
import Criteria.Proofs.Number.Widening
import Criteria.Proofs.Predicate.Page
import Criteria.Proofs.Step.Lenient
import Criteria.Proofs.Leaf.Named
import Criteria.Proofs.Step.Named
import Criteria.Proofs.Leaf.Accepted
import Criteria.Proofs.Leaf.Terms
import Criteria.Proofs.Number.Relations
import Criteria.Proofs.Leaf.Range
import Criteria.Proofs.Leaf.Equality
import Criteria.Proofs.Leaf.IgnoringCase
import Criteria.Proofs.Condition.Duality
import Criteria.Proofs.Clause.Checked
import Criteria.Proofs.Calendar.DayNumber
import Criteria.Proofs.Leaf.Frame
import Criteria.Proofs.Leaf.Window
import Criteria.Proofs.Pattern.Stretch
import Criteria.Proofs.Format.Whole
import Criteria.Proofs.Format.Base64
import Criteria.Proofs.Format.Email
import Criteria.Proofs.Calendar.Stretch
import Criteria.Proofs.Leaf.Calendar
import Criteria.Proofs.Leaf.Characters
import Criteria.Proofs.Predicate.Selection
import Criteria.Proofs.Text.Words
import Criteria.Proofs.Step.Alternatives
import Criteria.Proofs.Leaf.Membership
import Criteria.Proofs.Step.Terms
