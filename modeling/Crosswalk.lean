import Crosswalk.Exchange.Calls
import Crosswalk.Service.Suggestion
import Crosswalk.Template.Validation
import Crosswalk.Proofs.Text.Pieces
import Crosswalk.Proofs.Text.Trim
import Crosswalk.Proofs.Text.Words
import Crosswalk.Proofs.Text.Numeral
import Crosswalk.Proofs.Text.Nesting
import Crosswalk.Proofs.Field.Characters
import Crosswalk.Proofs.Field.Grammar
import Crosswalk.Proofs.Field.Language
import Crosswalk.Proofs.Field.Description
import Crosswalk.Proofs.Mapping.Target
import Crosswalk.Proofs.Mapping.Rule
import Crosswalk.Proofs.Mapping.Header
import Crosswalk.Proofs.Mapping.RoundTrip
import Crosswalk.Proofs.Mapping.Override
import Crosswalk.Proofs.Mapping.Segments
import Crosswalk.Proofs.Mapping.Marks
import Crosswalk.Proofs.Extraction.Outcomes
import Crosswalk.Proofs.Extraction.Rules
import Crosswalk.Proofs.Extraction.Promotion
import Crosswalk.Proofs.Extraction.Modes
import Crosswalk.Proofs.Extraction.Substitution
import Crosswalk.Proofs.Extraction.Scanning
import Crosswalk.Proofs.Extraction.Rendering
import Crosswalk.Proofs.Query.Places
import Crosswalk.Proofs.Query.Record
import Crosswalk.Proofs.Query.Order
import Crosswalk.Proofs.Query.Spread
import Crosswalk.Proofs.Query.Written
import Crosswalk.Proofs.Query.Shape
import Crosswalk.Proofs.Query.Reading
import Crosswalk.Proofs.Query.Equals
import Crosswalk.Proofs.Mapping.QuerySources
import Crosswalk.Proofs.Xml.Attributes
import Crosswalk.Proofs.Extraction.DocumentOrder
import Crosswalk.Proofs.Extraction.Records
import Crosswalk.Proofs.Value.Identity
import Crosswalk.Proofs.Template.Merge
import Crosswalk.Proofs.Template.History
import Crosswalk.Proofs.Template.Transparency
import Crosswalk.Proofs.Json.Ways
import Crosswalk.Proofs.Json.Leaves
import Crosswalk.Proofs.Json.FlatKeys
import Crosswalk.Proofs.Extraction.Locators
import Crosswalk.Proofs.Extraction.BareTerms
import Crosswalk.Proofs.Extraction.Links
import Crosswalk.Proofs.Template.Links
import Crosswalk.Proofs.Service.Links
import Crosswalk.Proofs.Service.Display
import Crosswalk.Proofs.Service.Ranking
import Crosswalk.Proofs.Service.Autofillers
import Crosswalk.Proofs.Json.RoundTrip
import Crosswalk.Proofs.Mapping.JsonForm
import Crosswalk.Proofs.Exchange.Groups
import Crosswalk.Proofs.Query.Depth
import Crosswalk.Proofs.Query.Subjects
import Crosswalk.Proofs.Decimal.Numeral
import Crosswalk.Proofs.Text.Brackets
import Crosswalk.Proofs.Query.Characters
import Crosswalk.Proofs.Query.Enclosed
import Crosswalk.Proofs.Query.Operands
import Crosswalk.Proofs.Query.Namespaces
import Crosswalk.Proofs.Text.Replacement
import Crosswalk.Proofs.Url.Percent
import Crosswalk.Proofs.Service.QueryParts
import Crosswalk.Proofs.Service.QueryText
import Crosswalk.Proofs.Template.Constraints
import Crosswalk.Proofs.Template.Checking
import Crosswalk.Proofs.Pattern.Spans
import Crosswalk.Proofs.Pattern.Carrying
import Crosswalk.Proofs.Pattern.Primitives
import Crosswalk.Proofs.Pattern.Sets
import Crosswalk.Proofs.Pattern.Steps
import Crosswalk.Proofs.Pattern.Framing
import Crosswalk.Proofs.Template.InputControl
import Crosswalk.Proofs.Value.Sameness
import Crosswalk.Proofs.Text.Spaced
import Crosswalk.Proofs.Field.WordOrder
import Crosswalk.Proofs.Filter.Pipelines
import Crosswalk.Proofs.Filter.Slice
import Crosswalk.Proofs.Text.Utf8
import Crosswalk.Proofs.Text.Productions
import Crosswalk.Proofs.Url.Raw
import Crosswalk.Proofs.Calendar.Directives
import Crosswalk.Proofs.Calendar.Reckoning
import Crosswalk.Proofs.Calendar.Reading
import Crosswalk.Proofs.Calendar.Letters
import Crosswalk.Proofs.Field.TagGrammar
import Crosswalk.Proofs.Exchange.Failures
import Crosswalk.Proofs.Text.Splitting
import Crosswalk.Proofs.Text.Spacing
import Crosswalk.Proofs.Mapping.Keys
