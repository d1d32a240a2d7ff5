import DetectionQuery.Collection
import DetectionQuery.Collection.Convert
import DetectionQuery.Collection.Load
import DetectionQuery.Error
import DetectionQuery.Folder.Entry
import DetectionQuery.Folder.Search
import DetectionQuery.Glob.Match
import DetectionQuery.Glob.Pattern
import DetectionQuery.Notice
import DetectionQuery.Number.Double
import DetectionQuery.Number.Format
import DetectionQuery.Number.Read
import DetectionQuery.Number.Shortest
import DetectionQuery.Options
import DetectionQuery.Proofs.Collection.Appended
import DetectionQuery.Proofs.Collection.Independent
import DetectionQuery.Proofs.Collection.Lookup
import DetectionQuery.Proofs.Collection.Names
import DetectionQuery.Proofs.Collection.Resolution
import DetectionQuery.Proofs.Collection.Suppressed
import DetectionQuery.Proofs.Collection.Threshold
import DetectionQuery.Proofs.Detection.Markers
import DetectionQuery.Proofs.Detection.Modifiers
import DetectionQuery.Proofs.Detection.NormalForm
import DetectionQuery.Proofs.Detection.Selection
import DetectionQuery.Proofs.Expression.Faults
import DetectionQuery.Proofs.Expression.Layout
import DetectionQuery.Proofs.Expression.Lexemes
import DetectionQuery.Proofs.Expression.Meaning
import DetectionQuery.Proofs.Expression.Reassociation
import DetectionQuery.Proofs.Expression.Spelling
import DetectionQuery.Proofs.Expression.Taken
import DetectionQuery.Proofs.Expression.Targets
import DetectionQuery.Proofs.Expression.Unused
import DetectionQuery.Proofs.Glob.Wildcard
import DetectionQuery.Proofs.Outcome
import DetectionQuery.Proofs.Query.Condition
import DetectionQuery.Proofs.Query.Document
import DetectionQuery.Proofs.Query.Escaping
import DetectionQuery.Proofs.Query.Faults
import DetectionQuery.Proofs.Query.Keys
import DetectionQuery.Proofs.Query.Lists
import DetectionQuery.Proofs.Query.Literal
import DetectionQuery.Proofs.Query.Meaning
import DetectionQuery.Proofs.Query.Object
import DetectionQuery.Proofs.Query.Pipeline
import DetectionQuery.Proofs.Query.Quoting
import DetectionQuery.Proofs.Query.Regex
import DetectionQuery.Proofs.Query.Stages
import DetectionQuery.Proofs.Text.Digits
import DetectionQuery.Proofs.Text.Literal
import DetectionQuery.Proofs.Text.Nesting
import DetectionQuery.Proofs.Text.Parts
import DetectionQuery.Proofs.Timespan
import DetectionQuery.Query.Aggregation
import DetectionQuery.Query.Condition
import DetectionQuery.Query.Dialect
import DetectionQuery.Query.Fragment
import DetectionQuery.Query.Group
import DetectionQuery.Query.Literal
import DetectionQuery.Query.Render
import DetectionQuery.Query.Stage
import DetectionQuery.Query.Value
import DetectionQuery.Rule.Basic
import DetectionQuery.Rule.Correlation
import DetectionQuery.Rule.Correlation.Read
import DetectionQuery.Rule.Detection
import DetectionQuery.Rule.Expression
import DetectionQuery.Rule.Expression.Read
import DetectionQuery.Rule.Expression.Resolve
import DetectionQuery.Rule.Expression.Token
import DetectionQuery.Rule.LogSource
import DetectionQuery.Rule.Modifier
import DetectionQuery.Rule.Read
import DetectionQuery.Rule.ReadError
import DetectionQuery.Rule.Record
import DetectionQuery.Rule.Selection
import DetectionQuery.Rule.Timespan
import DetectionQuery.Text.Digits
import DetectionQuery.Text.Layout
import DetectionQuery.Text.Quoted
import DetectionQuery.Text.Word
import DetectionQuery.Yaml.Cursor
import DetectionQuery.Yaml.Document
import DetectionQuery.Yaml.Node
import DetectionQuery.Yaml.Node.Compose
import DetectionQuery.Yaml.Scalar
import DetectionQuery.Yaml.Source
import DetectionQuery.Yaml.Tag
import DetectionQuery.Yaml.Token
import DetectionQuery.Yaml.Token.Scalar
import DetectionQuery.Yaml.Token.Scan
import DetectionQuery.Yaml.Token.Tag
import DetectionQuery.Yaml.Value
