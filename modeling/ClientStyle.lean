import ClientStyle.Api.Field
import ClientStyle.Api.Fixture
import ClientStyle.Api.Literal
import ClientStyle.Api.Operation
import ClientStyle.Api.Order
import ClientStyle.Api.Paging
import ClientStyle.Api.Parameter
import ClientStyle.Api.Transform
import ClientStyle.Codec.Decode
import ClientStyle.Codec.Slots
import ClientStyle.Config
import ClientStyle.Context
import ClientStyle.Descriptions
import ClientStyle.Document
import ClientStyle.Error
import ClientStyle.Files.Path
import ClientStyle.Files.Tree
import ClientStyle.Json.Basic
import ClientStyle.Json.Number
import ClientStyle.Json.Printer
import ClientStyle.Json.Reader
import ClientStyle.Loading
import ClientStyle.NameMap
import ClientStyle.Normal
import ClientStyle.Number.Binary64
import ClientStyle.Number.Shortest
import ClientStyle.Output
import ClientStyle.Proofs.Batches
import ClientStyle.Proofs.Canonical
import ClientStyle.Proofs.Capitals
import ClientStyle.Proofs.Casing
import ClientStyle.Proofs.Changelogs
import ClientStyle.Proofs.Comments
import ClientStyle.Proofs.Compositions
import ClientStyle.Proofs.Copies
import ClientStyle.Proofs.Dates
import ClientStyle.Proofs.Decoding
import ClientStyle.Proofs.Derivations
import ClientStyle.Proofs.DescriptionKeys
import ClientStyle.Proofs.Endings
import ClientStyle.Proofs.Escapes
import ClientStyle.Proofs.FieldNames
import ClientStyle.Proofs.Files
import ClientStyle.Proofs.FixturePaths
import ClientStyle.Proofs.FixtureRoot
import ClientStyle.Proofs.Fixtures
import ClientStyle.Proofs.Groups
import ClientStyle.Proofs.HiddenPaths
import ClientStyle.Proofs.Indentation
import ClientStyle.Proofs.InputOrder
import ClientStyle.Proofs.Kept
import ClientStyle.Proofs.LineBreaks
import ClientStyle.Proofs.ListLiterals
import ClientStyle.Proofs.Markdown
import ClientStyle.Proofs.MissingAction
import ClientStyle.Proofs.NameMaps
import ClientStyle.Proofs.NormalDepths
import ClientStyle.Proofs.NormalForm
import ClientStyle.Proofs.NormalSteps
import ClientStyle.Proofs.Order
import ClientStyle.Proofs.Output
import ClientStyle.Proofs.Pages
import ClientStyle.Proofs.Parameter
import ClientStyle.Proofs.ParameterLists
import ClientStyle.Proofs.Parts
import ClientStyle.Proofs.PathSteps
import ClientStyle.Proofs.Prose
import ClientStyle.Proofs.PublicModels
import ClientStyle.Proofs.PublicNames
import ClientStyle.Proofs.ReadValues
import ClientStyle.Proofs.Reading
import ClientStyle.Proofs.Records
import ClientStyle.Proofs.Repetition
import ClientStyle.Proofs.Reports
import ClientStyle.Proofs.RoundTrip
import ClientStyle.Proofs.SampleDepths
import ClientStyle.Proofs.Samples
import ClientStyle.Proofs.Scalars
import ClientStyle.Proofs.SecondPass
import ClientStyle.Proofs.Shaping
import ClientStyle.Proofs.Signatures
import ClientStyle.Proofs.SnakeCase
import ClientStyle.Proofs.SortedMaps
import ClientStyle.Proofs.Spellings
import ClientStyle.Proofs.Stems
import ClientStyle.Proofs.Steps
import ClientStyle.Proofs.Suppression
import ClientStyle.Proofs.Texts
import ClientStyle.Proofs.TidyLines
import ClientStyle.Proofs.Trimming
import ClientStyle.Proofs.Unchanged
import ClientStyle.Proofs.VersionNames
import ClientStyle.Proofs.WordStyles
import ClientStyle.Proofs.WrittenFiles
import ClientStyle.Release.Changelog
import ClientStyle.Release.Date
import ClientStyle.Release.Guid
import ClientStyle.Release.Sha1
import ClientStyle.Release.Version
import ClientStyle.Run
import ClientStyle.Schema.Sample
import ClientStyle.Signature
import ClientStyle.Target
import ClientStyle.Templates.Filter
import ClientStyle.Templates.Set
import ClientStyle.Text.Casing
import ClientStyle.Text.Layout
import ClientStyle.Text.Quoted
import ClientStyle.Text.ReferenceNames
import ClientStyle.Text.Split
import ClientStyle.Text.Tidy
import ClientStyle.Text.Unescape
import ClientStyle.Unicode.Alphabetic
import ClientStyle.Unicode.CaseIgnorable
import ClientStyle.Unicode.Cased
import ClientStyle.Unicode.Class
import ClientStyle.Unicode.ExtendingMark
import ClientStyle.Unicode.LowerMapping
import ClientStyle.Unicode.Lowercase
import ClientStyle.Unicode.Numeric
import ClientStyle.Unicode.Run
import ClientStyle.Unicode.Unprintable
import ClientStyle.Unicode.UpperMapping
import ClientStyle.Unicode.Uppercase
import ClientStyle.Warning
import ClientStyle.Yaml.Cursor
import ClientStyle.Yaml.Node
import ClientStyle.Yaml.Reading
import ClientStyle.Yaml.Scalar
import ClientStyle.Yaml.Tag
import ClientStyle.Yaml.Token
import ClientStyle.Yaml.Value
