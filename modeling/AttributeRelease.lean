import AttributeRelease.Attribute.Basic
import AttributeRelease.Attribute.Request
import AttributeRelease.Attribute.Value
import AttributeRelease.Bytes.Base64
import AttributeRelease.Bytes.Sha1
import AttributeRelease.Decimal.Binary64
import AttributeRelease.Decimal.Shortest
import AttributeRelease.Filter.Comparison
import AttributeRelease.Filter.Config
import AttributeRelease.Filter.Matcher
import AttributeRelease.Filter.Release
import AttributeRelease.Filter.Requirement
import AttributeRelease.Filter.Verdict
import AttributeRelease.Json.Basic
import AttributeRelease.Json.Number
import AttributeRelease.Json.Parser
import AttributeRelease.Json.Printer
import AttributeRelease.Json.Reader
import AttributeRelease.KeyMap
import AttributeRelease.Pattern.Expr
import AttributeRelease.Pattern.Node
import AttributeRelease.Pattern.Parser
import AttributeRelease.Pattern.Program
import AttributeRelease.Pattern.Regex
import AttributeRelease.Pipeline
import AttributeRelease.Resolver.Basic
import AttributeRelease.Resolver.ComputedId
import AttributeRelease.Resolver.Config.Basic
import AttributeRelease.Resolver.Config.Document
import AttributeRelease.Resolver.Definitions
import AttributeRelease.Resolver.Error
import AttributeRelease.Resolver.Failure
import AttributeRelease.Resolver.Failure.Words
import AttributeRelease.Resolver.Graph
import AttributeRelease.Resolver.Query.Cache
import AttributeRelease.Resolver.Query.Connector
import AttributeRelease.Resolver.Query.Escape
import AttributeRelease.Resolver.Query.Template
import AttributeRelease.Resolver.Release
import AttributeRelease.Resolver.Resolution
import AttributeRelease.Resolver.Settings
import AttributeRelease.Resolver.Walk
import AttributeRelease.Text.Blank
import AttributeRelease.Text.Lowercase
import AttributeRelease.Transcoding.Codec.Basic
import AttributeRelease.Transcoding.Codec.Claim
import AttributeRelease.Transcoding.Codec.Saml
import AttributeRelease.Transcoding.Config
import AttributeRelease.Transcoding.Document
import AttributeRelease.Transcoding.Error
import AttributeRelease.Transcoding.Naming
import AttributeRelease.Transcoding.Registry
import AttributeRelease.Transcoding.Rule
import AttributeRelease.Transcoding.Wire
import AttributeRelease.Unicode.CaseFolding
import AttributeRelease.Unicode.CaseTable
import AttributeRelease.Unicode.Category
import AttributeRelease.Unicode.CategoryTable
import AttributeRelease.Unicode.CodeSet
import AttributeRelease.Unicode.PropertyTable
import AttributeRelease.Unicode.ScriptTable
import AttributeRelease.Proofs.Graph.References
import AttributeRelease.Proofs.Graph.Circles
import AttributeRelease.Proofs.Graph.Acceptance
import AttributeRelease.Proofs.Filter.Survival
import AttributeRelease.Proofs.Walk.Runs
import AttributeRelease.Proofs.Walk.Ways
import AttributeRelease.Proofs.Walk.Journal
import AttributeRelease.Proofs.Walk.Evaluation
import AttributeRelease.Proofs.Walk.Faithfulness
import AttributeRelease.Proofs.Walk.Determinacy
import AttributeRelease.Proofs.Walk.Visits
import AttributeRelease.Proofs.Walk.Failures
import AttributeRelease.Proofs.Release.Precedence
import AttributeRelease.Proofs.Walk.Provenance
import AttributeRelease.Proofs.Release.Distillation
import AttributeRelease.Proofs.Walk.Residue
import AttributeRelease.Proofs.Walk.Invocations
import AttributeRelease.Proofs.Walk.Windows
import AttributeRelease.Proofs.Bytes.Base64
import AttributeRelease.Proofs.Transcoding.Index
import AttributeRelease.Proofs.Transcoding.RoundTrip
import AttributeRelease.Proofs.Walk.NotedFailures
import AttributeRelease.Proofs.Transcoding.Separation
import AttributeRelease.Proofs.Filter.Combination
import AttributeRelease.Proofs.Filter.Knowledge
import AttributeRelease.Proofs.Filter.Locality
import AttributeRelease.Proofs.Transcoding.Activation
import AttributeRelease.Proofs.Walk.Depth
import AttributeRelease.Proofs.Walk.Again
import AttributeRelease.Proofs.Walk.Needs
import AttributeRelease.Proofs.Walk.Alongside
import AttributeRelease.Proofs.Walk.Requests
import AttributeRelease.Proofs.Graph.Blueprints
import AttributeRelease.Proofs.Walk.Invariants
import AttributeRelease.Proofs.Walk.Extent
import AttributeRelease.Proofs.Release.Keys
import AttributeRelease.Proofs.Release.Withholding
import AttributeRelease.Proofs.Release.Preparation
import AttributeRelease.Proofs.Values.Origins
import AttributeRelease.Proofs.Values.Normalisation
import AttributeRelease.Proofs.Documents.Literals
import AttributeRelease.Proofs.Documents.Text
import AttributeRelease.Proofs.Documents.Records
import AttributeRelease.Proofs.Documents.Attributes
import AttributeRelease.Proofs.Documents.Filters
import AttributeRelease.Proofs.Documents.Resolvers
import AttributeRelease.Proofs.Documents.Configurations
import AttributeRelease.Proofs.Query.Caching
import AttributeRelease.Proofs.Failures.Words
import AttributeRelease.Proofs.Filter.Verdicts
import AttributeRelease.Proofs.Filter.Requirements
import AttributeRelease.Proofs.Filter.Rewriting
import AttributeRelease.Proofs.Text.Lowercase
import AttributeRelease.Proofs.Filter.Widening
import AttributeRelease.Proofs.Failures.Windows
import AttributeRelease.Proofs.Query.Templates
import AttributeRelease.Proofs.Query.Escaping
import AttributeRelease.Proofs.Query.Quoting
import AttributeRelease.Proofs.Pattern.Agreement
import AttributeRelease.Proofs.Pattern.Sets
import AttributeRelease.Proofs.Pattern.Numbering
import AttributeRelease.Proofs.Pattern.Reading
import AttributeRelease.Proofs.Pattern.Programs
import AttributeRelease.Proofs.Pattern.Anchoring
import AttributeRelease.Proofs.Query.Gathering
import AttributeRelease.Proofs.Text.Marks
import AttributeRelease.Proofs.Identifiers.Preimages
import AttributeRelease.Proofs.Transcoding.Scopes
import AttributeRelease.Proofs.Bytes.Canonical
import AttributeRelease.Proofs.Transcoding.Bytes
import AttributeRelease.Proofs.Values.Dependencies
import AttributeRelease.Proofs.Values.Mapping
import AttributeRelease.Proofs.Values.Configured
import AttributeRelease.Proofs.Transcoding.Naming
