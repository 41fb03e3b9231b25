import PromptGraph.Compile.Align
import PromptGraph.Compile.Basic
import PromptGraph.Compile.FilenamePrefix
import PromptGraph.Decode.Basic
import PromptGraph.Decode.Error
import PromptGraph.Document.Basic
import PromptGraph.Document.Editor
import PromptGraph.Document.NodeId
import PromptGraph.Document.Prompt
import PromptGraph.Entries
import PromptGraph.Failure
import PromptGraph.Files.Path
import PromptGraph.Files.Tree
import PromptGraph.Graph.Basic
import PromptGraph.Graph.Edge
import PromptGraph.Graph.Node
import PromptGraph.Graph.Outline
import PromptGraph.Graph.Record
import PromptGraph.Graph.Validity
import PromptGraph.Json.Basic
import PromptGraph.Json.Printer
import PromptGraph.Json.Value
import PromptGraph.Json.Written
import PromptGraph.Loading.Basic
import PromptGraph.Loading.Editor
import PromptGraph.Loading.Request
import PromptGraph.Numeric.Binary
import PromptGraph.Numeric.Notation
import PromptGraph.Numeric.Shortest
import PromptGraph.Numeric.Word
import PromptGraph.OrderedMap
import PromptGraph.Pattern.Basic
import PromptGraph.Pattern.Bracket
import PromptGraph.Pattern.Encoding
import PromptGraph.Pattern.Escape
import PromptGraph.Pattern.Expr
import PromptGraph.Pattern.Meaning
import PromptGraph.Pattern.Modes
import PromptGraph.Pattern.Reader
import PromptGraph.Pattern.Search
import PromptGraph.Pattern.Size
import PromptGraph.Pattern.Subject
import PromptGraph.Proofs.Alignment
import PromptGraph.Proofs.BareGraphs
import PromptGraph.Proofs.Building
import PromptGraph.Proofs.CacheRuns
import PromptGraph.Proofs.CoherentCache
import PromptGraph.Proofs.Commands
import PromptGraph.Proofs.Compiled
import PromptGraph.Proofs.Decoding
import PromptGraph.Proofs.Edges
import PromptGraph.Proofs.Freshness
import PromptGraph.Proofs.Layers
import PromptGraph.Proofs.Listing
import PromptGraph.Proofs.LoadedEditor
import PromptGraph.Proofs.LoadedGraph
import PromptGraph.Proofs.LoadedPrompt
import PromptGraph.Proofs.Maps
import PromptGraph.Proofs.Memories
import PromptGraph.Proofs.Overriding
import PromptGraph.Proofs.PatchEffect
import PromptGraph.Proofs.Patches
import PromptGraph.Proofs.Payload
import PromptGraph.Proofs.Positions
import PromptGraph.Proofs.References
import PromptGraph.Proofs.Reloading
import PromptGraph.Proofs.RoundTrip
import PromptGraph.Proofs.Translation
import PromptGraph.Proofs.Validity
import PromptGraph.Report
import PromptGraph.Run.Context
import PromptGraph.Run.Duration
import PromptGraph.Run.Manifest
import PromptGraph.Run.Protocol
import PromptGraph.Run.Status
import PromptGraph.Schema.Cache
import PromptGraph.Schema.Catalog
import PromptGraph.Schema.Input
import PromptGraph.Schema.Memory
import PromptGraph.Schema.Record
import PromptGraph.Schema.Source
import PromptGraph.Schema.Tag
import PromptGraph.Settings.Basic
import PromptGraph.Settings.Reader
import PromptGraph.Text.Age
import PromptGraph.Text.Alphanumeric
import PromptGraph.Text.Blank
import PromptGraph.Text.Case
import PromptGraph.Text.CaseFold
import PromptGraph.Text.CaseTable
import PromptGraph.Text.Category
import PromptGraph.Text.CodePoints
import PromptGraph.Text.Digits
import PromptGraph.Text.Printable
import PromptGraph.Text.Property
import PromptGraph.Text.Quoted
import PromptGraph.Text.Script
import PromptGraph.Text.Segment
import PromptGraph.Toml.Basic
import PromptGraph.Toml.Reader
import PromptGraph.Toml.Scalar
import PromptGraph.Toml.Tables
import PromptGraph.Toml.Text
import PromptGraph.Workflow.Index
import PromptGraph.Workflow.Overrides
import PromptGraph.Workflow.Parameters
import PromptGraph.Workflow.Template
import PromptGraph.Workflow.TitleMatch
import PromptGraph.Workflow.Workbench
import PromptGraph.Proofs.FilenamePrefixes
import PromptGraph.Proofs.CacheJournals
import PromptGraph.Proofs.RunProtocol
import PromptGraph.Proofs.FetchDiscipline
import PromptGraph.Proofs.SourceIsolation
import PromptGraph.Proofs.Precedence
import PromptGraph.Proofs.PromptReading
import PromptGraph.Proofs.CleanPrefixes
import PromptGraph.Proofs.RequestInputs
import PromptGraph.Proofs.Cycles
import PromptGraph.Proofs.EditorWiring
import PromptGraph.Proofs.Identities
import PromptGraph.Proofs.Bundles
import PromptGraph.Proofs.DescribedGraphs
import PromptGraph.Proofs.PatchLimits
import PromptGraph.Proofs.KnownParameters
import PromptGraph.Proofs.FailedCommands
import PromptGraph.Proofs.InputLists
import PromptGraph.Proofs.RefusedChanges
import PromptGraph.Proofs.TolerantLookup
import PromptGraph.Proofs.WrappedCatalogs
import PromptGraph.Proofs.CompileOutcomes
import PromptGraph.Proofs.IgnoredRecords
import PromptGraph.Proofs.Places
import PromptGraph.Proofs.FileChanges
import PromptGraph.Proofs.ManifestReach
import PromptGraph.Proofs.TemplateDefaults
import PromptGraph.Proofs.TemplateFolders
import PromptGraph.Proofs.Trimming
import PromptGraph.Proofs.WrittenSlots
import PromptGraph.Proofs.ConnectionForms
import PromptGraph.Proofs.Replaying
import PromptGraph.Proofs.ContainedTitles
import PromptGraph.Files.RawPath
import PromptGraph.Proofs.RawPaths
