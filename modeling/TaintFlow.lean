import TaintFlow.Binding
import TaintFlow.CallGraph.Basic
import TaintFlow.CallGraph.Build
import TaintFlow.CallTarget
import TaintFlow.CommandLine.Flag
import TaintFlow.CommandLine.Help
import TaintFlow.CommandLine.Options
import TaintFlow.CommandLine.Run
import TaintFlow.Config
import TaintFlow.Decimal.Binary64
import TaintFlow.Decimal.Shortest
import TaintFlow.Diagram
import TaintFlow.Discovery
import TaintFlow.Duration
import TaintFlow.Entries
import TaintFlow.Exchange.CallGraph
import TaintFlow.Exchange.Facts
import TaintFlow.Exchange.Finding
import TaintFlow.Exchange.Limits
import TaintFlow.Exchange.Result
import TaintFlow.Facts
import TaintFlow.FileTree
import TaintFlow.Finding
import TaintFlow.Glob
import TaintFlow.Ignore
import TaintFlow.Import
import TaintFlow.Json.Basic
import TaintFlow.Json.Number
import TaintFlow.Json.Printer
import TaintFlow.Json.Reader
import TaintFlow.Label
import TaintFlow.LineIndex
import TaintFlow.Location
import TaintFlow.Main
import TaintFlow.ModuleGraph
import TaintFlow.OutputPath
import TaintFlow.Path
import TaintFlow.Pattern
import TaintFlow.Policy
import TaintFlow.Proofs.AdmittedModules
import TaintFlow.Proofs.ArgumentDivision
import TaintFlow.Proofs.ArgumentFlow
import TaintFlow.Proofs.AssembledReport
import TaintFlow.Proofs.BestFinding
import TaintFlow.Proofs.BreadthFirst
import TaintFlow.Proofs.CallResults
import TaintFlow.Proofs.CanonicalLabels
import TaintFlow.Proofs.CheckedPath
import TaintFlow.Proofs.ClosedDiagrams
import TaintFlow.Proofs.Completeness
import TaintFlow.Proofs.CrossedImports
import TaintFlow.Proofs.Cycles
import TaintFlow.Proofs.DepthFilter
import TaintFlow.Proofs.DottedNames
import TaintFlow.Proofs.Entitlements
import TaintFlow.Proofs.Events
import TaintFlow.Proofs.Exposure
import TaintFlow.Proofs.FirstMet
import TaintFlow.Proofs.FlowStep
import TaintFlow.Proofs.GroundedMarkers
import TaintFlow.Proofs.HandlerEntry
import TaintFlow.Proofs.ImportTargets
import TaintFlow.Proofs.InsertionOrder
import TaintFlow.Proofs.JoinedArms
import TaintFlow.Proofs.JoinedProtection
import TaintFlow.Proofs.KeptCalls
import TaintFlow.Proofs.LabelOrder
import TaintFlow.Proofs.LinePositions
import TaintFlow.Proofs.MapLookup
import TaintFlow.Proofs.MergedStates
import TaintFlow.Proofs.ModuleCap
import TaintFlow.Proofs.ModuleNodes
import TaintFlow.Proofs.ModulePrefixes
import TaintFlow.Proofs.Moves
import TaintFlow.Proofs.Multigraph
import TaintFlow.Proofs.NotedFacts
import TaintFlow.Proofs.PackageCalls
import TaintFlow.Proofs.PathShape
import TaintFlow.Proofs.QueueLoop
import TaintFlow.Proofs.Rebinding
import TaintFlow.Proofs.RecordedCalls
import TaintFlow.Proofs.ReexportChains
import TaintFlow.Proofs.ReportedPath
import TaintFlow.Proofs.SanitizerEvidence
import TaintFlow.Proofs.ScopedFacts
import TaintFlow.Proofs.Scopes
import TaintFlow.Proofs.SearchBound
import TaintFlow.Proofs.SharedPlaces
import TaintFlow.Proofs.SinkSites
import TaintFlow.Proofs.Soundness
import TaintFlow.Proofs.SpreadCalls
import TaintFlow.Proofs.SummaryGrowth
import TaintFlow.Proofs.SummaryRounds
import TaintFlow.Proofs.Termination
import TaintFlow.Proofs.TieBreak
import TaintFlow.Proofs.Trace
import TaintFlow.Proofs.TruncationFlags
import TaintFlow.Proofs.WalkInduction
import TaintFlow.Proofs.WellFormedGraph
import TaintFlow.Propagation.Admission
import TaintFlow.Propagation.Evidence
import TaintFlow.Propagation.Flow
import TaintFlow.Propagation.Search
import TaintFlow.Propagation.Validate
import TaintFlow.Python.Definitions
import TaintFlow.Python.Facts
import TaintFlow.Python.Grammar.Basic
import TaintFlow.Python.Grammar.Expressions
import TaintFlow.Python.Grammar.Statements
import TaintFlow.Python.Imports
import TaintFlow.Python.Lexer
import TaintFlow.Python.Literal
import TaintFlow.Python.Parse
import TaintFlow.Python.Syntax
import TaintFlow.Python.Token
import TaintFlow.Reachability
import TaintFlow.Regex.Bracket
import TaintFlow.Regex.CharSet
import TaintFlow.Regex.Escape
import TaintFlow.Regex.Parser
import TaintFlow.Regex.Size
import TaintFlow.Regex.Syntax
import TaintFlow.Registry
import TaintFlow.Report.Assemble
import TaintFlow.Report.Result
import TaintFlow.Report.Table
import TaintFlow.Report.Text
import TaintFlow.Resolver
import TaintFlow.Session
import TaintFlow.Sink
import TaintFlow.SortedMap
import TaintFlow.SortedSet
import TaintFlow.Source
import TaintFlow.SourceUnit
import TaintFlow.Summary
import TaintFlow.TaintState
import TaintFlow.Text
import TaintFlow.Text.CharClass
import TaintFlow.Text.CharacterName
import TaintFlow.Text.CharacterName.Aliases
import TaintFlow.Text.CharacterName.Alphabets
import TaintFlow.Text.CharacterName.Historic
import TaintFlow.Text.CharacterName.Pictures
import TaintFlow.Text.CharacterName.Symbols
import TaintFlow.Text.CharacterName.Words
import TaintFlow.Text.Decomposition
import TaintFlow.Text.Emoji
import TaintFlow.Text.Identifier
import TaintFlow.Text.Normalization
import TaintFlow.Text.Width
import TaintFlow.Toml.Basic
import TaintFlow.Toml.Reader
import TaintFlow.Weakness
import TaintFlow.Workspace
