import TaintFlow.Diagram
import TaintFlow.Propagation.Validate
import TaintFlow.Report.Assemble
import TaintFlow.CallGraph.Build

/-!
# Projects and scan results

A project is a module graph with the call graph over it. Scanning it follows taint within limits and
assembles the report, together with what could not be analyzed.
-/

namespace TaintFlow

/-- A module that could not be read or parsed. -/
structure DegradedModule where
  module : String
  file : Path
  reason : String
  deriving DecidableEq, Repr, Inhabited

/-- An import whose target is not known. -/
structure UnresolvedImport where
  module : String
  line : Nat
  target : String
  deriving DecidableEq, Repr, Inhabited

/-- The result of a scan. -/
structure ScanResult where
  report : Report
  modulesAnalyzed : Nat
  functionsAnalyzed : Nat
  callEdges : Nat
  modulesVisited : Nat
  truncation : Truncation
  degraded : List DegradedModule
  unresolved : List UnresolvedImport
  sanitizedPaths : Nat
  pathsExplored : Nat
  elapsedMs : Nat
  limits : Limits
  deriving Inhabited

/-- How many findings there are of each severity, the worst first. -/
def ScanResult.severityCounts (r : ScanResult) : List (Severity × Nat) :=
  (Severity.worstFirst.map fun s => (s, r.report.findings.countP fun v => v.severity == s)).filter
    fun c => c.2 != 0

/-- The graphs of a project. -/
structure Project where
  modules : ModuleGraph
  calls : CallGraph

/-- What was built. -/
structure BuildSummary where
  modules : Nat
  functions : Nat
  callEdges : Nat
  degraded : Nat
  cycles : Nat
  elapsedMs : Nat
  deriving DecidableEq, Repr, Inhabited

namespace Project

/-- The facts of the units whose file the graph kept. -/
def extract (modules : ModuleGraph) (registry : Registry) (units : List SourceUnit) :
    List FunctionFacts :=
  (units.filter fun u =>
    match modules.get? u.module with
    | some m => m.file.same u.file
    | none => false).flatMap (·.facts registry)

/-- The graphs of loaded units. -/
def build (registry : Registry) (units : List SourceUnit) : Except FunctionId Project := do
  let modules := ModuleGraph.build units
  let calls ← CallGraph.build modules (extract modules registry units) registry
  return ⟨modules, calls⟩

/-- What was built, in numbers. -/
def summary (p : Project) (elapsedMs : Nat) : BuildSummary where
  modules := p.modules.size
  functions := p.calls.functionCount
  callEdges := p.calls.edges.length
  degraded := p.modules.degradedModules.length
  cycles := p.modules.cycles.length
  elapsedMs

/-- The modules that could not be analyzed. -/
def degraded (p : Project) : List DegradedModule :=
  p.modules.degradedModules.map fun m => ⟨m.name, m.file, m.degraded.getD ""⟩

/-- The imports that could not be followed. -/
def unresolved (p : Project) : List UnresolvedImport :=
  p.modules.unresolvedImports.filterMap fun (module, i) =>
    match i.target with
    | .unresolved written => some ⟨module, i.line, written⟩
    | _ => none

/-- The result of an outcome. -/
def resultOf (p : Project) (limits : Limits) (elapsedMs : Nat) (o : Outcome) : ScanResult where
  report := assemble o.findings
  modulesAnalyzed := p.modules.size
  functionsAnalyzed := p.calls.functionCount
  callEdges := p.calls.edges.length
  modulesVisited := o.modulesVisited
  truncation := o.truncation
  degraded := p.degraded
  unresolved := p.unresolved
  sanitizedPaths := o.sanitizedPaths
  pathsExplored := o.pathsExplored
  elapsedMs
  limits

/-- Scans a project within limits. -/
def analyze (p : Project) (limits : Limits) (elapsedMs : Nat) : Except BrokenPath ScanResult :=
  (propagate p.calls limits).map (p.resultOf limits elapsedMs)

end Project

end TaintFlow
