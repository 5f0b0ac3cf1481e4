import TaintFlow.Discovery
import TaintFlow.Report.Result
import TaintFlow.Report.Table

/-!
# Reports as text

What a scan prints for people: a header, the numbers and limits of the scan, the findings with their
paths, the modules on them and what could not be analyzed. Each part is a list of lines.
-/

namespace TaintFlow

namespace Report

/-- Lines as text, each with its line break. -/
def unlines (lines : List String) : String := String.join (lines.map (· ++ "\n"))

/-- What is excluded from a scan. -/
def exclusionLines (folders : List String) : List String :=
  if folders.isEmpty then
    ["[OK] Using default exclusions only: " ++ Text.join ", " defaultExcludes]
  else ["Excluding: " ++ Text.join ", " folders]

def headerLines : List String :=
  ["",
    "╔════════════════════════════════════════╗",
    "║  Cross-File Taint Analysis Results     ║",
    "╚════════════════════════════════════════╝",
    ""]

/-- A cap, or that there is none. -/
def capText : Option Nat → String
  | some n => toString n
  | none => "unbounded"

/-- The limits that cut a scan short, by name. -/
def truncationNames (t : Truncation) : List String :=
  (if t.depth then ["depth"] else []) ++ (if t.modules then ["module cap"] else []) ++
    if t.timeout then ["timeout"] else []

/-- The numbers and limits of a scan. -/
def statsLines (r : ScanResult) : List String :=
  [s!"Analyzed {r.modulesAnalyzed} modules, {r.functionsAnalyzed} functions, " ++
      s!"{r.callEdges} call edges in {r.elapsedMs}ms",
    s!"Tier: {r.limits.tier.name} | depth: {capText r.limits.maxDepth} | " ++
      s!"modules: {capText r.limits.maxModules} | timeout: {r.limits.timeout.seconds}s"] ++
    (if r.truncation.any then
      ["[WARN] Scan truncated by: " ++ Text.join ", " (truncationNames r.truncation)] else []) ++
    [""]

/-- The mark of a hop. -/
def hopMark : HopKind → String
  | .source => "source"
  | .call => "call"
  | .ret => "return"
  | .sanitizer => "sanitizer"
  | .sink => "sink"

/-- A hop of a path. -/
def hopLine (h : Hop) : String :=
  "    " ++ Text.padStart 10 (hopMark h.kind) ++ "  " ++ h.function.display ++ "  " ++
    h.location.display ++ "  " ++ h.detail.getD ""

/-- A finding with its path. -/
def findingLines (number : Nat) (v : Finding) : List String :=
  ["", s!"[{number}] {v.summary}"] ++ v.hops.map hopLine ++ ["    fix: " ++ v.remediation]

/-- The table of findings. -/
def findingTable (vs : List Finding) : Table where
  header := ["Type", "Source", "Sink", "Hops", "Severity", "Confidence"]
  rows := vs.map fun v =>
    [v.weakness.display, s!"{v.source.id} ({v.source.location.display})",
      s!"{v.sink.name} ({v.sink.location.display})", toString v.hopCount, v.severity.display,
      v.confidence.display]

/-- The findings, first as a table and then with their paths. -/
def findingsLines (vs : List Finding) : List String :=
  if vs.isEmpty then []
  else
    ["", "Cross-File Vulnerabilities"] ++ (findingTable vs).lines ++
      (vs.zipIdx 1).flatMap fun (v, number) => findingLines number v

/-- The modules on paths. -/
def moduleLines (byModule : SortedMap String ModuleSummary) : List String :=
  if byModule.isEmpty then []
  else
    let table : Table :=
      { header := ["Module", "As Source", "As Sink", "On Path"]
        rows := byModule.toList.map fun (module, s) =>
          [module, toString s.asSource, toString s.asSink, toString s.onPath] }
    ["", "Modules on Vulnerable Paths"] ++ table.lines

/-- What could not be analyzed. -/
def gapLines (r : ScanResult) : List String :=
  let degraded : Table :=
    { header := ["Module", "File", "Error"]
      rows := r.degraded.map fun d => [d.module, d.file.display, d.reason] }
  let unresolved : Table :=
    { header := ["Module", "Line", "Target"]
      rows := r.unresolved.map fun u => [u.module, toString u.line, u.target] }
  (if r.degraded.isEmpty then [] else ["", "Degraded Modules"] ++ degraded.lines) ++
    if r.unresolved.isEmpty then [] else ["", "Unresolved Imports"] ++ unresolved.lines

/-- The whole report. -/
def lines (r : ScanResult) : List String :=
  headerLines ++ statsLines r ++
    (if r.report.findings.isEmpty then ["✓ No cross-file vulnerabilities found."]
    else
      [Text.join "  " (r.severityCounts.map fun (s, n) => s!"{s.display}: {n}")] ++
        findingsLines r.report.findings ++ moduleLines r.report.byModule) ++
    gapLines r

/-- What an import points to, in the table of modules. -/
def targetText : ImportTarget → String
  | .module name => name
  | .external name => name ++ " (external)"
  | .unresolved written => written ++ " (unresolved)"

/-- The module graph as a table, with its cycles. -/
def moduleGraphLines (g : ModuleGraph) : List String :=
  let table : Table :=
    { header := ["Module", "Functions", "Imports", "Cycle", "Status"]
      rows := g.modules.map fun m =>
        [m.name, toString m.definitions.functions.length,
          Text.join "\n" (m.imports.map fun i => targetText i.target),
          if g.inCycle m.name then "yes" else "", m.degraded.getD "ok"] }
  let cycles := g.cycles
  ["", "Module Graph"] ++ table.lines ++
    if cycles.isEmpty then []
    else ["", "Import Cycles"] ++ cycles.map fun c => "  " ++ Text.join " ↔ " c

/-- The patterns of a registry. -/
def patternLines (groups : List (String × List String)) : List String :=
  let table : Table :=
    { header := ["Plugin", "Patterns"]
      rows := groups.map fun (name, patterns) => [name, Text.join "\n" patterns] }
  ["", "Patterns"] ++ table.lines

end Report

end TaintFlow
