import TaintFlow.Exchange.Finding
import TaintFlow.Exchange.Limits
import TaintFlow.Report.Result

/-!
# Results in JSON

The members of a scan result stand in the order in which they are printed; the limits of the scan
are members of the result itself.
-/

namespace TaintFlow

namespace Truncation

def toJson (t : Truncation) : Json :=
  .object [("depth", .bool t.depth), ("modules", .bool t.modules), ("timeout", .bool t.timeout)]

def ofJson? (j : Json) : Option Truncation := do
  return ⟨← j.fieldD? "depth" Json.bool? false, ← j.fieldD? "modules" Json.bool? false,
    ← j.fieldD? "timeout" Json.bool? false⟩

end Truncation

def Outcome.toJson (o : Outcome) : Json :=
  .object
    [("vulnerabilities", .ofList Finding.toJson o.findings), ("truncation", o.truncation.toJson),
      ("modules_visited", .nat o.modulesVisited), ("sanitized_paths", .nat o.sanitizedPaths),
      ("paths_explored", .nat o.pathsExplored)]

def ModuleSummary.toJson (s : ModuleSummary) : Json :=
  .object [("as_source", .nat s.asSource), ("as_sink", .nat s.asSink), ("on_path", .nat s.onPath)]

namespace Report

def members (r : Report) : List (String × Json) :=
  [("vulnerabilities", .ofList Finding.toJson r.findings),
    ("by_module", .object (r.byModule.toList.map fun (m, s) => (m, s.toJson)))]

def toJson (r : Report) : Json := .object r.members

end Report

namespace DegradedModule

def toJson (d : DegradedModule) : Json :=
  .object
    [("module", .string d.module), ("file", .string d.file.text), ("reason", .string d.reason)]

def ofJson? (j : Json) : Option DegradedModule := do
  return ⟨← j.field? "module" Json.string?, ⟨← j.field? "file" Json.string?⟩,
    ← j.field? "reason" Json.string?⟩

end DegradedModule

namespace UnresolvedImport

def toJson (u : UnresolvedImport) : Json :=
  .object [("module", .string u.module), ("line", .nat u.line), ("target", .string u.target)]

def ofJson? (j : Json) : Option UnresolvedImport := do
  return ⟨← j.field? "module" Json.string?, ← j.field? "line" Json.nat?,
    ← j.field? "target" Json.string?⟩

end UnresolvedImport

def ScanResult.toJson (r : ScanResult) : Json :=
  .object
    (r.report.members ++
      [("modules_analyzed", .nat r.modulesAnalyzed),
        ("functions_analyzed", .nat r.functionsAnalyzed), ("call_edges", .nat r.callEdges),
        ("modules_visited", .nat r.modulesVisited), ("truncated", .bool r.truncation.any),
        ("truncation", r.truncation.toJson),
        ("degraded_modules", .ofList DegradedModule.toJson r.degraded),
        ("unresolved_imports", .ofList UnresolvedImport.toJson r.unresolved),
        ("sanitized_paths", .nat r.sanitizedPaths), ("paths_explored", .nat r.pathsExplored),
        ("elapsed_ms", .nat r.elapsedMs)] ++
      r.limits.members)

def BuildSummary.toJson (s : BuildSummary) : Json :=
  .object
    [("modules", .nat s.modules), ("functions", .nat s.functions), ("call_edges", .nat s.callEdges),
      ("degraded", .nat s.degraded), ("cycles", .nat s.cycles), ("elapsed_ms", .nat s.elapsedMs)]

namespace DiagramNode

def toJson (n : DiagramNode) : Json :=
  .object
    [("id", .string n.id), ("kind", .string n.kind), ("on_path", .bool n.onPath),
      ("in_cycle", .bool n.inCycle), ("degraded", .bool n.degraded)]

def ofJson? (j : Json) : Option DiagramNode := do
  return ⟨← j.field? "id" Json.string?, ← j.field? "kind" Json.string?,
    ← j.fieldD? "on_path" Json.bool? false, ← j.fieldD? "in_cycle" Json.bool? false,
    ← j.fieldD? "degraded" Json.bool? false⟩

end DiagramNode

namespace DiagramEdge

def toJson (e : DiagramEdge) : Json :=
  .object
    [("from", .string e.source), ("to", .string e.target), ("label", .string e.label),
      ("on_path", .bool e.onPath), ("conditional", .bool e.conditional)]

def ofJson? (j : Json) : Option DiagramEdge := do
  return ⟨← j.field? "from" Json.string?, ← j.field? "to" Json.string?,
    ← j.field? "label" Json.string?, ← j.fieldD? "on_path" Json.bool? false,
    ← j.fieldD? "conditional" Json.bool? false⟩

end DiagramEdge

namespace Diagram

def toJson (d : Diagram) : Json :=
  .object
    [("nodes", .ofList DiagramNode.toJson d.nodes), ("edges", .ofList DiagramEdge.toJson d.edges)]

def ofJson? (j : Json) : Option Diagram := do
  return ⟨← j.fieldD? "nodes" (Json.listOf? DiagramNode.ofJson?) [],
    ← j.fieldD? "edges" (Json.listOf? DiagramEdge.ofJson?) []⟩

end Diagram

end TaintFlow
