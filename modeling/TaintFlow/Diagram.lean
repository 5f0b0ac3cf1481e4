import TaintFlow.CallGraph.Basic
import TaintFlow.Finding
import TaintFlow.Propagation.Evidence

/-!
# Diagrams

The module graph with the modules and imports of findings highlighted, or the part of the call graph
that findings run through, as plain nodes and edges.
-/

namespace TaintFlow

/-- A node of a diagram. -/
structure DiagramNode where
  id : String
  /-- `module`, `function`, `source` or `sink` -/
  kind : String
  onPath : Bool := false
  inCycle : Bool := false
  degraded : Bool := false
  deriving DecidableEq, Repr, Inhabited

/-- An edge of a diagram. -/
structure DiagramEdge where
  source : String
  target : String
  label : String
  onPath : Bool := false
  conditional : Bool := false
  deriving DecidableEq, Repr, Inhabited

/-- A graph ready for drawing. -/
structure Diagram where
  nodes : List DiagramNode
  edges : List DiagramEdge
  deriving DecidableEq, Repr, Inhabited

namespace Diagram

/-! ## 1. Modules -/

/-- Each element with the next. -/
def neighbours {α : Type} : List α → List (α × α)
  | a :: b :: rest => (a, b) :: neighbours (b :: rest)
  | _ => []

/-- The module graph, with what findings run through highlighted. -/
def ofModules (g : ModuleGraph) (findings : List Finding) : Diagram :=
  let modules := findings.flatMap (·.modulesOnPath)
  let crossed := findings.flatMap fun v => neighbours v.modulesOnPath
  { nodes := g.modules.map fun m =>
      { id := m.name, kind := "module", onPath := modules.contains m.name
        inCycle := g.inCycle m.name, degraded := m.degraded.isSome }
    edges := g.importEdges.map fun e =>
      { source := e.source, target := e.target, label := s!"line {e.line}"
        onPath := crossed.contains (e.source, e.target), conditional := e.conditional } }

/-! ## 2. Calls -/

/-- What makes two edges of a diagram one. -/
structure EdgeKey where
  source : String
  target : String
  label : String
  deriving DecidableEq, Repr, Inhabited

instance : Ord EdgeKey :=
  ⟨compareLex (compareOn (·.source)) (compareLex (compareOn (·.target)) (compareOn (·.label)))⟩

instance : Std.TransOrd EdgeKey :=
  inferInstanceAs (Std.TransCmp (compareLex (compareOn fun k : EdgeKey => k.source)
    (compareLex (compareOn fun k => k.target) (compareOn fun k => k.label))))

/-- The part of the call graph drawn so far. -/
structure CallDrawing where
  nodes : SortedMap String DiagramNode := ∅
  edges : SortedMap EdgeKey DiagramEdge := ∅

namespace CallDrawing

/-- Draws a function unless it is there. -/
def addFunction (g : CallGraph) (id : FunctionId) (kind : String) (d : CallDrawing) : CallDrawing :=
  { d with nodes := d.nodes.alter id.display fun
      | some present => present
      | none => { id := id.display, kind, onPath := true, inCycle := g.isCyclic id } }

/-- Draws an edge unless it is there. -/
def addEdge (key : EdgeKey) (d : CallDrawing) : CallDrawing :=
  { d with edges := d.edges.alter key fun
      | some present => present
      | none => { source := key.source, target := key.target, label := key.label, onPath := true } }

/-- Draws steps from a function on. Edges point from caller to callee, whichever way the data goes. -/
def addSteps (g : CallGraph) : FunctionId → List Hop → CallDrawing → CallDrawing
  | _, [], d => d
  | previous, hop :: hops, d =>
    let (caller, callee) :=
      if hop.kind == .ret then (hop.function, previous) else (previous, hop.function)
    addSteps g hop.function hops
      ((d.addFunction g hop.function "function").addEdge
        ⟨caller.display, callee.display, hop.location.display⟩)

/-- Marks a function, if it is drawn, as the place of a sink. -/
def markSink (id : FunctionId) (d : CallDrawing) : CallDrawing :=
  { d with nodes := d.nodes.mapValues fun key n =>
      if key = id.display then { n with kind := "sink" } else n }

/-- Draws a finding. -/
def addFinding (g : CallGraph) (d : CallDrawing) (v : Finding) : CallDrawing :=
  (addSteps g v.source.function v.steps (d.addFunction g v.source.function "source")).markSink
    v.sink.function

end CallDrawing

/-- The functions and calls that findings run through. -/
def ofCalls (g : CallGraph) (findings : List Finding) : Diagram :=
  let d := findings.foldl (CallDrawing.addFinding g) {}
  ⟨d.nodes.values, d.edges.values⟩

/-! ## 3. Text -/

/-- Identifiers for the ends of edges and the nodes: nodes by their place, and ends that are no nodes
by how many identifiers there are. -/
def shortIds (d : Diagram) : SortedMap String String :=
  let nodes := SortedMap.ofList ((d.nodes.zipIdx).map fun (n, i) => (n.id, s!"n{i}"))
  (d.edges.flatMap fun e => [e.source, e.target]).foldl
    (fun ids id => if ids.contains id then ids else ids.insert id s!"n{ids.size}") nodes

/-- Replaces a character by a text. -/
def replaceWith (c : Char) (by_ : String) (s : String) : String :=
  s.toList.foldl (fun out x => if x = c then out ++ by_ else out.push x) ""

/-- A text in double quotes of a flowchart. -/
def mermaidText (s : String) : String := replaceWith '"' "#quot;" s

/-- The diagram as a Mermaid flowchart, with identifiers for what its nodes and edges name. -/
def flowchart (idOf : String → String) (d : Diagram) : String :=
  let node (n : DiagramNode) : String := "    " ++ idOf n.id ++ "[\"" ++ mermaidText n.id ++ "\"]\n"
  let edge (e : DiagramEdge) : String :=
    "    " ++ idOf e.source ++ (if e.conditional then " -.->" else " -->") ++ "|\"" ++
      mermaidText e.label ++ "\"| " ++ idOf e.target ++ "\n"
  let highlighted := (d.nodes.filter (·.onPath)).map fun n => idOf n.id
  "flowchart LR\n" ++ String.join (d.nodes.map node) ++ String.join (d.edges.map edge) ++
    if highlighted.isEmpty then ""
    else
      "    classDef tainted fill:#fdd,stroke:#c00;\n" ++
        "    class " ++ Text.join "," highlighted ++ " tainted;\n"

/-- The diagram as a Mermaid flowchart with short identifiers. -/
def mermaid (d : Diagram) : String := d.flowchart fun s => (d.shortIds.get? s).getD ""

/-- A text in double quotes of DOT. -/
def dotText (s : String) : String :=
  "\"" ++ replaceWith '"' "\\\"" (replaceWith '\\' "\\\\" s) ++ "\""

/-- The diagram in Graphviz's DOT language. -/
def dot (d : Diagram) : String :=
  let node (n : DiagramNode) : String :=
    let attributes :=
      (if n.onPath then ["style=filled, fillcolor=\"#ffdddd\""] else []) ++
        (if n.inCycle then ["peripheries=2"] else []) ++
        if n.degraded then ["color=gray"] else []
    "  " ++ dotText n.id ++
      (if attributes.isEmpty then "" else " [" ++ Text.join ", " attributes ++ "]") ++ ";\n"
  let edge (e : DiagramEdge) : String :=
    let attributes :=
      ["label=" ++ dotText e.label] ++
        (if e.onPath then ["color=red, penwidth=2.0"] else []) ++
        if e.conditional then ["style=dashed"] else []
    "  " ++ dotText e.source ++ " -> " ++ dotText e.target ++ " [" ++ Text.join ", " attributes ++
      "];\n"
  "digraph crosstaint \x7b\n  rankdir=LR;\n" ++
    "  node [shape=box, fontname=\"monospace\", fontsize=10];\n\n" ++
    String.join (d.nodes.map node) ++ "\n" ++ String.join (d.edges.map edge) ++ "\x7d\n"

end Diagram

end TaintFlow
