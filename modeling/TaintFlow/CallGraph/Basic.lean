import TaintFlow.Binding
import TaintFlow.CallTarget
import TaintFlow.Reachability
import TaintFlow.Registry

/-!
# Call graphs

Nodes are functions, with leaves for sources and sinks outside the project; each call site is an
edge of its own, with the taint of its arguments. Nodes and edges keep the order in which they were
added. Lists of edges are sorted by call site, caller and callee; the edges of a node that agree in
these come newest first, those of the whole graph oldest first.
-/

namespace TaintFlow

/-- A node of a call graph. -/
structure CallNode where
  /-- The function's name; a leaf has the external module. -/
  id : FunctionId
  kind : NodeKind
  /-- The facts of a function of the project. -/
  facts : Option FunctionFacts := none
  /-- Whether its module is part of an import cycle. -/
  inCycle : Bool := false
  /-- Whether it can call itself, directly or not. -/
  inCallCycle : Bool := false
  deriving Repr, Inhabited

/-- One call site. -/
structure CallEdge where
  caller : FunctionId
  callee : FunctionId
  location : Location
  /-- The index of the call among the caller's. -/
  site : Nat
  bindings : List Binding
  /-- The labels of the arguments that reach no parameter. -/
  unbound : List Label
  /-- A spread argument: every parameter may receive taint. -/
  dynamic : Bool
  deriving Repr, Inhabited

namespace CallEdge

/-- Whether two edges are the same call: by caller, callee and place. -/
def same (a b : CallEdge) : Bool :=
  a.caller == b.caller && a.callee == b.callee && a.location.same b.location

/-- The order of edges: by call site, caller and callee. -/
def order (a b : CallEdge) : Ordering :=
  (compare a.location b.location).then ((compare a.caller b.caller).then (compare a.callee b.callee))

/-- Sorts edges; those that agree keep their order. -/
def sort (edges : List CallEdge) : List CallEdge := edges.mergeSort fun a b => order a b != .gt

end CallEdge

/-- A call graph. -/
structure CallGraph where
  registry : Registry
  /-- In the order of adding. -/
  nodes : List CallNode := []
  /-- In the order of adding. -/
  edges : List CallEdge := []

namespace CallGraph

/-- The graph without nodes. -/
def empty (registry : Registry) : CallGraph := { registry }

/-! ## 1. Adding -/

/-- The node of a function. -/
def node? (g : CallGraph) (id : FunctionId) : Option CallNode := g.nodes.find? fun n => n.id == id

/-- Whether a function has a node. -/
def contains (g : CallGraph) (id : FunctionId) : Bool := (g.node? id).isSome

/-- The place of a function's node in the order of adding. -/
def indexOf? (g : CallGraph) (id : FunctionId) : Option Nat := g.nodes.findIdx? fun n => n.id == id

/-- Adds a node unless its function has one. -/
def addNode (g : CallGraph) (n : CallNode) : CallGraph :=
  if g.contains n.id then g else { g with nodes := g.nodes ++ [n] }

/-- Adds an edge between functions that have nodes, or tells which has none. -/
def addCall (g : CallGraph) (e : CallEdge) : Except FunctionId CallGraph :=
  if !g.contains e.caller then .error e.caller
  else if !g.contains e.callee then .error e.callee
  else .ok { g with edges := g.edges ++ [e] }

/-! ## 2. Looking -/

/-- The facts of a function. -/
def facts? (g : CallGraph) (id : FunctionId) : Option FunctionFacts := (g.node? id).bind (·.facts)

/-- The nodes in the order of their names. -/
def sortedNodes (g : CallGraph) : List CallNode :=
  g.nodes.mergeSort fun a b => compare a.id b.id != .gt

/-- The functions that touch a source, in order. -/
def sourceFunctions (g : CallGraph) : List FunctionFacts :=
  (g.sortedNodes.filterMap (·.facts)).filter (·.touchesSource)

/-- Every edge. -/
def sortedEdges (g : CallGraph) : List CallEdge := CallEdge.sort g.edges

/-- The calls that a function makes. -/
def callees (g : CallGraph) (id : FunctionId) : List CallEdge :=
  CallEdge.sort (g.edges.reverse.filter fun e => e.caller == id)

/-- The calls of a function. -/
def callers (g : CallGraph) (id : FunctionId) : List CallEdge :=
  CallEdge.sort (g.edges.reverse.filter fun e => e.callee == id)

/-- The calls from one function to another. -/
def between (g : CallGraph) (caller callee : FunctionId) : List CallEdge :=
  (g.callees caller).filter fun e => e.callee == callee

/-- How many functions of the project there are. -/
def functionCount (g : CallGraph) : Nat := g.nodes.countP fun n => n.kind == .function

/-- The functions that a function calls. -/
def calledBy (g : CallGraph) (id : FunctionId) : List FunctionId :=
  (g.edges.filter fun e => e.caller == id).map (·.callee)

/-- Marks the functions that can call themselves. -/
def markCallCycles (g : CallGraph) : CallGraph :=
  { g with nodes := g.nodes.map fun n =>
      { n with inCallCycle := onCycle g.calledBy (g.nodes.map (·.id)) n.id } }

end CallGraph

end TaintFlow
