import TaintFlow.CallGraph.Basic
import TaintFlow.Summary

/-!
# The call graph of a project

Callees are resolved, call results replaced by what the callees return, and every call that leads to
a function of the project or to a source or sink outside it becomes an edge.
-/

namespace TaintFlow

/-- The edge of a call to a function of the project. -/
def bindCall (caller : FunctionId) (index : Nat) (site : CallSite) (callee : FunctionFacts)
    (offset : Nat) : CallEdge where
  caller
  callee := callee.id
  location := site.location
  site := index
  bindings := boundArgs site.args callee offset
  unbound := unboundArgs site.args callee offset
  dynamic := site.dynamic

/-- The edge of a call that leaves the project. -/
def leafCall (caller : FunctionId) (index : Nat) (site : CallSite) : CallEdge where
  caller
  callee := ⟨FunctionId.externalModule, site.callee⟩
  location := site.location
  site := index
  bindings := []
  unbound := site.args.map (·.label)
  dynamic := site.dynamic

/-- The edge of a call site by its target, with the kind of the leaf it leads to if it leaves the
project. -/
def siteEdge? (functions : Functions) (caller : FunctionId) (index : Nat) (site : CallSite) :
    CallTarget → Option (CallEdge × Option NodeKind)
  | .function id offset =>
    (functions.get? id).map fun callee => (bindCall caller index site callee offset, none)
  | .leaf kind => some (leafCall caller index site, some kind)
  | .dropped => none

/-- The edges of a function's calls. -/
def edgesOf (functions : Functions) (targets : Targets) (caller : FunctionFacts) :
    List (CallEdge × Option NodeKind) :=
  ((caller.calls.zip (targets.sitesOf caller.id)).zipIdx).filterMap fun ((site, target), index) =>
    siteEdge? functions caller.id index site target

namespace CallGraph

/-- Adds an edge with the leaf that it leads to. -/
def addEdge (g : CallGraph) (e : CallEdge × Option NodeKind) : Except FunctionId CallGraph :=
  match e.2 with
  | some kind => (g.addNode { id := e.1.callee, kind }).addCall e.1
  | none => g.addCall e.1

/-- The node of a function of the project. -/
def functionNode (modules : ModuleGraph) (f : FunctionFacts) : CallNode where
  id := f.id
  kind := .function
  facts := some f
  inCycle := modules.contains f.id.module && modules.inCycle f.id.module

/-- The call graph of modules and the facts of their functions; of several facts for one function
the last counts. -/
def build (modules : ModuleGraph) (facts : List FunctionFacts) (registry : Registry) :
    Except FunctionId CallGraph := do
  let functions := Functions.ofFacts facts
  let targets := callTargets modules functions
  let functions := functions.summarized targets registry
  let graph := functions.values.foldl (fun g f => g.addNode (functionNode modules f)) (empty registry)
  let graph ← (functions.values.flatMap (edgesOf functions targets)).foldlM addEdge graph
  return graph.markCallCycles

end CallGraph

end TaintFlow
