import TaintFlow.Propagation.Search

/-!
# Checking findings against the graph

A finding is sound if it starts at a source and ends at a sink, its steps are edges of the call graph
from the one function to the other, and there is a sink at its end. A search checks what it found.
-/

namespace TaintFlow

/-- Why a finding is not a path of the graph. -/
inductive PathFault where
  | noSource
  | noSink
  /-- No such call at this place. -/
  | noEdge (caller callee : FunctionId) (location : Location)
  /-- The steps end elsewhere. -/
  | wrongEnd (reached sink : FunctionId)
  /-- The function has no sink at this place. -/
  | sinkMissing (sink : FunctionId) (location : Location)
  deriving DecidableEq, Repr, Inhabited

def PathFault.message : PathFault → String
  | noSource => "path does not start at a source"
  | noSink => "path does not end at a sink"
  | noEdge caller callee location =>
    s!"no call edge {caller.display} -> {callee.display} at {location.display}"
  | wrongEnd reached sink => s!"walk ends at {reached.display}, sink is in {sink.display}"
  | sinkMissing sink location => s!"{sink.display} has no sink at {location.display}"

/-- Whether there is a call at a place. -/
def CallGraph.hasCallAt (g : CallGraph) (caller callee : FunctionId) (location : Location) : Bool :=
  (g.between caller callee).any fun e => e.location.same location

/-- Walks steps from a function; gives the function where they end. -/
def walkSteps (g : CallGraph) : FunctionId → List Hop → Except PathFault FunctionId
  | current, [] => .ok current
  | current, hop :: hops =>
    let (caller, callee) := if hop.kind == .ret then (hop.function, current) else (current, hop.function)
    if g.hasCallAt caller callee hop.location then walkSteps g hop.function hops
    else .error (.noEdge caller callee hop.location)

/-- Whether a function has a sink at a place. -/
def CallGraph.hasSinkAt (g : CallGraph) (id : FunctionId) (location : Location) : Bool :=
  match g.facts? id with
  | some f => f.sinkHits.any fun h => h.location.same location
  | none => false

/-- Checks a finding against the graph. -/
def Finding.validate (g : CallGraph) (v : Finding) : Except PathFault Unit := do
  if (v.hops.head?.map (·.kind)) != some .source then throw .noSource
  if (v.hops.getLast?.map (·.kind)) != some .sink then throw .noSink
  let reached ← walkSteps g v.source.function v.steps
  if reached != v.sink.function then throw (.wrongEnd reached v.sink.function)
  if !g.hasSinkAt v.sink.function v.sink.location then
    throw (.sinkMissing v.sink.function v.sink.location)

/-- A finding that is no path of the graph. -/
structure BrokenPath where
  signature : String
  fault : PathFault
  deriving DecidableEq, Repr, Inhabited

def BrokenPath.message (b : BrokenPath) : String :=
  s!"vulnerability path is not a valid call-graph walk ({b.signature}): {b.fault.message}"

/-- Checks a finding and names it if it is broken. -/
def Finding.check (g : CallGraph) (v : Finding) : Except BrokenPath Unit :=
  match v.validate g with
  | .ok () => .ok ()
  | .error fault => .error ⟨v.signature, fault⟩

/-- Follows taint over a call graph within limits, with a clock. Every finding is checked. -/
def propagateWith (g : CallGraph) (limits : Limits) (clock : Clock) : Except BrokenPath Outcome := do
  let outcome := (Search.ofLimits g limits clock).run
  outcome.findings.forM (·.check g)
  return outcome

/-- Follows taint over a call graph within limits. -/
def propagate (g : CallGraph) (limits : Limits) : Except BrokenPath Outcome :=
  propagateWith g limits (.ofTimeout limits.timeout)

end TaintFlow
