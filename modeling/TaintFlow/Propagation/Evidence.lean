import TaintFlow.CallGraph.Basic
import TaintFlow.Finding

/-!
# From a path to a finding

A path is a source hit, the steps taken from it and a sink hit in the function where they end. The
finding lists them as hops, with the sanitizers that were met on the way and do not protect the
sink.
-/

namespace TaintFlow

/-- The direction of a step. -/
inductive Direction where
  /-- Into the callee. -/
  | down
  /-- Back to the caller. -/
  | up
  deriving DecidableEq, Repr, Inhabited

/-- An edge taken on a path, with the sanitizers on the data that crossed it. -/
structure Step where
  edge : CallEdge
  direction : Direction
  applied : Sanitizers
  deriving Repr, Inhabited

namespace Step

/-- The function that the data leaves. -/
def origin (s : Step) : FunctionId :=
  match s.direction with
  | .down => s.edge.caller
  | .up => s.edge.callee

/-- The function that the data enters. -/
def target (s : Step) : FunctionId :=
  match s.direction with
  | .down => s.edge.callee
  | .up => s.edge.caller

def kind (s : Step) : HopKind :=
  match s.direction with
  | .down => .call
  | .up => .ret

def detail (s : Step) : String :=
  match s.direction with
  | .down => "called from " ++ s.edge.caller.display
  | .up => "returned from " ++ s.edge.callee.display

/-- The hops of a step: the sanitizers that are still in force at the end, on the side that the data
leaves from, then the step. -/
def hops (inForce : Sanitizers) (s : Step) : List Hop :=
  ((s.applied.filter inForce.contains).toList.map fun name =>
    { function := s.origin, location := s.edge.location, kind := .sanitizer, detail := some name }) ++
    [{ function := s.target, location := s.edge.location, kind := s.kind, detail := some s.detail }]

end Step

/-- A source hit in a function: where paths start. -/
structure Seed where
  function : FunctionFacts
  hit : SourceHit
  deriving Repr, Inhabited

/-- Whether a function is on an import cycle or a call cycle. -/
def CallGraph.isCyclic (g : CallGraph) (id : FunctionId) : Bool :=
  match g.node? id with
  | some n => n.inCycle || n.inCallCycle
  | none => false

/-- How sure a path is: less with sanitizers on it, and less on a cycle. -/
def pathConfidence (g : CallGraph) (seed : Seed) (trail : List Step) (s : Sanitizers) : Confidence :=
  let base : Confidence := if s.isEmpty then .high else .medium
  if g.isCyclic seed.function.id || trail.any fun step => g.isCyclic step.target then base.lowered
  else base

/-- The hops of a path. -/
def pathHops (seed : Seed) (trail : List Step) (sinkFunction : FunctionId) (hit : SinkHit)
    (inForce : Sanitizers) : List Hop :=
  let start : Hop :=
    { function := seed.function.id, location := seed.hit.location, kind := .source
      detail := some seed.hit.source.id }
  let stop : Hop :=
    { function := sinkFunction, location := hit.location, kind := .sink
      detail := some hit.sink.name }
  let last : List Hop := hit.label.sanitizers.toList.map fun name =>
    { function := sinkFunction, location := hit.location, kind := .sanitizer, detail := some name }
  start :: trail.flatMap (Step.hops inForce) ++ last ++ [stop]

/-- A path in one sentence. -/
def pathSummary (seed : Seed) (trail : List Step) (sinkFunction : FunctionId) (hit : SinkHit) :
    String :=
  let plural := if trail.length = 1 then "" else "s"
  s!"{hit.sink.weakness.display}: {seed.hit.source.display} read in {seed.function.id.display} " ++
    s!"reaches {hit.sink.name} in {sinkFunction.display} through {trail.length} hop{plural}"

/-- The finding of a path. -/
def pathFinding (g : CallGraph) (seed : Seed) (trail : List Step) (sinkFunction : FunctionId)
    (hit : SinkHit) (s : Sanitizers) : Finding :=
  let confidence := pathConfidence g seed trail s
  { weakness := hit.sink.weakness
    severity := hit.sink.severity
    confidence
    score := confidence.score
    source :=
      { id := seed.hit.source.id, description := seed.hit.source.display
        function := seed.function.id, location := seed.hit.location }
    sink :=
      { id := hit.sink.id, name := hit.sink.name, function := sinkFunction
        location := hit.location }
    hops := pathHops seed trail sinkFunction hit s
    sanitizers := s.toList
    summary := pathSummary seed trail sinkFunction hit
    remediation := hit.sink.remediation }

/-- Whether a finding is to be kept over another for the same source and sink: fewer steps win, then
the smaller list of functions. -/
def Finding.isBetter (a b : Finding) : Bool :=
  (compare a.hopCount b.hopCount).then (compare a.signature b.signature) == .lt

end TaintFlow
