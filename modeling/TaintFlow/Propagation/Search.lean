import TaintFlow.Policy
import TaintFlow.Propagation.Admission
import TaintFlow.Propagation.Evidence
import TaintFlow.Propagation.Flow

/-!
# Following taint through the call graph

From every source hit the graph is searched breadth first. A state is a function with the tainted
origins in it; a state that was met before is not expanded again. Down a call the tainted arguments
taint parameters, and a function that returns tainted data taints the result of the call in each of
its callers. Where tainted data reaches a sink that its sanitizers do not cover, the path is a
finding; for each pair of source and sink the best one is kept.

Depth, modules and time may cut the search short, and the outcome says which did. Time is a clock
that tells at each look whether it has run out.
-/

namespace TaintFlow

/-- Which limits cut a search short. -/
structure Truncation where
  depth : Bool := false
  modules : Bool := false
  timeout : Bool := false
  deriving DecidableEq, Repr, Inhabited

/-- Whether any limit did. -/
def Truncation.any (t : Truncation) : Bool := t.depth || t.modules || t.timeout

/-- Whether time has run out, at each look at the clock. -/
abbrev Clock := Nat → Bool

/-- The clock of a timeout: without any time it has run out from the start. -/
def Clock.ofTimeout (d : Duration) : Clock := fun _ => d.nanoseconds == 0

/-- A pair of source and sink. -/
structure FindingKey where
  source : Location
  sink : Location
  deriving DecidableEq, Repr, Inhabited

instance : Ord FindingKey := ⟨compareLex (compareOn (·.source)) (compareOn (·.sink))⟩

instance : Std.TransOrd FindingKey :=
  inferInstanceAs (Std.TransCmp
    (compareLex (compareOn fun k : FindingKey => k.source) (compareOn fun k => k.sink)))

/-- What a search works with. -/
structure Search where
  graph : CallGraph
  maxDepth : Option Nat
  /-- The modules that may be entered; all of them without a cap. -/
  admitted : Option (SortedSet String)
  clock : Clock

namespace Search

/-- The search on a graph within limits. -/
def ofLimits (g : CallGraph) (limits : Limits) (clock : Clock) : Search where
  graph := g
  maxDepth := limits.maxDepth
  admitted := limits.maxModules.map (admittedModules g)
  clock

/-- Whether a number of steps is more than allowed. -/
def tooDeep (s : Search) (steps : Nat) : Bool :=
  match s.maxDepth with
  | some most => most < steps
  | none => false

end Search

/-! ## 1. Progress -/

/-- What a search has come to. -/
structure Progress where
  /-- The modules entered. -/
  modules : SortedSet String := ∅
  found : SortedMap FindingKey Finding := ∅
  truncation : Truncation := {}
  /-- How often a sanitizer ended a path. -/
  sanitizedPaths : Nat := 0
  /-- How many states were expanded. -/
  explored : Nat := 0
  /-- How often the clock was looked at. -/
  looks : Nat := 0
  deriving Repr, Inhabited

namespace Progress

/-- Looks at the clock; tells whether time has run out. -/
def look (clock : Clock) (p : Progress) : Progress × Bool :=
  let expired := clock p.looks
  ({ p with
      looks := p.looks + 1
      truncation.timeout := p.truncation.timeout || expired }, expired)

/-- Counts paths ended by sanitizers. -/
def addSanitized (n : Nat) (p : Progress) : Progress :=
  { p with sanitizedPaths := p.sanitizedPaths + n }

/-- Notes that the depth cut a path short. -/
def cutDepth (p : Progress) : Progress := { p with truncation.depth := true }

/-- Counts an expanded state. -/
def addExplored (p : Progress) : Progress := { p with explored := p.explored + 1 }

/-- Enters a module; tells whether it is admitted. -/
def enter (s : Search) (module : String) (p : Progress) : Progress × Bool :=
  if p.modules.contains module then (p, true)
  else if (s.admitted.map fun a => !a.contains module).getD false then
    ({ p with truncation.modules := true }, false)
  else ({ p with modules := p.modules.insert module }, true)

/-- Keeps a finding unless there is a better one for its source and sink. -/
def addFinding (v : Finding) (p : Progress) : Progress :=
  let key : FindingKey := ⟨v.source.location, v.sink.location⟩
  match p.found.get? key with
  | some present => if v.isBetter present then { p with found := p.found.insert key v } else p
  | none => { p with found := p.found.insert key v }

end Progress

/-! ## 2. States -/

/-- A point of a path. -/
structure PathState where
  function : FunctionFacts
  tainted : Tainted
  trail : List Step
  deriving Repr, Inhabited

namespace PathState

/-- Where a search from a source hit starts. -/
def start (seed : Seed) : PathState :=
  ⟨seed.function, .singleton (.source seed.hit.source.id) ∅, []⟩

/-- What makes two states the same. -/
def key (st : PathState) : FunctionId × Tainted := (st.function.id, st.tainted)

/-- Checks one sink of the function against the tainted origins. -/
def checkSink (s : Search) (seed : Seed) (st : PathState) (p : Progress) (hit : SinkHit) : Progress :=
  match st.tainted.carried? hit.label with
  | none => p
  | some applied =>
    if applied.any fun name => s.graph.registry.covers name hit.sink.weakness then p.addSanitized 1
    else p.addFinding (pathFinding s.graph seed st.trail st.function.id hit applied)

/-- Checks every sink of the function. -/
def checkSinks (s : Search) (seed : Seed) (st : PathState) (p : Progress) : Progress :=
  st.function.sinkHits.foldl (checkSink s seed st) p

/-- Takes a step to a function unless depth or modules forbid it. -/
def advance (s : Search) (st : PathState) (next : FunctionFacts) (tainted : Tainted) (step : Step)
    (acc : Progress × List PathState) : Progress × List PathState :=
  if s.tooDeep (st.trail.length + 1) then (acc.1.cutDepth, acc.2)
  else
    match acc.1.enter s next.id.module with
    | (p, false) => (p, acc.2)
    | (p, true) => (p, acc.2 ++ [⟨next, tainted, st.trail ++ [step]⟩])

/-- Follows a call into its callee, if that is a function of the project and taint reaches it. -/
def followCall (s : Search) (st : PathState) (acc : Progress × List PathState) (edge : CallEdge) :
    Progress × List PathState :=
  match s.graph.node? edge.callee with
  | some { kind := .function, facts := some callee, .. } =>
    let inflow := flowInto s.graph.registry edge callee st.tainted
    let acc := (acc.1.addSanitized (droppedParams s.graph.registry edge callee st.tainted), acc.2)
    if inflow.tainted.isEmpty then acc
    else st.advance s callee inflow.tainted ⟨edge, .down, inflow.applied⟩ acc
  | _ => acc

/-- Follows returned data back to one caller. -/
def followReturn (s : Search) (st : PathState) (sanitizers : Sanitizers)
    (acc : Progress × List PathState) (edge : CallEdge) : Progress × List PathState :=
  match s.graph.facts? edge.caller with
  | some caller =>
    st.advance s caller (.singleton (.call edge.site) sanitizers)
      ⟨edge, .up, st.function.returns.sanitizers⟩ acc
  | none => acc

/-- Follows returned data back to the callers. -/
def followReturns (s : Search) (st : PathState) (acc : Progress × List PathState) :
    Progress × List PathState :=
  match returned? st.function st.tainted with
  | none => acc
  | some sanitizers =>
    if s.graph.registry.neutralizes sanitizers then (acc.1.addSanitized 1, acc.2)
    else (s.graph.callers st.function.id).foldl (followReturn s st sanitizers) acc

/-- Expands a state: its sinks, its calls, its returns. The function with the source itself is no
path, so its sinks do not count at the start. -/
def expand (s : Search) (seed : Seed) (st : PathState) (p : Progress) : Progress × List PathState :=
  let p := p.addExplored
  let p := if st.trail.isEmpty then p else st.checkSinks s seed p
  st.followReturns s ((s.graph.callees st.function.id).foldl (followCall s st) (p, []))

end PathState

/-! ## 3. The search from one source hit -/

/-- A search under way. -/
structure Exploration where
  /-- The states to look at, in order. -/
  frontier : List PathState
  /-- The states expanded. -/
  visited : List (FunctionId × Tainted)
  progress : Progress

namespace Exploration

/-- Takes the next state. Once time has run out the rest is given up. -/
def step (s : Search) (seed : Seed) (x : Exploration) : Exploration :=
  match x.frontier with
  | [] => x
  | st :: rest =>
    match x.progress.look s.clock with
    | (p, true) => { x with frontier := [], progress := p }
    | (p, false) =>
      if x.visited.contains st.key then { x with frontier := rest, progress := p }
      else
        let (p, found) := st.expand s seed p
        { frontier := rest ++ found, visited := st.key :: x.visited, progress := p }

/-- Steps until the frontier is empty, at most a number of them. -/
def run (s : Search) (seed : Seed) : (steps : Nat) → Exploration → Exploration
  | 0, x => x
  | steps + 1, x => if x.frontier.isEmpty then x else run s seed steps (x.step s seed)

end Exploration

namespace CallGraph

/-- Every sanitizer on a label of the graph. -/
def sanitizerNames (g : CallGraph) : List String :=
  ((g.edges.flatMap fun e => (e.bindings.map (·.label) ++ e.unbound)) ++
    (g.nodes.filterMap (·.facts)).map (·.returns)).flatMap (fun l => l.sanitizers.toList) |>.eraseDups

/-- Every parameter that an edge may taint. -/
def paramIndices (g : CallGraph) : List Nat :=
  ((g.edges.flatMap fun e => e.bindings.map (·.param)) ++
    (g.nodes.filterMap (·.facts)).flatMap fun f => List.range f.params.length).eraseDups

/-- Enough steps for any search. A state is the start, or a call site with a set of sanitizers, or
some parameters each with such a set, in one of the functions; an expanded state leads to at most one
state for each edge and direction. -/
def searchBound (g : CallGraph) : Nat :=
  let sets := Nat.pow 2 g.sanitizerNames.length
  let states := g.nodes.length * (1 + g.edges.length * sets + Nat.pow (sets + 1) g.paramIndices.length)
  2 + states * (2 * g.edges.length)

end CallGraph

/-- Searches from a source hit. -/
def runSeed (s : Search) (p : Progress) (seed : Seed) : Progress :=
  match p.enter s seed.function.id.module with
  | (p, false) => p
  | (p, true) => (Exploration.run s seed s.graph.searchBound ⟨[.start seed], [], p⟩).progress

/-- Searches from a source hit unless time has run out. -/
def trySeed (s : Search) (p : Progress) (seed : Seed) : Progress :=
  match p.look s.clock with
  | (p, true) => p
  | (p, false) => runSeed s p seed

/-- The source hits of a function, the first of each source. -/
def FunctionFacts.seeds (f : FunctionFacts) : List Seed :=
  (f.sources.toList.foldl
    (fun kept hit => if kept.any fun k => k.source.id == hit.source.id then kept else kept ++ [hit])
    []).map fun hit => ⟨f, hit⟩

/-! ## 4. The outcome -/

/-- What a search over the whole graph comes to. -/
structure Outcome where
  findings : List Finding
  truncation : Truncation
  modulesVisited : Nat
  sanitizedPaths : Nat
  pathsExplored : Nat
  deriving DecidableEq, Repr, Inhabited

/-- The outcome of a search. -/
def Progress.outcome (p : Progress) : Outcome where
  findings := p.found.values
  truncation := p.truncation
  modulesVisited := p.modules.size
  sanitizedPaths := p.sanitizedPaths
  pathsExplored := p.explored

/-- Searches from every source hit of a graph. -/
def Search.run (s : Search) : Outcome :=
  ((s.graph.sourceFunctions.flatMap (·.seeds)).foldl (trySeed s) {}).outcome

end TaintFlow
