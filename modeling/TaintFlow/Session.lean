import TaintFlow.Discovery
import TaintFlow.Report.Result

/-!
# Scan sessions

A session scans one scope with one set of patterns. Building reads the sources into graphs, which
later builds replace as a whole; analyzing follows taint through the graphs of the last build and
leaves them as they are.
-/

namespace TaintFlow

/-- Why an analysis has no result. -/
inductive AnalysisError where
  /-- Nothing was built yet. -/
  | notBuilt
  /-- A call leads to a function that is not in the graph. -/
  | unknownFunction (id : FunctionId)
  /-- A path that was found does not hold up. -/
  | brokenPath (path : BrokenPath)
  deriving Repr

/-- The wording of an error. -/
def AnalysisError.message : AnalysisError → String
  | notBuilt => "analyze() called before build()"
  | unknownFunction id => "call edge references unknown function: " ++ id.display
  | brokenPath path => path.message

/-- A scope with its patterns and what was built last. -/
structure Session where
  scope : Scope
  registry : Registry
  project : Option Project := none

namespace Session

/-- Whether anything was built. -/
def isBuilt (s : Session) : Bool := s.project.isSome

/-- Builds the graphs of the sources as they are now. -/
def build (s : Session) (w : Workspace) : Except AnalysisError (Project × Session) := do
  let project ← (Project.build s.registry (w.units s.scope)).mapError .unknownFunction
  return (project, { s with project := some project })

/-- Scans what was built last. -/
def analyze (s : Session) (limits : Limits) (elapsedMs : Nat := 0) :
    Except AnalysisError ScanResult :=
  match s.project with
  | none => .error .notBuilt
  | some project => (project.analyze limits elapsedMs).mapError .brokenPath

end Session

end TaintFlow
