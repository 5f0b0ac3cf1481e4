import TaintFlow.CallGraph.Basic

/-!
# Which modules a cap admits

Under a cap on modules, those that may be entered are fixed before any path is followed: a
breadth-first pass from the functions that touch a source, through every call with an argument that
is not a constant and every return of data of the function's own. Modules are admitted as they are
first met until the cap is reached. No depth bounds the pass, so the set does not change with it.
-/

namespace TaintFlow

/-- The pass under way. -/
structure Admission where
  queue : List FunctionFacts
  /-- The functions met. -/
  seen : SortedSet FunctionId := ∅
  admitted : SortedSet String := ∅

namespace Admission

/-- Whether some argument of a call is not a constant. -/
def carries (e : CallEdge) : Bool :=
  (e.bindings.any fun b => !b.label.isClean) || e.unbound.any fun l => !l.isClean

/-- The functions to look at after a function. -/
def successors (g : CallGraph) (f : FunctionFacts) : List FunctionFacts :=
  ((g.callees f.id).filter carries).filterMap (fun e => g.facts? e.callee) ++
    if f.returns.hasForeign then (g.callers f.id).filterMap fun e => g.facts? e.caller else []

/-- Takes the next function from the queue. -/
def step (g : CallGraph) (cap : Nat) (a : Admission) : Admission :=
  match a.queue with
  | [] => a
  | f :: queue =>
    if a.seen.contains f.id then { a with queue }
    else
      let seen := a.seen.insert f.id
      if !a.admitted.contains f.id.module && cap ≤ a.admitted.size then { a with queue, seen }
      else
        { queue := queue ++ successors g f, seen, admitted := a.admitted.insert f.id.module }

/-- Steps until the queue is empty, at most a number of them. -/
def run (g : CallGraph) (cap : Nat) : (steps : Nat) → Admission → Admission
  | 0, a => a
  | steps + 1, a => if a.queue.isEmpty then a else run g cap steps (a.step g cap)

/-- Enough steps: every function is expanded once and each edge then adds at most one function in
either direction. -/
def stepBound (g : CallGraph) : Nat := g.sourceFunctions.length + 2 * g.edges.length + 1

end Admission

/-- The modules that may be entered under a cap. -/
def admittedModules (g : CallGraph) (cap : Nat) : SortedSet String :=
  (Admission.run g cap (Admission.stepBound g) { queue := g.sourceFunctions }).admitted

end TaintFlow
