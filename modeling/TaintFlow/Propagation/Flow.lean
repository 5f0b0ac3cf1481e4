import TaintFlow.CallGraph.Basic

/-!
# How taint crosses a call

At a point of a path some origins of a function are tainted, each with the sanitizers that were
applied on the way. Where several tainted origins meet in one value, only the sanitizers common to
all of them protect it; those on the value itself are added.
-/

namespace TaintFlow

/-- The tainted origins of a function with the sanitizers applied to each. -/
abbrev Tainted := SortedMap Origin Sanitizers

namespace Tainted

/-- The sanitizers common to the tainted ones among some origins; none if none is tainted. -/
def common? (t : Tainted) (origins : List Origin) : Option Sanitizers :=
  (origins.filterMap t.get?).foldl
    (fun met s => some (met.elim s fun m => m.inter s)) none

/-- The sanitizers on a value with this label, if taint reaches it. -/
def carried? (t : Tainted) (l : Label) : Option Sanitizers :=
  (t.common? l.origins.toList).map fun s => s.union l.sanitizers

/-- Taints a parameter; if it is tainted already, only common sanitizers stay. -/
def taintParam (t : Tainted) (param : Nat) (s : Sanitizers) : Tainted :=
  t.alter (.param param) fun
    | some present => present.inter s
    | none => s

end Tainted

/-- Whether sanitizers protect against everything. -/
def Registry.neutralizes (r : Registry) (s : Sanitizers) : Bool := s.any r.coversAll

/-! ## 1. Into a callee -/

/-- What crosses a call into the callee. -/
structure Inflow where
  /-- The tainted parameters. -/
  tainted : Tainted
  /-- The sanitizers on the arguments that carry taint. -/
  applied : Sanitizers
  deriving DecidableEq, Repr, Inhabited

namespace Inflow

/-- Nothing crosses. -/
def empty : Inflow := ⟨∅, ∅⟩

/-- Adds an argument bound to a parameter. -/
def addBinding (tainted : Tainted) (f : Inflow) (b : Binding) : Inflow :=
  match tainted.carried? b.label with
  | some s => ⟨f.tainted.taintParam b.param s, f.applied.union b.label.sanitizers⟩
  | none => f

/-- The bound arguments of a call. -/
def ofBindings (tainted : Tainted) (bindings : List Binding) : Inflow :=
  bindings.foldl (addBinding tainted) empty

/-- Adds unbound arguments of a spread call, which may land in any parameter but the receiver. -/
def addSpread (tainted : Tainted) (callee : FunctionFacts) (unbound : List Label) (f : Inflow) :
    Inflow :=
  let landing := unbound.filter fun l => (tainted.carried? l).isSome
  match landing.filterMap tainted.carried? with
  | [] => f
  | s :: rest =>
    let met := rest.foldl SortedSet.inter s
    let params := (List.range callee.params.length).drop callee.firstOpenParam
    ⟨params.foldl (fun t p => t.taintParam p met) f.tainted,
      landing.foldl (fun a l => a.union l.sanitizers) f.applied⟩

end Inflow

/-- What reaches the callee of an edge, before protected parameters are dropped. -/
def arriving (edge : CallEdge) (callee : FunctionFacts) (tainted : Tainted) : Inflow :=
  let bound := Inflow.ofBindings tainted edge.bindings
  if edge.dynamic then bound.addSpread tainted callee edge.unbound else bound

/-- What crosses an edge into the callee; parameters that are protected against everything are
dropped. -/
def flowInto (registry : Registry) (edge : CallEdge) (callee : FunctionFacts) (tainted : Tainted) :
    Inflow :=
  let f := arriving edge callee tainted
  { f with tainted := f.tainted.filter fun _ s => !registry.neutralizes s }

/-- How many parameters were dropped as protected. -/
def droppedParams (registry : Registry) (edge : CallEdge) (callee : FunctionFacts)
    (tainted : Tainted) : Nat :=
  (arriving edge callee tainted).tainted.size - (flowInto registry edge callee tainted).tainted.size

/-! ## 2. Back to the callers -/

/-- The sanitizers on the tainted data that a function hands back. Data from its own parameters does
not count: it is in the callers' labels already. -/
def returned? (function : FunctionFacts) (tainted : Tainted) : Option Sanitizers :=
  (tainted.common? (function.returns.origins.toList.filter fun o => !o.isParam)).map fun s =>
    s.union function.returns.sanitizers

end TaintFlow
