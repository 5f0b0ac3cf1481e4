import TaintFlow.Binding
import TaintFlow.CallTarget

/-!
# Return summaries

The label of a call's result stands for the call until the callee is known. A summary says what a
function returns in its own terms; with the summaries of the callees each call marker is replaced by
the arguments that are handed back, with the sanitizers that the callee applied. If the callee
returns data of its own, the marker stays, so that the value can be followed back to the caller.

Summaries are computed in rounds over all functions, until a round changes nothing or their number
is used up.
-/

namespace TaintFlow

/-- What each function returns; clean where there is no entry. -/
abbrev Summaries := SortedMap FunctionId Label

/-- The summary of a function. -/
def Summaries.labelOf (t : Summaries) (id : FunctionId) : Label := (t.get? id).getD .clean

/-- The targets of each function's calls. -/
abbrev Targets := SortedMap FunctionId (List CallTarget)

/-- The targets of a function's calls. -/
def Targets.sitesOf (targets : Targets) (id : FunctionId) : List CallTarget := (targets.get? id).getD []

/-! ## 1. Results of calls -/

/-- What reaches a parameter: the arguments bound to it and, in a spread call, the unbound ones
unless it is the receiver. -/
def reaching (bound : List Binding) (unbound : List Label) (dynamic : Bool) (first param : Nat) :
    List Label :=
  ((bound.filter fun b => b.param == param).map (·.label)) ++
    if dynamic && first ≤ param then unbound else []

/-- What a call hands back by a callee's summary, in the caller's terms. -/
def returnedThrough (summary : Label) (callee : FunctionFacts) (args : List Argument)
    (dynamic : Bool) (offset index : Nat) : Label :=
  if summary.isClean then .clean
  else
    let bound := boundArgs args callee offset
    let unbound := unboundArgs args callee offset
    let handed := Label.clean.combineAll
      (summary.params.flatMap (reaching bound unbound dynamic callee.firstOpenParam))
    let handed := if summary.hasForeign then handed.combine (.call index) else handed
    summary.sanitizers.toList.foldl Label.sanitize handed

/-- An argument with the results of earlier calls put in. -/
def Argument.substitute (results : List Label) (a : Argument) : Argument :=
  { a with label := a.label.substitute results }

/-- The result of the next call of a function, after the results of those before it. A constructor
gives the object and not what it returns. -/
def nextResult (functions : Functions) (table : Summaries) (targets : List CallTarget)
    (results : List Label) (site : CallSite) : Label :=
  let fallback := site.result.substitute results
  match targets[results.length]? with
  | some (.function id offset) =>
    if Text.endsWith id.qualname "__init__" then fallback
    else
      match functions.get? id with
      | some callee =>
        returnedThrough (table.labelOf id) callee (site.args.map (·.substitute results))
          site.dynamic offset results.length
      | none => fallback
  | _ => fallback

/-- The results of a function's calls. -/
def callResults (functions : Functions) (targets : Targets) (table : Summaries)
    (f : FunctionFacts) : List Label :=
  f.calls.foldl
    (fun results site =>
      results ++ [nextResult functions table (targets.sitesOf f.id) results site]) []

/-! ## 2. The table -/

/-- What a function returns by the table so far. -/
def returnLabel (functions : Functions) (targets : Targets) (table : Summaries)
    (f : FunctionFacts) : Label :=
  f.returns.substitute (callResults functions targets table f)

/-- Brings the entry of one function up to date; also tells whether any entry has changed. -/
def updateEntry (functions : Functions) (targets : Targets) (state : Summaries × Bool)
    (f : FunctionFacts) : Summaries × Bool :=
  let label := returnLabel functions targets state.1 f
  if state.1.labelOf f.id = label then state else (state.1.insert f.id label, true)

/-- One round over all functions. -/
def summaryRound (functions : Functions) (targets : Targets) (table : Summaries) :
    Summaries × Bool :=
  functions.values.foldl (updateEntry functions targets) (table, false)

/-- Rounds until nothing changes, at most a number of them. -/
def summaryRounds (functions : Functions) (targets : Targets) : (rounds : Nat) → Summaries → Summaries
  | 0, table => table
  | rounds + 1, table =>
    match summaryRound functions targets table with
    | (next, true) => summaryRounds functions targets rounds next
    | (next, false) => next

/-- The summaries of a project. -/
def summaries (functions : Functions) (targets : Targets) : Summaries :=
  summaryRounds functions targets (functions.size + 2) ∅

/-! ## 3. Facts with results put in -/

/-- A sink hit with call results put in. It is dropped if no taint is left. -/
def SinkHit.substitute? (registry : Registry) (results : List Label) (h : SinkHit) : Option SinkHit :=
  let label := h.label.substitute results
  if label.isClean then none
  else
    some { h with
      label
      sanitized := label.sanitizers.any fun s => registry.covers s h.sink.weakness }

/-- The facts of a function with call results put in. -/
def FunctionFacts.substitute (registry : Registry) (results : List Label) (f : FunctionFacts) :
    FunctionFacts :=
  { f with
    calls := f.calls.map fun c => { c with args := c.args.map (·.substitute results) }
    returns := f.returns.substitute results
    sinkHits := f.sinkHits.filterMap (·.substitute? registry results) }

/-- The functions of a project with every call result replaced by what its callee returns. -/
def Functions.summarized (functions : Functions) (targets : Targets) (registry : Registry) :
    Functions :=
  let table := summaries functions targets
  functions.mapValues fun _ f => f.substitute registry (callResults functions targets table f)

end TaintFlow
