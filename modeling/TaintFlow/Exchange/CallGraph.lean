import TaintFlow.CallGraph.Basic
import TaintFlow.Exchange.Facts

/-!
# Call edges in JSON
-/

namespace TaintFlow

namespace Binding

def toJson (b : Binding) : Json := .object [("param", .nat b.param), ("label", b.label.toJson)]

def ofJson? (j : Json) : Option Binding := do
  return ⟨← j.field? "param" Json.nat?, ← j.field? "label" Label.ofJson?⟩

end Binding

namespace CallEdge

def toJson (e : CallEdge) : Json :=
  .object
    [("caller", e.caller.toJson), ("callee", e.callee.toJson), ("call_site", e.location.toJson),
      ("site", .nat e.site), ("bindings", .ofList Binding.toJson e.bindings),
      ("unbound", .ofList Label.toJson e.unbound), ("dynamic", .bool e.dynamic)]

/-- Reads an edge; what says nothing about taint may be absent. -/
def ofJson? (j : Json) : Option CallEdge := do
  return {
    caller := ← j.field? "caller" FunctionId.ofJson?
    callee := ← j.field? "callee" FunctionId.ofJson?
    location := ← j.field? "call_site" Location.ofJson?
    site := ← j.fieldD? "site" Json.nat? 0
    bindings := ← j.fieldD? "bindings" (Json.listOf? Binding.ofJson?) []
    unbound := ← j.fieldD? "unbound" (Json.listOf? Label.ofJson?) []
    dynamic := ← j.fieldD? "dynamic" Json.bool? false }

end CallEdge

end TaintFlow
