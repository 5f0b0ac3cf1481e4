import TaintFlow.Exchange.Facts
import TaintFlow.Finding

/-!
# Findings in JSON

The members stand in the order in which a report prints them. A hop without a detail has no member
for it.
-/

namespace TaintFlow

namespace Hop

def toJson (h : Hop) : Json :=
  .object
    ([("module", .string h.function.module), ("function", .string h.function.qualname),
        ("location", h.location.toJson), ("operation", .string h.kind.name)] ++
      h.detail.toList.map fun d => ("detail", .string d))

def ofJson? (j : Json) : Option Hop := do
  return {
    function := ⟨← j.field? "module" Json.string?, ← j.field? "function" Json.string?⟩
    location := ← j.field? "location" Location.ofJson?
    kind := ← (j.field? "operation" Json.string?).bind HopKind.ofName?
    detail := ← j.optional? "detail" Json.string? }

end Hop

namespace SourceRef

def toJson (s : SourceRef) : Json :=
  .object
    [("id", .string s.id), ("description", .string s.description),
      ("module", .string s.function.module), ("function", .string s.function.qualname),
      ("location", s.location.toJson)]

def ofJson? (j : Json) : Option SourceRef := do
  return {
    id := ← j.field? "id" Json.string?
    description := ← j.field? "description" Json.string?
    function := ⟨← j.field? "module" Json.string?, ← j.field? "function" Json.string?⟩
    location := ← j.field? "location" Location.ofJson? }

end SourceRef

namespace SinkRef

def toJson (s : SinkRef) : Json :=
  .object
    [("id", .string s.id), ("name", .string s.name), ("module", .string s.function.module),
      ("function", .string s.function.qualname), ("location", s.location.toJson)]

def ofJson? (j : Json) : Option SinkRef := do
  return {
    id := ← j.field? "id" Json.string?
    name := ← j.field? "name" Json.string?
    function := ⟨← j.field? "module" Json.string?, ← j.field? "function" Json.string?⟩
    location := ← j.field? "location" Location.ofJson? }

end SinkRef

namespace Finding

def toJson (v : Finding) : Json :=
  .object
    [("vuln_type", .string v.weakness.name), ("severity", .string v.severity.name),
      ("confidence", .string v.confidence.name), ("confidence_score", .nat v.score),
      ("source", v.source.toJson), ("sink", v.sink.toJson), ("hops", .ofList Hop.toJson v.hops),
      ("sanitizers", .strings v.sanitizers), ("summary", .string v.summary),
      ("remediation", .string v.remediation)]

def ofJson? (j : Json) : Option Finding := do
  return {
    weakness := ← (j.field? "vuln_type" Json.string?).bind Weakness.ofName?
    severity := ← (j.field? "severity" Json.string?).bind Severity.ofName?
    confidence := ← (j.field? "confidence" Json.string?).bind Confidence.ofName?
    score := ← j.field? "confidence_score" Json.nat?
    source := ← j.field? "source" SourceRef.ofJson?
    sink := ← j.field? "sink" SinkRef.ofJson?
    hops := ← j.field? "hops" (Json.listOf? Hop.ofJson?)
    sanitizers := ← j.field? "sanitizers" (Json.listOf? Json.string?)
    summary := ← j.field? "summary" Json.string?
    remediation := ← j.field? "remediation" Json.string? }

end Finding

end TaintFlow
