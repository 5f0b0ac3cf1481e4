import TaintFlow.Facts
import TaintFlow.Json.Basic

/-!
# Facts in JSON

The written form of labels, sources, locations, sinks and the facts of a function. Sets are written
in order; a reader takes them in any order, with repetitions.
-/

namespace TaintFlow

/-! ## 1. Labels -/

namespace Origin

def toJson : Origin → Json
  | param n => .object [("param", .nat n)]
  | source id => .object [("source", .string id)]
  | call n => .object [("call", .nat n)]

def ofJson? (j : Json) : Option Origin :=
  match j with
  | .object [("param", n)] => n.nat?.map param
  | .object [("source", id)] => id.string?.map source
  | .object [("call", n)] => n.nat?.map call
  | _ => none

end Origin

namespace Label

def toJson (l : Label) : Json :=
  .object
    [("origins", .ofList Origin.toJson l.origins.toList),
      ("sanitizers", .strings l.sanitizers.toList)]

def ofJson? (j : Json) : Option Label := do
  return ⟨.ofList (← j.field? "origins" (Json.listOf? Origin.ofJson?)),
    .ofList (← j.field? "sanitizers" (Json.listOf? Json.string?))⟩

end Label

/-! ## 2. Places -/

namespace Location

def toJson (l : Location) : Json :=
  .object [("file", .string l.file.text), ("line", .nat l.line), ("column", .nat l.column)]

def ofJson? (j : Json) : Option Location := do
  return ⟨⟨← j.field? "file" Json.string?⟩, ← j.field? "line" Json.nat?, ← j.field? "column" Json.nat?⟩

end Location

namespace FunctionId

def toJson (id : FunctionId) : Json :=
  .object [("module", .string id.module), ("qualname", .string id.qualname)]

def ofJson? (j : Json) : Option FunctionId := do
  return ⟨← j.field? "module" Json.string?, ← j.field? "qualname" Json.string?⟩

end FunctionId

/-! ## 3. Sources and sinks -/

namespace Source

/-- The tag of the kind. -/
def tag : Source → String
  | flaskRequest _ => "FlaskRequest"
  | djangoRequest _ => "DjangoRequest"
  | fastApiParam _ => "FastApiParam"
  | azureRequest _ => "AzureFunctionsRequest"
  | input => "Input"
  | environment => "Environment"
  | commandLine => "CommandLine"
  | fileRead => "FileRead"
  | externalData => "ExternalData"
  | custom _ => "Custom"

/-- The kinds with nothing to add. -/
def plainKinds : List Source := [input, environment, commandLine, fileRead, externalData]

/-- The kinds with a detail. -/
def detailedKinds : List (String → Source) :=
  [flaskRequest, djangoRequest, fastApiParam, azureRequest, custom]

def toJson (s : Source) : Json :=
  if plainKinds.contains s then .string s.tag else .object [(s.tag, .string s.detail)]

def ofJson? : Json → Option Source
  | .string tag => plainKinds.find? fun s => s.tag == tag
  | .object [(tag, .string detail)] =>
    (detailedKinds.find? fun kind => (kind detail).tag == tag).map fun kind => kind detail
  | _ => none

end Source

namespace SourceHit

def toJson (h : SourceHit) : Json :=
  .object [("location", h.location.toJson), ("source", h.source.toJson)]

def ofJson? (j : Json) : Option SourceHit := do
  return ⟨← j.field? "location" Location.ofJson?, ← j.field? "source" Source.ofJson?⟩

end SourceHit

namespace Sink

def toJson (s : Sink) : Json :=
  .object
    [("id", .string s.id), ("name", .string s.name), ("vuln_type", .string s.weakness.name),
      ("severity", .string s.severity.name), ("dangerous_args", .ofList .nat s.dangerousArgs),
      ("dangerous_keywords", .strings s.dangerousKeywords),
      ("remediation", .string s.remediation)]

def ofJson? (j : Json) : Option Sink := do
  return {
    id := ← j.field? "id" Json.string?
    name := ← j.field? "name" Json.string?
    weakness := ← (j.field? "vuln_type" Json.string?).bind Weakness.ofName?
    severity := ← (j.field? "severity" Json.string?).bind Severity.ofName?
    dangerousArgs := ← j.field? "dangerous_args" (Json.listOf? Json.nat?)
    dangerousKeywords := ← j.field? "dangerous_keywords" (Json.listOf? Json.string?)
    remediation := ← j.field? "remediation" Json.string? }

end Sink

/-! ## 4. Calls -/

namespace ArgPosition

def toJson : ArgPosition → Json
  | positional n => .object [("positional", .nat n)]
  | keyword s => .object [("keyword", .string s)]

def ofJson? : Json → Option ArgPosition
  | .object [("positional", n)] => n.nat?.map positional
  | .object [("keyword", s)] => s.string?.map keyword
  | _ => none

end ArgPosition

namespace SinkHit

def toJson (h : SinkHit) : Json :=
  .object
    [("sink", h.sink.toJson), ("location", h.location.toJson), ("argument", h.argument.toJson),
      ("label", h.label.toJson), ("sanitized", .bool h.sanitized)]

def ofJson? (j : Json) : Option SinkHit := do
  return {
    sink := ← j.field? "sink" Sink.ofJson?
    location := ← j.field? "location" Location.ofJson?
    argument := ← j.field? "argument" ArgPosition.ofJson?
    label := ← j.field? "label" Label.ofJson?
    sanitized := ← j.field? "sanitized" Json.bool? }

end SinkHit

namespace Argument

def toJson (a : Argument) : Json :=
  .object [("position", a.position.toJson), ("label", a.label.toJson)]

def ofJson? (j : Json) : Option Argument := do
  return ⟨← j.field? "position" ArgPosition.ofJson?, ← j.field? "label" Label.ofJson?⟩

end Argument

namespace CallRole

def name : CallRole → String
  | source => "source"
  | sink => "sink"
  | sanitizer => "sanitizer"

def ofName? (s : String) : Option CallRole := [source, sink, sanitizer].find? fun r => r.name == s

end CallRole

namespace CallSite

def toJson (c : CallSite) : Json :=
  .object
    [("callee", .string c.callee), ("location", c.location.toJson),
      ("args", .ofList Argument.toJson c.args), ("dynamic_args", .bool c.dynamic),
      ("role", .ofOption (fun r => .string r.name) c.role), ("result", c.result.toJson)]

def ofJson? (j : Json) : Option CallSite := do
  return {
    callee := ← j.field? "callee" Json.string?
    location := ← j.field? "location" Location.ofJson?
    args := ← j.field? "args" (Json.listOf? Argument.ofJson?)
    dynamic := ← j.field? "dynamic_args" Json.bool?
    role := ← j.optional? "role" fun r => r.string?.bind CallRole.ofName?
    result := ← j.field? "result" Label.ofJson? }

end CallSite

/-! ## 5. Functions -/

namespace FunctionFacts

def toJson (f : FunctionFacts) : Json :=
  .object
    [("id", f.id.toJson), ("class", .ofOption .string f.owner), ("line", .nat f.line),
      ("params", .strings f.params), ("positional_params", .nat f.positionalParams),
      ("sources", .ofList SourceHit.toJson f.sources.toList),
      ("sink_hits", .ofList SinkHit.toJson f.sinkHits),
      ("sanitizers", .strings f.sanitizers.toList), ("calls", .ofList CallSite.toJson f.calls),
      ("returns", f.returns.toJson), ("degraded", .bool f.degraded)]

def ofJson? (j : Json) : Option FunctionFacts := do
  return {
    id := ← j.field? "id" FunctionId.ofJson?
    owner := ← j.optional? "class" Json.string?
    line := ← j.field? "line" Json.nat?
    params := ← j.field? "params" (Json.listOf? Json.string?)
    positionalParams := ← j.field? "positional_params" Json.nat?
    sources := .ofList (← j.field? "sources" (Json.listOf? SourceHit.ofJson?))
    sinkHits := ← j.field? "sink_hits" (Json.listOf? SinkHit.ofJson?)
    sanitizers := .ofList (← j.field? "sanitizers" (Json.listOf? Json.string?))
    calls := ← j.field? "calls" (Json.listOf? CallSite.ofJson?)
    returns := ← j.field? "returns" Label.ofJson?
    degraded := ← j.field? "degraded" Json.bool? }

end FunctionFacts

end TaintFlow
