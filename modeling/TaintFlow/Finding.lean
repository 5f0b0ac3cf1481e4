import TaintFlow.Facts

/-!
# Findings

A finding is a path along which untrusted data reaches a sink in another function, with the
evidence of each hop.
-/

namespace TaintFlow

/-- How sure a finding is. -/
inductive Confidence where
  | low
  | medium
  | high
  deriving DecidableEq, Repr, Inhabited

namespace Confidence

/-- Position in the order, `low` first. -/
def rank : Confidence → Nat
  | low => 0
  | medium => 1
  | high => 2

/-- The numeric score of the level. -/
def score : Confidence → Nat
  | low => 30
  | medium => 60
  | high => 90

/-- One level down, and `low` stays. -/
def lowered : Confidence → Confidence
  | high => medium
  | medium | low => low

/-- The name in JSON. -/
def name : Confidence → String
  | low => "low"
  | medium => "medium"
  | high => "high"

/-- The name in reports. -/
def display : Confidence → String
  | low => "LOW"
  | medium => "MEDIUM"
  | high => "HIGH"

/-- Reads exactly the written name. -/
def ofName? (s : String) : Option Confidence := [low, medium, high].find? fun c => c.name == s

end Confidence

/-- What happens at a hop. -/
inductive HopKind where
  /-- Untrusted data enters. -/
  | source
  /-- A caller passes it to a callee. -/
  | call
  /-- A callee hands it back to a caller. -/
  | ret
  /-- A sanitizer that does not cover the sink was applied. -/
  | sanitizer
  /-- It reaches the sink. -/
  | sink
  deriving DecidableEq, Repr, Inhabited

namespace HopKind

/-- Every kind, in the order of a path. -/
def all : List HopKind := [source, call, ret, sanitizer, sink]

/-- The name in JSON and in reports. -/
def name : HopKind → String
  | source => "source"
  | call => "call"
  | ret => "return"
  | sanitizer => "sanitizer-encountered"
  | sink => "sink-reached"

/-- Reads exactly the written name. -/
def ofName? (s : String) : Option HopKind := all.find? fun k => k.name == s

/-- Whether the hop moves between functions. -/
def isStep : HopKind → Bool
  | call | ret => true
  | _ => false

end HopKind

/-- One hop of a path. -/
structure Hop where
  /-- The function the hop lands in. -/
  function : FunctionId
  location : Location
  kind : HopKind
  detail : Option String
  deriving DecidableEq, Repr, Inhabited

/-- Where a finding's data enters. -/
structure SourceRef where
  id : String
  description : String
  function : FunctionId
  location : Location
  deriving DecidableEq, Repr, Inhabited

/-- The sink a finding reaches. -/
structure SinkRef where
  id : String
  name : String
  function : FunctionId
  location : Location
  deriving DecidableEq, Repr, Inhabited

/-- A path from a source to a sink that crosses at least one call. -/
structure Finding where
  weakness : Weakness
  severity : Severity
  confidence : Confidence
  score : Nat
  source : SourceRef
  sink : SinkRef
  hops : List Hop
  /-- The sanitizers on the path; none of them covers the sink. -/
  sanitizers : List String
  summary : String
  remediation : String
  deriving DecidableEq, Repr, Inhabited

namespace Finding

/-- The hops that move between functions. -/
def steps (v : Finding) : List Hop := v.hops.filter fun h => h.kind.isStep

/-- The number of moves between functions. -/
def hopCount (v : Finding) : Nat := v.steps.length

/-- The functions on the path, in order. -/
def signature (v : Finding) : String :=
  Text.join " -> " (v.source.function.display :: v.steps.map fun h => h.function.display)

/-- The modules on the path, each at its first occurrence. -/
def modulesOnPath (v : Finding) : List String :=
  v.hops.foldl (fun seen h =>
    if seen.contains h.function.module then seen else seen ++ [h.function.module]) []

/-- The path in one line. -/
def flowLine (v : Finding) : String :=
  Text.join " → " ((v.hops.filter fun h => h.kind != .sanitizer).map fun h =>
    match h.kind with
    | .source => v.source.id
    | .sink => v.sink.name
    | _ => h.function.display)

end Finding

end TaintFlow
