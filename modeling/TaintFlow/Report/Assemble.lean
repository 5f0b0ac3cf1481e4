import TaintFlow.Finding
import TaintFlow.SortedMap

/-!
# Assembling a report

Findings that agree in source, sink and path are one; they are ranked by severity and confidence,
then by length, place and path. Each module is counted as the place of a source, of a sink and as
part of a path.
-/

namespace TaintFlow

/-- What makes two findings the same. -/
structure FindingIdentity where
  source : Location
  sink : Location
  signature : String
  deriving DecidableEq, Repr, Inhabited

instance : Ord FindingIdentity :=
  ⟨compareLex (compareOn (·.source)) (compareLex (compareOn (·.sink)) (compareOn (·.signature)))⟩

instance : Std.TransOrd FindingIdentity :=
  inferInstanceAs (Std.TransCmp (compareLex (compareOn fun k : FindingIdentity => k.source)
    (compareLex (compareOn fun k => k.sink) (compareOn fun k => k.signature))))

namespace Finding

/-- The identity of a finding. -/
def identity (v : Finding) : FindingIdentity := ⟨v.source.location, v.sink.location, v.signature⟩

/-- Two findings with one identity as one: the higher confidence and the sanitizers of both. -/
def merge (a b : Finding) : Finding :=
  let confidence := if a.confidence.rank < b.confidence.rank then b.confidence else a.confidence
  { a with
    confidence
    score := confidence.score
    sanitizers := (SortedSet.ofList (a.sanitizers ++ b.sanitizers)).toList }

/-- The order of a report: the worst and surest first, then the shortest, then by place and path. -/
def rankOrder (a b : Finding) : Ordering :=
  (compare b.severity.rank a.severity.rank).then <|
    (compare b.confidence.rank a.confidence.rank).then <|
      (compare a.hopCount b.hopCount).then <|
        (compare a.source.location b.source.location).then (compare a.signature b.signature)

end Finding

/-- How often a module takes part in findings. -/
structure ModuleSummary where
  asSource : Nat := 0
  asSink : Nat := 0
  onPath : Nat := 0
  deriving DecidableEq, Repr, Inhabited

/-- Ranked findings with the part that each module takes in them. -/
structure Report where
  findings : List Finding
  byModule : SortedMap String ModuleSummary
  deriving Repr, Inhabited

/-- One finding for each identity, by identity. -/
def mergedFindings (vs : List Finding) : SortedMap FindingIdentity Finding :=
  vs.foldl (fun merged v => merged.alter v.identity fun
    | some present => present.merge v
    | none => v) ∅

/-- Changes the summary of a module. -/
def updateModule (f : ModuleSummary → ModuleSummary) (summaries : SortedMap String ModuleSummary)
    (module : String) : SortedMap String ModuleSummary :=
  summaries.alter module fun present => f (present.getD {})

/-- Counts the modules of a finding. -/
def countModules (summaries : SortedMap String ModuleSummary) (v : Finding) :
    SortedMap String ModuleSummary :=
  let s := updateModule (fun m => { m with asSource := m.asSource + 1 }) summaries
    v.source.function.module
  let s := updateModule (fun m => { m with asSink := m.asSink + 1 }) s v.sink.function.module
  v.modulesOnPath.foldl (updateModule fun m => { m with onPath := m.onPath + 1 }) s

/-- The part that each module takes in findings. -/
def moduleSummaries (vs : List Finding) : SortedMap String ModuleSummary := vs.foldl countModules ∅

/-- The report of findings. -/
def assemble (vs : List Finding) : Report :=
  let findings := (mergedFindings vs).values.mergeSort fun a b => a.rankOrder b != .gt
  ⟨findings, moduleSummaries findings⟩

end TaintFlow
