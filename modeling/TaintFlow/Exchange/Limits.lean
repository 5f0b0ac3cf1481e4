import TaintFlow.Json.Number
import TaintFlow.Policy

/-!
# Limits in JSON

A tier, two caps that may be null or absent, and a timeout in seconds. The four values may also
stand in an array, in this order.
-/

namespace TaintFlow

namespace Duration

/-- A number of seconds; negative ones and those out of range are refused. -/
def ofJson? (j : Json) : Option Duration := do
  let (negative, x) ← j.double?
  if negative && !x.isZero then none else ofBinary64? x

def toJson (d : Duration) : Json := .number d.jsonText

end Duration

namespace Tier

def toJson (t : Tier) : Json := .string t.name

/-- A tier's name, also as the only key of an object with the value null. -/
def ofJson? : Json → Option Tier
  | .string s => ofName? s
  | .object [(s, .null)] => ofName? s
  | _ => none

end Tier

namespace Limits

/-- A cap or null. -/
def capOfJson? : Json → Option (Option Nat)
  | .null => some none
  | j => j.nat?.map some

/-- The members, as they stand in a report. -/
def members (l : Limits) : List (String × Json) :=
  [("tier", l.tier.toJson), ("max_depth", .ofOption .nat l.maxDepth),
    ("max_modules", .ofOption .nat l.maxModules), ("timeout", l.timeout.toJson)]

def toJson (l : Limits) : Json := .object l.members

def ofJson? : Json → Option Limits
  | .array [tier, depth, modules, timeout] => do
    return ⟨← Tier.ofJson? tier, ← capOfJson? depth, ← capOfJson? modules, ← Duration.ofJson? timeout⟩
  | .object members => do
    let j : Json := .object members
    return ⟨← j.field? "tier" Tier.ofJson?, ← j.optional? "max_depth" Json.nat?,
      ← j.optional? "max_modules" Json.nat?, ← j.field? "timeout" Duration.ofJson?⟩
  | _ => none

end Limits

end TaintFlow
