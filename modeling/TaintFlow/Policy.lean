import TaintFlow.Duration

/-!
# Tiers and limits

Each tier entitles to limits on depth, number of modules and time. A request is only ever lowered
to the entitlement; no cap counts as infinite.
-/

namespace TaintFlow

/-- A licensing tier. -/
inductive Tier where
  | community
  | pro
  | enterprise
  deriving DecidableEq, Repr, Inhabited

namespace Tier

def all : List Tier := [community, pro, enterprise]

/-- The written name. -/
def name : Tier → String
  | community => "community"
  | pro => "pro"
  | enterprise => "enterprise"

/-- Reads exactly the written name. -/
def ofName? (s : String) : Option Tier := all.find? fun t => t.name == s

/-- Reads a name in any case, blanks around it ignored, or says what is unknown. -/
def parse (s : String) : Except String Tier :=
  let s := Text.lowerAscii (Text.trimBlank s)
  if s == "free" then .ok community
  else
    match ofName? s with
    | some t => .ok t
    | none => .error s!"unknown tier '{s}' (expected community, pro or enterprise)"

end Tier

/-- The limits of one scan; no cap means unbounded. -/
structure Limits where
  tier : Tier
  /-- The most calls on a path. -/
  maxDepth : Option Nat
  /-- The most modules visited. -/
  maxModules : Option Nat
  timeout : Duration
  deriving DecidableEq, Repr, Inhabited

/-- The limits asked for. -/
structure RequestedLimits where
  maxDepth : Option Nat := none
  maxModules : Option Nat := none
  timeout : Option Duration := none
  deriving DecidableEq, Repr, Inhabited

namespace Limits

/-- No cap on depth and modules. -/
def unbounded (timeout : Duration) : Limits := ⟨.enterprise, none, none, timeout⟩

/-- What a tier entitles to. -/
def entitlement : Tier → Limits
  | .community => ⟨.community, some 3, some 10, .ofSeconds 30⟩
  | .pro => ⟨.pro, some 10, some 100, .ofSeconds 120⟩
  | .enterprise => ⟨.enterprise, none, none, .ofSeconds 600⟩

/-- The lower of a requested and an allowed cap. -/
def clampCap : (requested allowed : Option Nat) → Option Nat
  | some r, some a => some (min r a)
  | some r, none => some r
  | none, allowed => allowed

/-- A request lowered to what is allowed. -/
def clampTo (requested : RequestedLimits) (tier : Tier) (allowed : Limits) : Limits where
  tier
  maxDepth := clampCap requested.maxDepth allowed.maxDepth
  maxModules := clampCap requested.maxModules allowed.maxModules
  timeout := requested.timeout.elim allowed.timeout fun t => t.min allowed.timeout

/-- A request lowered to what a tier entitles to. -/
def clamp (requested : RequestedLimits) (tier : Tier) : Limits :=
  clampTo requested tier (entitlement tier)

end Limits

end TaintFlow
