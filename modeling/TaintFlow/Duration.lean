import TaintFlow.Decimal.Shortest

/-!
# Durations

A duration is a whole number of nanoseconds. In JSON it is a number of seconds in double precision:
writing adds the seconds and the fraction as doubles, reading rounds to the nearest nanosecond.
-/

namespace TaintFlow

/-- A span of time in nanoseconds. -/
structure Duration where
  nanoseconds : Nat
  deriving DecidableEq, Repr, Inhabited

namespace Duration

/-- Nanoseconds in a second. -/
def perSecond : Nat := 1000000000

def ofSeconds (n : Nat) : Duration := ⟨n * perSecond⟩

/-- Whole seconds. -/
def seconds (d : Duration) : Nat := d.nanoseconds / perSecond

/-- Nanoseconds beyond the whole seconds. -/
def fraction (d : Duration) : Nat := d.nanoseconds % perSecond

/-- The shorter of two durations. -/
def min (a b : Duration) : Duration := ⟨Nat.min a.nanoseconds b.nanoseconds⟩

/-- The number of seconds as a double. -/
def toBinary64 (d : Duration) : Binary64 :=
  (Binary64.add? (.nearest d.seconds 1) (.nearest d.fraction perSecond)).getD .zero

/-- The number of seconds as it is written in JSON. -/
def jsonText (d : Duration) : String := d.toBinary64.shortest.jsonText

/-- The first number of whole seconds that is out of range. -/
def secondsLimit : Nat := Nat.pow 2 64

/-- A number of seconds, rounded to nanoseconds. -/
def ofBinary64? (x : Binary64) : Option Duration :=
  let (num, den) := x.toFraction
  let n := roundDiv (num * perSecond) den
  if n / perSecond < secondsLimit then some ⟨n⟩ else none

end Duration

end TaintFlow
