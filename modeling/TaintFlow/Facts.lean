import TaintFlow.Label
import TaintFlow.Location
import TaintFlow.Sink
import TaintFlow.Source

/-!
# Facts about one function

What is known of a function from its own text: its parameters, the sources it touches, the calls
it makes with the taint of each argument, the sinks that taint reaches inside it and what it
returns. Labels are in the function's own terms (its parameters, sources and call sites).
-/

namespace TaintFlow

/-- A source touched in a body. -/
structure SourceHit where
  location : Location
  source : Source
  deriving DecidableEq, Repr, Inhabited

instance : Ord SourceHit := ⟨compareLex (compareOn (·.location)) (compareOn (·.source))⟩

instance : Std.TransOrd SourceHit :=
  inferInstanceAs (Std.TransCmp
    (compareLex (compareOn fun h : SourceHit => h.location) (compareOn fun h => h.source)))

/-- Where an argument stands at a call. Spread arguments are the keywords `*` and `**`. -/
inductive ArgPosition where
  | positional (index : Nat)
  | keyword (name : String)
  deriving DecidableEq, Repr, Inhabited

/-- Whether the argument is a spread one. -/
def ArgPosition.isSpread : ArgPosition → Bool
  | .keyword name => name == "*" || name == "**"
  | .positional _ => false

/-- A sink call with a tainted argument. -/
structure SinkHit where
  sink : Sink
  location : Location
  /-- The argument that carries the taint. -/
  argument : ArgPosition
  label : Label
  /-- Whether an applied sanitizer covers the sink's weakness. -/
  sanitized : Bool
  deriving DecidableEq, Repr, Inhabited

/-- An argument with its taint. -/
structure Argument where
  position : ArgPosition
  label : Label
  deriving DecidableEq, Repr, Inhabited

/-- What the registry says a callee is. -/
inductive CallRole where
  | source
  | sink
  | sanitizer
  deriving DecidableEq, Repr, Inhabited

/-- A call made in a body. -/
structure CallSite where
  /-- The callee as a dotted name. -/
  callee : String
  location : Location
  args : List Argument
  /-- Whether some argument is a spread one. -/
  dynamic : Bool
  role : Option CallRole
  /-- The label of the result if the callee is not a function of the project: receiver and
  arguments joined. -/
  result : Label
  deriving DecidableEq, Repr, Inhabited

/-- Whether some argument carries taint. -/
def CallSite.carriesTaint (c : CallSite) : Bool := c.args.any fun a => !a.label.isClean

/-- The facts of one function. -/
structure FunctionFacts where
  id : FunctionId
  /-- The enclosing class of a method. -/
  owner : Option String := none
  line : Nat
  /-- Parameter names; variadic ones keep their `*` or `**`. -/
  params : List String := []
  /-- How many leading parameters accept positional arguments. -/
  positionalParams : Nat := 0
  sources : SortedSet SourceHit := ∅
  sinkHits : List SinkHit := []
  sanitizers : Sanitizers := ∅
  calls : List CallSite := []
  /-- The join of every returned or yielded value. -/
  returns : Label := .clean
  degraded : Bool := false
  deriving DecidableEq, Repr, Inhabited

namespace FunctionFacts

/-- Whether the function touches a source directly. -/
def touchesSource (f : FunctionFacts) : Bool := !f.sources.isEmpty

/-- The sink hits that no sanitizer covers. -/
def unsanitizedHits (f : FunctionFacts) : List SinkHit := f.sinkHits.filter fun h => !h.sanitized

/-- The index of a parameter by name. -/
def paramIndex? (f : FunctionFacts) (name : String) : Option Nat :=
  f.params.findIdx? fun p => p == name

/-- The index of the `*` parameter. -/
def varPositional? (f : FunctionFacts) : Option Nat :=
  f.params.findIdx? fun p => Text.startsWith p "*" && !Text.startsWith p "**"

/-- The index of the `**` parameter. -/
def varKeyword? (f : FunctionFacts) : Option Nat :=
  f.params.findIdx? fun p => Text.startsWith p "**"

/-- Whether the first parameter is the receiver of a method. -/
def hasReceiver (f : FunctionFacts) : Bool :=
  f.owner.isSome && (f.params.head? == some "self" || f.params.head? == some "cls")

/-- The first parameter that an argument of a spread call may reach. -/
def firstOpenParam (f : FunctionFacts) : Nat := if f.hasReceiver then 1 else 0

end FunctionFacts

end TaintFlow
