import TaintFlow.Facts

/-!
# Binding arguments to parameters

A call's arguments are matched with the callee's parameters by position and by name. Where the
receiver is implied, the first parameter is taken already and positions count from the second. What
matches no parameter, and every spread argument, stays unbound.
-/

namespace TaintFlow

/-- The taint that an argument carries into a parameter. -/
structure Binding where
  param : Nat
  label : Label
  deriving DecidableEq, Repr, Inhabited

/-- The parameter that an argument reaches; the first `offset` are taken by the receiver. -/
def boundParam? (callee : FunctionFacts) (offset : Nat) : ArgPosition → Option Nat
  | .positional index =>
    if index + offset < callee.positionalParams then some (index + offset) else callee.varPositional?
  | .keyword name =>
    if name == "*" || name == "**" then none
    else
      match callee.paramIndex? name with
      | some index => if offset ≤ index then some index else callee.varKeyword?
      | none => callee.varKeyword?

/-- The arguments that reach a parameter. -/
def boundArgs (args : List Argument) (callee : FunctionFacts) (offset : Nat) : List Binding :=
  args.filterMap fun a => (boundParam? callee offset a.position).map fun p => ⟨p, a.label⟩

/-- The labels of the arguments that reach none. -/
def unboundArgs (args : List Argument) (callee : FunctionFacts) (offset : Nat) : List Label :=
  (args.filter fun a => (boundParam? callee offset a.position).isNone).map (·.label)

end TaintFlow
