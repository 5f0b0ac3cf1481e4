import TaintFlow.Facts
import TaintFlow.ModuleGraph

/-!
# Where calls lead

A callee is found by its written name: as a method of the caller's own class, as a function nested
in the caller, in the caller's module through its imports, or by a full dotted path. A callee that is
not a function of the project stays as a leaf if it is a sink or a source.
-/

namespace TaintFlow

/-- How a callee was reached. -/
inductive CallStyle where
  /-- A plain call, or `Class.method(...)`. -/
  | unbound
  /-- `self.method(...)`, `cls.method(...)` or `Class(...)`: the receiver is implied. -/
  | bound
  deriving DecidableEq, Repr, Inhabited

/-- The kinds of nodes in a call graph. -/
inductive NodeKind where
  | function
  /-- A callee outside the project that is a sink. -/
  | externalSink
  /-- A callee outside the project that is a source. -/
  | externalSource
  deriving DecidableEq, Repr, Inhabited

namespace NodeKind

def name : NodeKind → String
  | function => "function"
  | externalSink => "external_sink"
  | externalSource => "external_source"

def ofName? (s : String) : Option NodeKind :=
  [function, externalSink, externalSource].find? fun k => k.name == s

end NodeKind

/-- Where a call site leads. -/
inductive CallTarget where
  /-- To a function of the project; the receiver takes its first `offset` parameters. -/
  | function (id : FunctionId) (offset : Nat)
  /-- To something outside the project that is kept. -/
  | leaf (kind : NodeKind)
  | dropped
  deriving DecidableEq, Repr, Inhabited

/-- The functions of a project by name. -/
abbrev Functions := SortedMap FunctionId FunctionFacts

/-- The functions of a list; of several with one name, the last. -/
def Functions.ofFacts (facts : List FunctionFacts) : Functions :=
  .ofList (facts.map fun f => (f.id, f))

namespace ModuleGraph

/-- A callee by its dotted name as seen in a module, looking at a number of modules. A class stands
for its constructor. -/
def calleeWithin (g : ModuleGraph) :
    (looks : Nat) → (module dotted : String) → Option (FunctionId × CallStyle)
  | 0, _, _ => none
  | looks + 1, module, dotted =>
    if dotted = "" then none
    else
      match g.get? module with
      | none => none
      | some node =>
        if node.definesFunction dotted then some (⟨module, dotted⟩, .unbound)
        else if node.definesClass dotted then
          let constructor := dotted ++ ".__init__"
          if node.definesFunction constructor then some (⟨module, constructor⟩, .bound) else none
        else
          let (head, rest) := match Text.splitFirst? '.' dotted with
            | some (head, rest) => (head, some rest)
            | none => (dotted, none)
          match g.resolveSymbol module head with
          | .function id => if rest.isNone then some (id, .unbound) else none
          | .classNamed owner name =>
            calleeWithin g looks owner (rest.elim name fun r => name ++ "." ++ r)
          | .module target =>
            match rest with
            | some r => calleeWithin g looks target r
            | none => none
          | .external _ | .unresolved => none

/-- A callee by its dotted name as seen in a module. -/
def callee? (g : ModuleGraph) (module dotted : String) : Option (FunctionId × CallStyle) :=
  g.calleeWithin (reexportLimit + 1) module dotted

/-- A callee spelled with the full path of its module, where the first name is bound to a module. -/
def calleeByPath? (g : ModuleGraph) (module dotted : String) : Option (FunctionId × CallStyle) := do
  let node ← g.get? module
  let binding ← node.binding? ((Text.split '.' dotted).headD dotted)
  if binding.target.module?.isNone || binding.symbol.isSome then none
  else
    let (target, rest) ← g.splitModule? dotted
    if rest = "" then none else g.callee? target rest

end ModuleGraph

/-- A method of the caller's class. -/
def Functions.method? (functions : Functions) (caller : FunctionFacts) (method : String) :
    Option (FunctionId × CallStyle) := do
  let owner ← caller.owner
  if Text.hasChar method '.' then none
  else
    let id : FunctionId := ⟨caller.id.module, owner ++ "." ++ method⟩
    if functions.contains id then some (id, .bound) else none

/-- A function nested in the caller. -/
def Functions.nested? (functions : Functions) (caller : FunctionFacts) (callee : String) :
    Option (FunctionId × CallStyle) :=
  let id : FunctionId := ⟨caller.id.module, caller.id.qualname ++ "." ++ callee⟩
  if caller.id.qualname != FunctionId.moduleLevel && functions.contains id then some (id, .unbound)
  else none

/-- The method name of a call on the caller's own receiver. -/
def receiverMethod? (callee : String) : Option String :=
  (Text.stripStart? callee "self.").or (Text.stripStart? callee "cls.")

/-- The callee of a name as written in a caller. -/
def resolveCallee? (g : ModuleGraph) (functions : Functions) (caller : FunctionFacts)
    (callee : String) : Option (FunctionId × CallStyle) :=
  match receiverMethod? callee with
  | some method => functions.method? caller method
  | none =>
    ((functions.nested? caller callee).or (g.callee? caller.id.module callee)).or
      (g.calleeByPath? caller.id.module callee)

/-- How many parameters of a callee the receiver takes. In `Class.method(obj, ...)` the receiver is
an argument, except for a class method. -/
def receiverOffset (callee : FunctionFacts) (style : CallStyle) : Nat :=
  if !callee.hasReceiver then 0
  else
    match style with
    | .bound => 1
    | .unbound => if callee.params.head? == some "cls" then 1 else 0

/-- The target of a call that leads to no function of the project. -/
def outsideTarget : Option CallRole → CallTarget
  | some .sink => .leaf .externalSink
  | some .source => .leaf .externalSource
  | some .sanitizer | none => .dropped

/-- Where a call site of a caller leads. -/
def resolveSite (g : ModuleGraph) (functions : Functions) (caller : FunctionFacts)
    (site : CallSite) : CallTarget :=
  match resolveCallee? g functions caller site.callee with
  | some (id, style) =>
    match functions.get? id with
    | some callee => .function id (receiverOffset callee style)
    | none => outsideTarget site.role
  | none => outsideTarget site.role

/-- The targets of a function's calls, by call site. -/
def callTargets (g : ModuleGraph) (functions : Functions) : SortedMap FunctionId (List CallTarget) :=
  functions.mapValues fun _ caller => caller.calls.map (resolveSite g functions caller)

end TaintFlow
