import TaintFlow.Facts
import TaintFlow.LineIndex
import TaintFlow.Python.Definitions
import TaintFlow.Registry
import TaintFlow.TaintState

/-!
# The facts of each function

A body is walked once, in statement order, with a label for every tainted variable. Branches are
walked from the same state and their results joined, so a variable is tainted after a branch if it
is on any arm. A parameter starts with the label of its own index: that is what lets a caller
supply the taint later.

The body of the module itself is a function of its own, `<module>`. Nested definitions are left out
of the body around them; they have facts of their own.
-/

namespace TaintFlow.Python

/-- What a walk looks things up in. -/
structure FactContext where
  registry : Registry
  file : Path
  lines : LineIndex

/-- The location of an offset. -/
def FactContext.locate (cx : FactContext) (offset : Nat) : Location :=
  let (line, column) := cx.lines.position offset
  ⟨cx.file, line, column⟩

/-- A walk under way: the facts so far and the taint of the variables. -/
structure Walk where
  facts : FunctionFacts
  state : TaintState
  deriving Inhabited

namespace Walk

/-- Sets the taint of the variables. -/
def withState (w : Walk) (s : TaintState) : Walk := { w with state := s }

/-- Notes a source. -/
def addSource (w : Walk) (hit : SourceHit) : Walk :=
  { w with facts.sources := w.facts.sources.insert hit }

/-- Notes sink hits. -/
def addSinkHits (w : Walk) (hits : List SinkHit) : Walk :=
  { w with facts.sinkHits := w.facts.sinkHits ++ hits }

/-- Notes a call. -/
def addCall (w : Walk) (site : CallSite) : Walk :=
  { w with facts.calls := w.facts.calls ++ [site] }

/-- Notes the use of a sanitizer. -/
def addSanitizer (w : Walk) (name : String) : Walk :=
  { w with facts.sanitizers := w.facts.sanitizers.insert name }

/-- Joins a label onto what the function returns. -/
def addReturn (w : Walk) (label : Label) : Walk :=
  { w with facts.returns := w.facts.returns.combine label }

end Walk

/-- A computation on a walk. -/
abbrev Walking := StateM Walk

/-- The taint of the variables now. -/
def currentState : Walking TaintState := return (← get).state

/-- Replaces the taint of the variables. -/
def setState (s : TaintState) : Walking Unit := modify (·.withState s)

/-- Changes the taint of the variables. -/
def modifyState (f : TaintState → TaintState) : Walking Unit := modify fun w => w.withState (f w.state)

/-! ## 1. Bindings -/

mutual

/-- The effect on the variables of binding a label to a target. An attribute is a variable of its
dotted name; writing one element taints the container and clears nothing. -/
def bindTarget (label : Label) : Expr → TaintState → TaintState
  | .name id, s => s.assign id label
  | .tuple elements, s => bindTargets label elements s
  | .list elements, s => bindTargets label elements s
  | .starred value, s => bindTarget label value s
  | .attr start value field, s =>
    match (Expr.attr start value field).dottedName? with
    | some path => s.assign path label
    | none => s
  | .subscript _ value _, s =>
    match value.dottedName? with
    | some root => s.taintWeakly root label
    | none => s
  | _, s => s

/-- Binds a label to each target in turn. -/
def bindTargets (label : Label) : List Expr → TaintState → TaintState
  | [], s => s
  | e :: es, s => bindTargets label es (bindTarget label e s)

end

/-! ## 2. Calls

A call is looked up by its name once its arguments have labels. A source gives its own label; a
sink or sanitizer gives its arguments' taint; any other call gives a label that stands for the call
until its callee is known. -/

/-- Whether taint in this argument reaches the sink. -/
def isDangerous (sink : Sink) : ArgPosition → Bool
  | .positional index => sink.dangerousArgs.contains index
  | .keyword name => name == "*" || name == "**" || sink.dangerousKeywords.contains name

/-- The hits of a sink call, one for each tainted dangerous argument. -/
def sinkHitsOf (registry : Registry) (sink : Sink) (location : Location) (args : List Argument) :
    List SinkHit :=
  (args.filter fun a => !a.label.isClean && isDangerous sink a.position).map fun a =>
    { sink, location, argument := a.position, label := a.label,
      sanitized := a.label.sanitizers.any fun s => registry.covers s sink.weakness }

/-- The literal shape of a call: what can be told without labels. -/
def callShape (name : String) (args : List Expr) (keywords : List Keyword) : CallShape where
  name
  positional := args.countP fun
    | .starred _ => false
    | _ => true
  keywords := keywords.filterMap (·.name)
  trueKeywords := keywords.filterMap fun
    | .mk (some n) (.bool true) => some n
    | _ => none

/-- Whether some argument is a spread one. -/
def isSpreadCall (args : List Expr) (keywords : List Keyword) : Bool :=
  (args.any fun
    | .starred _ => true
    | _ => false) || keywords.any fun k => k.name.isNone

/-- A call whose arguments have labels. -/
structure LabelledCall where
  name : String
  shape : CallShape
  location : Location
  args : List Argument
  dynamic : Bool

namespace LabelledCall

/-- Notes the sink hits of a call; the role is that of a sink if it is one. -/
def noteSink (cx : FactContext) (c : LabelledCall) : Walking (Option CallRole) := do
  match cx.registry.sink? c.shape with
  | none => return none
  | some sink =>
    modify (·.addSinkHits (sinkHitsOf cx.registry sink c.location c.args))
    return some .sink

/-- Notes a call of a source, and gives its label. -/
def noteSource (c : LabelledCall) (role : Option CallRole) (source : Source) : Walking Label := do
  let label := Label.source source.id
  modify (·.addSource ⟨c.location, source⟩)
  modify (·.addCall
    { callee := c.name, location := c.location, args := c.args, dynamic := c.dynamic
      role := role.or (some .source), result := label })
  return label

/-- Notes a call of anything but a source, and gives the label of its result. -/
def noteCall (cx : FactContext) (c : LabelledCall) (role : Option CallRole) (receiver : Label) :
    Walking Label := do
  let joined := receiver.combineAll (c.args.map (·.label))
  let sanitizer := cx.registry.isSanitizer c.name
  if sanitizer then modify (·.addSanitizer c.name)
  let result := if sanitizer then joined.sanitize c.name else joined
  let role := if sanitizer then role.or (some .sanitizer) else role
  let index := (← get).facts.calls.length
  modify (·.addCall
    { callee := c.name, location := c.location, args := c.args, dynamic := c.dynamic, role, result })
  return if sanitizer || role == some .sink then result else .call index

end LabelledCall

/-- Notes a source that is read at an offset, and gives its label. -/
def readSource? (cx : FactContext) (path : String) (access : Source.Access) (offset : Nat) :
    Walking (Option Label) := do
  match cx.registry.source? path access with
  | none => return none
  | some source =>
    modify (·.addSource ⟨cx.locate offset, source⟩)
    return some (.source source.id)

/-! ## 3. Expressions -/

mutual

/-- The label of an expression. -/
def eval (cx : FactContext) : Expr → Walking Label
  | .name id => return (← currentState).labelOf id
  | .string _ | .bool _ | .constant => return .clean
  | .attr start value field => do
    match (Expr.attr start value field).dottedName? with
    | none => eval cx value
    | some path =>
      match (← currentState).get? path with
      | some label => return label
      | none =>
        match ← readSource? cx path .read start with
        | some label => return label
        | none => eval cx value
  | .subscript start value index => do
    let read ← match value.dottedName? with
      | some path => readSource? cx path .subscript start
      | none => pure none
    match read with
    | some label => return label
    | none =>
      let container ← eval cx value
      let key ← eval cx index
      return container.combine key
  | .call start _ callee args keywords => do
    let positional ← evalArgs cx 0 args
    let named ← evalKeywords cx keywords
    let labelled := positional ++ named
    match callee.callName? with
    | none =>
      -- the callee is itself a computed value
      let value ← eval cx callee
      return value.combineAll (labelled.map (·.label))
    | some name =>
      let call : LabelledCall :=
        { name, shape := callShape name args keywords, location := cx.locate start
          args := labelled, dynamic := isSpreadCall args keywords }
      let role ← call.noteSink cx
      match cx.registry.source? name .call with
      | some source => call.noteSource role source
      | none =>
        let receiver ← evalReceiver cx callee
        call.noteCall cx role receiver
  | .lambda _ _ => return .clean
  | .yield none => return .clean
  | .yield (some value) => do
    let label ← eval cx value
    modify (·.addReturn label)
    return .clean
  | .yieldFrom value => do
    let label ← eval cx value
    modify (·.addReturn label)
    return .clean
  | .named target value => do
    let label ← eval cx value
    modifyState (bindTarget label target)
    return label
  | .starred value => eval cx value
  | .tuple elements => evalAll cx .clean elements
  | .list elements => evalAll cx .clean elements
  | .compound _ parts => evalAll cx .clean parts

/-- A label joined with those of expressions, in order. -/
def evalAll (cx : FactContext) (label : Label) : List Expr → Walking Label
  | [] => return label
  | e :: es => do
    let part ← eval cx e
    evalAll cx (label.combine part) es

/-- The labels of positional and `*` arguments; the latter take up no position. -/
def evalArgs (cx : FactContext) (index : Nat) : List Expr → Walking (List Argument)
  | [] => return []
  | .starred value :: rest => do
    let label ← eval cx value
    return ⟨.keyword "*", label⟩ :: (← evalArgs cx index rest)
  | e :: rest => do
    let label ← eval cx e
    return ⟨.positional index, label⟩ :: (← evalArgs cx (index + 1) rest)

/-- The labels of keyword and `**` arguments. -/
def evalKeywords (cx : FactContext) : List Keyword → Walking (List Argument)
  | [] => return []
  | .mk name value :: rest => do
    let label ← eval cx value
    return ⟨.keyword (name.getD "**"), label⟩ :: (← evalKeywords cx rest)

/-- The label of the receiver of a method call. -/
def evalReceiver (cx : FactContext) : Expr → Walking Label
  | .attr _ value _ => eval cx value
  | _ => return .clean

end

/-- Evaluates an expression that may be absent, for its effects. -/
def evalOption (cx : FactContext) : Option Expr → Walking Unit
  | none => return ()
  | some e => discard (eval cx e)

/-! ## 4. Statements -/

/-- A sanitizer called as a statement on a variable sanitizes that variable. -/
def sanitizeInPlace (cx : FactContext) : Expr → Walking Unit
  | .call _ _ callee (.name var :: _) _ =>
    match callee.callName? with
    | some name => if cx.registry.isSanitizer name then modifyState (·.sanitize var name) else pure ()
    | none => pure ()
  | _ => pure ()

/-- Evaluates the items of a `with` and binds their targets. -/
def walkItems (cx : FactContext) : List WithItem → Walking Unit
  | [] => return ()
  | item :: rest => do
    let label ← eval cx item.context
    match item.target with
    | some target => modifyState (bindTarget label target)
    | none => pure ()
    walkItems cx rest

/-- Clears deleted variables. -/
def deleteTargets (targets : List Expr) (s : TaintState) : TaintState :=
  (targets.filterMap Expr.dottedName?).foldl (fun s name => s.assign name .clean) s

mutual

/-- Walks a block. -/
def walkBlock (cx : FactContext) : List Stmt → Walking Unit
  | [] => return ()
  | s :: ss => do
    walkStmt cx s
    walkBlock cx ss

/-- Walks a statement. -/
def walkStmt (cx : FactContext) : Stmt → Walking Unit
  | .assign _ targets value => do
    let label ← eval cx value
    modifyState (bindTargets label targets)
  | .annAssign target _ (some value) => do
    let label ← eval cx value
    modifyState (bindTarget label target)
  | .augAssign target value => do
    let added ← eval cx value
    let held ← eval cx target
    modifyState (bindTarget (added.combine held) target)
  | .expr value => do
    discard (eval cx value)
    sanitizeInPlace cx value
  | .ret (some value) => do
    let label ← eval cx value
    modify (·.addReturn label)
  | .raise exception cause => do
    evalOption cx exception
    evalOption cx cause
  | .assert test message => do
    discard (eval cx test)
    evalOption cx message
  | .ifElse test body clauses => do
    discard (eval cx test)
    let before ← currentState
    walkBlock cx body
    let after ← currentState
    walkClauses cx before after false clauses
  | .forLoop target iter body orelse => do
    let label ← eval cx iter
    let before ← currentState
    modifyState (bindTarget label target)
    walkBlock cx body
    modifyState (·.merge before)
    walkBlock cx orelse
  | .whileLoop test body orelse => do
    discard (eval cx test)
    let before ← currentState
    walkBlock cx body
    modifyState (·.merge before)
    walkBlock cx orelse
  | .withItems items body => do
    walkItems cx items
    walkBlock cx body
  | .tryExcept body handlers orelse final => do
    let before ← currentState
    walkBlock cx body
    -- a handler may run after any part of the body
    let entry := before.merge (← currentState)
    walkBlock cx orelse
    let after ← currentState
    walkHandlers cx entry after handlers
    walkBlock cx final
  | .matchOn subject cases => do
    discard (eval cx subject)
    let before ← currentState
    walkCases cx before before cases
  | .delete targets => modifyState (deleteTargets targets)
  | _ => return ()

/-- Walks the clauses of an `if`, each from the state before, and joins what they leave. Without
an `else` the state before is joined too. -/
def walkClauses (cx : FactContext) (before merged : TaintState) (hasElse : Bool) :
    List Clause → Walking Unit
  | [] => setState (if hasElse then merged else merged.merge before)
  | .mk test body :: rest => do
    setState before
    evalOption cx test
    walkBlock cx body
    walkClauses cx before (merged.merge (← currentState)) (hasElse || test.isNone) rest

/-- Walks exception handlers, each from the entry state, and joins what they leave. -/
def walkHandlers (cx : FactContext) (entry merged : TaintState) : List Handler → Walking Unit
  | [] => setState merged
  | .mk type body :: rest => do
    setState entry
    evalOption cx type
    walkBlock cx body
    walkHandlers cx entry (merged.merge (← currentState)) rest

/-- Walks the cases of a `match`, each from the state before, and joins what they leave. -/
def walkCases (cx : FactContext) (before merged : TaintState) : List Case → Walking Unit
  | [] => setState merged
  | .mk _ guard body :: rest => do
    setState before
    evalOption cx guard
    walkBlock cx body
    walkCases cx before (merged.merge (← currentState)) rest

end

/-! ## 5. Functions -/

/-- A parameter as declared: its name with the stars of a variadic one, and its default. -/
structure DeclaredParam where
  name : String
  default : Option Expr := none

/-- The parameters of a function in the order of their indices. -/
def Params.declared (p : Params) : List DeclaredParam :=
  let plain (ps : List Param) : List DeclaredParam := ps.map fun q => ⟨q.name, q.default⟩
  plain (p.positionalOnly ++ p.positional) ++
    p.variadic.toList.map (fun q => { name := "*" ++ q.name }) ++
    plain p.keywordOnly ++
    p.keywords.toList.map (fun q => { name := "**" ++ q.name })

/-- The variable of a declared parameter. -/
def DeclaredParam.variable (p : DeclaredParam) : String := Text.trimStart '*' p.name

/-- The source that a parameter's default marks it as. -/
def DeclaredParam.source? (p : DeclaredParam) : Option Source :=
  match p.default with
  | some (.call _ _ callee _ _) =>
    callee.callName?.bind fun factory => Source.ofParamDefault? p.variable factory
  | _ => none

/-- Gives a parameter its label, and notes it if it is a source. -/
def declareParam (at_ : Location) (w : Walk) (index : Nat) (p : DeclaredParam) : Walk :=
  match p.source? with
  | none => w.withState (w.state.assign p.variable (.param index))
  | some source =>
    (w.withState
      (w.state.assign p.variable ((Label.param index).combine (.source source.id)))).addSource
        ⟨at_, source⟩

/-- Declares parameters from an index on. -/
def declareParams (at_ : Location) : Walk → Nat → List DeclaredParam → Walk
  | w, _, [] => w
  | w, index, p :: ps => declareParams at_ (declareParam at_ w index p) (index + 1) ps

/-- The walk that a function's body starts with. -/
def FunctionDef.entry (cx : FactContext) (module : String) (d : FunctionDef) : Walk :=
  let location := cx.locate d.start
  let declared := d.params.declared
  let facts : FunctionFacts :=
    { id := ⟨module, d.qualname⟩, owner := d.owner, line := location.line
      params := declared.map (·.name)
      positionalParams := d.params.positionalOnly.length + d.params.positional.length }
  declareParams location ⟨facts, .empty⟩ 0 declared

/-- The facts of a function. -/
def FunctionDef.facts (cx : FactContext) (module : String) (d : FunctionDef) : FunctionFacts :=
  ((walkBlock cx d.body).run (d.entry cx module)).2.facts

/-- The facts of the module's own body. -/
def Module.bodyFacts (cx : FactContext) (module : String) (m : Module) : FunctionFacts :=
  ((walkBlock cx m.body).run ⟨{ id := ⟨module, FunctionId.moduleLevel⟩, line := 1 }, .empty⟩).2.facts

/-- The facts of a module: of its own body, then of every function in it. -/
def Module.facts (m : Module) (module : String) (file : Path) (registry : Registry) :
    List FunctionFacts :=
  let cx : FactContext := { registry, file, lines := .ofText m.source }
  m.bodyFacts cx module :: m.functions.map (·.facts cx module)

end TaintFlow.Python
