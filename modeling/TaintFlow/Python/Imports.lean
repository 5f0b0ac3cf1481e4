import TaintFlow.LineIndex
import TaintFlow.Python.Syntax

/-!
# The imports of a module

Imports count wherever they stand, and so do calls of the functions that import a module at run
time. The tests of `elif` clauses are visited twice, so a call in one is listed twice.
-/

namespace TaintFlow.Python

/-- A call that imports a module. -/
structure DynamicImport where
  start : Nat
  stop : Nat
  /-- The literal target, unless it is relative or empty. -/
  target : Option String
  deriving DecidableEq, Repr

/-- The literal target of an import call: its first argument, if that is an absolute name. -/
def literalTarget? : List Expr → Option String
  | .string value :: _ =>
    if value.toList.head? == some '.' || value.isEmpty then none else some value
  | _ => none

/-- A call of an import function. -/
def dynamicImport? : Expr → Option DynamicImport
  | .call start stop callee args _ =>
    match callee.callName? with
    | some name =>
      if dynamicImportFunctions.contains name then some ⟨start, stop, literalTarget? args⟩ else none
    | none => none
  | _ => none

/-! ## 1. Import calls in expressions -/

mutual

/-- The import calls in an expression, outer before inner. -/
def importCalls : Expr → List DynamicImport
  | .name _ | .string _ | .bool _ | .constant => []
  | .attr _ value _ => importCalls value
  | .subscript _ value index => importCalls value ++ importCalls index
  | .call start stop callee args keywords =>
    (dynamicImport? (.call start stop callee args keywords)).toList ++
      (importCalls callee ++ importCallsIn args ++ importCallsInKeywords keywords)
  | .lambda defaults body => importCallsIn defaults ++ importCalls body
  | .yield none => []
  | .yield (some value) => importCalls value
  | .yieldFrom value => importCalls value
  | .named target value => importCalls value ++ importCalls target
  | .starred value => importCalls value
  | .tuple elements => importCallsIn elements
  | .list elements => importCallsIn elements
  | .compound _ parts => importCallsIn parts

/-- The import calls in expressions, in order. -/
def importCallsIn : List Expr → List DynamicImport
  | [] => []
  | e :: es => importCalls e ++ importCallsIn es

/-- The import calls in keyword arguments. -/
def importCallsInKeywords : List Keyword → List DynamicImport
  | [] => []
  | .mk _ value :: rest => importCalls value ++ importCallsInKeywords rest

end

/-- The import calls in an expression that may be absent. -/
def importCallsInOption (e : Option Expr) : List DynamicImport := e.elim [] importCalls

/-! ## 2. Imports in statements -/

/-- What an import statement or call needs of the module around it. -/
structure ImportContext where
  source : String
  lines : LineIndex

namespace ImportContext

/-- The text between two offsets. -/
def textOf (cx : ImportContext) (start stop : Nat) : String :=
  String.Pos.Raw.extract cx.source ⟨start⟩ ⟨stop⟩

/-- An import call, listed at an offset. -/
def ofCall (cx : ImportContext) (conditional : Bool) (at_ : Nat) (boundTo : Option String)
    (d : DynamicImport) : Import where
  form := .dynamic d.target (cx.textOf d.start d.stop) boundTo
  line := cx.lines.line at_
  conditional

/-- Import calls whose result goes nowhere in particular. -/
def ofCalls (cx : ImportContext) (conditional : Bool) (ds : List DynamicImport) : List Import :=
  ds.map fun d => cx.ofCall conditional d.start none d

end ImportContext

/-- An import call assigned to a single name is listed with that name, at the start of the
assignment; the call itself is then not listed again. -/
def assignedImports (cx : ImportContext) (conditional : Bool) (start : Nat) (targets : List Expr)
    (value : Expr) : List Import :=
  match targets, dynamicImport? value with
  | [.name target], some d =>
    cx.ofCall conditional start (some target) d ::
      cx.ofCalls conditional ((importCalls value).filter fun c => c.start != d.start)
  | _, _ => cx.ofCalls conditional (importCalls value)

mutual

/-- The imports in a block. -/
def importsIn (cx : ImportContext) (conditional : Bool) : List Stmt → List Import
  | [] => []
  | s :: ss => importsOf cx conditional s ++ importsIn cx conditional ss

/-- The imports in a statement. Branches, loops and `try` make those inside them conditional. -/
def importsOf (cx : ImportContext) (conditional : Bool) : Stmt → List Import
  | .importModules start names =>
    names.map fun n => ⟨.module n.name n.rename, cx.lines.line start, conditional⟩
  | .importFrom start module level names =>
    [⟨.names module level names, cx.lines.line start, conditional⟩]
  | .assign start targets value =>
    assignedImports cx conditional start targets value ++
      cx.ofCalls conditional (importCallsIn targets)
  | .functionDef _ decorators _ typeParams params returns body =>
    cx.ofCalls conditional
      (importCallsIn decorators ++ importCallsIn typeParams ++ importCallsIn params.expressions ++
        importCallsInOption returns) ++
      importsIn cx conditional body
  | .classDef decorators _ typeParams args body =>
    cx.ofCalls conditional
      (importCallsIn decorators ++ importCallsIn typeParams ++ importCallsIn args) ++
      importsIn cx conditional body
  | .ret value => cx.ofCalls conditional (importCallsInOption value)
  | .delete targets => cx.ofCalls conditional (importCallsIn targets)
  | .typeAlias name typeParams value =>
    cx.ofCalls conditional (importCalls value ++ importCallsIn typeParams ++ importCalls name)
  | .augAssign target value => cx.ofCalls conditional (importCalls value ++ importCalls target)
  | .annAssign target hint value =>
    cx.ofCalls conditional
      (importCallsInOption value ++ importCalls hint ++ importCalls target)
  | .forLoop target iter body orelse =>
    cx.ofCalls true (importCalls iter ++ importCalls target) ++
      importsIn cx true body ++ importsIn cx true orelse
  | .whileLoop test body orelse =>
    cx.ofCalls true (importCalls test) ++ importsIn cx true body ++ importsIn cx true orelse
  | .ifElse test body clauses =>
    cx.ofCalls true (importCalls test) ++ importsIn cx true body ++ importsInClauses cx clauses
  | .withItems items body =>
    cx.ofCalls conditional
      (items.flatMap fun i => importCalls i.context ++ importCallsInOption i.target) ++
      importsIn cx conditional body
  | .matchOn subject cases =>
    cx.ofCalls true (importCalls subject) ++ importsInCases cx cases
  | .raise exception cause =>
    cx.ofCalls conditional (importCallsInOption exception ++ importCallsInOption cause)
  | .tryExcept body handlers orelse final =>
    importsIn cx true body ++ importsInHandlers cx handlers ++ importsIn cx true orelse ++
      importsIn cx true final
  | .assert test message =>
    cx.ofCalls conditional (importCalls test ++ importCallsInOption message)
  | .expr value => cx.ofCalls conditional (importCalls value)
  | .plain => []

/-- The imports in the clauses of an `if`. -/
def importsInClauses (cx : ImportContext) : List Clause → List Import
  | [] => []
  | .mk test body :: rest =>
    cx.ofCalls true (importCallsInOption test ++ importCallsInOption test) ++
      importsIn cx true body ++ importsInClauses cx rest

/-- The imports in exception handlers. -/
def importsInHandlers (cx : ImportContext) : List Handler → List Import
  | [] => []
  | .mk type body :: rest =>
    cx.ofCalls true (importCallsInOption type) ++ importsIn cx true body ++
      importsInHandlers cx rest

/-- The imports in the cases of a `match`. -/
def importsInCases (cx : ImportContext) : List Case → List Import
  | [] => []
  | .mk values guard body :: rest =>
    cx.ofCalls true (importCallsIn values ++ importCallsInOption guard) ++
      importsIn cx true body ++ importsInCases cx rest

end

/-- The imports of a module in source order. -/
def Module.imports (m : Module) : List Import :=
  importsIn ⟨m.source, .ofText m.source⟩ false m.body

end TaintFlow.Python
