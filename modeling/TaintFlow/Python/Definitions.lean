import TaintFlow.Python.Syntax

/-!
# What a module declares

Functions and classes are named by the scopes around them: a method is `Class.method`, a function
in a function `outer.inner`. Branches and loops are no scopes.
-/

namespace TaintFlow.Python

/-- Joins a scope and a name. -/
def qualify (scope name : String) : String := if scope = "" then name else scope ++ "." ++ name

/-- A function with its qualified name. -/
structure FunctionDef where
  qualname : String
  /-- The class whose method it is. -/
  owner : Option String
  /-- Where its definition starts, decorators included. -/
  start : Nat
  params : Params
  body : List Stmt
  deriving Inhabited

/-- A function or class in a module. -/
inductive Definition where
  | function (d : FunctionDef)
  | classNamed (qualname : String)

mutual

/-- The definitions in a block, inside a scope and directly inside a class if there is an owner. -/
def definitionsIn (scope : String) (owner : Option String) : List Stmt → List Definition
  | [] => []
  | s :: ss => definitionsOf scope owner s ++ definitionsIn scope owner ss

/-- The definitions that a statement makes. -/
def definitionsOf (scope : String) (owner : Option String) : Stmt → List Definition
  | .functionDef start _ name _ params _ body =>
    let qualname := qualify scope name
    .function { qualname, owner, start, params, body } :: definitionsIn qualname none body
  | .classDef _ name _ _ body =>
    let qualname := qualify scope name
    .classNamed qualname :: definitionsIn qualname (some qualname) body
  | .ifElse _ body clauses =>
    definitionsIn scope owner body ++ definitionsInClauses scope owner clauses
  | .forLoop _ _ body orelse => definitionsIn scope owner body ++ definitionsIn scope owner orelse
  | .whileLoop _ body orelse => definitionsIn scope owner body ++ definitionsIn scope owner orelse
  | .withItems _ body => definitionsIn scope owner body
  | .tryExcept body handlers orelse final =>
    definitionsIn scope owner body ++ definitionsInHandlers scope owner handlers ++
      definitionsIn scope owner orelse ++ definitionsIn scope owner final
  | .matchOn _ cases => definitionsInCases scope owner cases
  | _ => []

/-- The definitions in the clauses of an `if`. -/
def definitionsInClauses (scope : String) (owner : Option String) : List Clause → List Definition
  | [] => []
  | .mk _ body :: rest => definitionsIn scope owner body ++ definitionsInClauses scope owner rest

/-- The definitions in exception handlers. -/
def definitionsInHandlers (scope : String) (owner : Option String) :
    List Handler → List Definition
  | [] => []
  | .mk _ body :: rest => definitionsIn scope owner body ++ definitionsInHandlers scope owner rest

/-- The definitions in the cases of a `match`. -/
def definitionsInCases (scope : String) (owner : Option String) : List Case → List Definition
  | [] => []
  | .mk _ _ body :: rest => definitionsIn scope owner body ++ definitionsInCases scope owner rest

end

/-- Every function of a module, in source order. -/
def Module.functions (m : Module) : List FunctionDef :=
  (definitionsIn "" none m.body).filterMap fun
    | .function d => some d
    | .classNamed _ => none

/-- Every class of a module, in source order. -/
def Module.classes (m : Module) : List String :=
  (definitionsIn "" none m.body).filterMap fun
    | .classNamed name => some name
    | .function _ => none

/-- The texts of a list of string literals, if all are that. -/
def literalTexts? : Expr → Option (List String)
  | .list elements | .tuple elements =>
    elements.mapM fun
      | .string value => some value
      | _ => none
  | _ => none

/-- The names of an `__all__` whose value is a literal list. -/
def literalExports? : Stmt → Option (List String)
  | .assign _ (.name "__all__" :: _) value => literalTexts? value
  | .annAssign (.name "__all__") _ (some value) => literalTexts? value
  | _ => none

/-- What a module declares. -/
def Module.definitions (m : Module) : Definitions where
  functions := m.functions.map (·.qualname)
  classes := m.classes
  exports := m.body.findSome? literalExports?

end TaintFlow.Python
