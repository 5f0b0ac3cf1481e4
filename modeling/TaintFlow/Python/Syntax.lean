import TaintFlow.Import

/-!
# Python modules as trees

The tree keeps what the analyses look at: names, attribute chains, subscripts, calls, string
literals, bindings and the nesting of statements. Expressions of which only the parts matter
(operators, displays, comprehensions, interpolated strings) are one constructor with the parts in
the order in which they are visited.

Positions are byte offsets. A chain of attributes, subscripts and calls starts where its first
expression starts, with a parenthesis around that expression included.
-/

namespace TaintFlow.Python

/-- What a compound expression is made by. -/
inductive CompoundKind where
  | boolean
  | binary
  | unary
  | comparison
  /-- Test, value, alternative. -/
  | conditional
  | await
  /-- Key and value of each item in turn; a spread item has no key. -/
  | dict
  | set
  /-- Per clause what is iterated, target and conditions; the element comes last. -/
  | comprehension
  /-- The expression of each replacement field, each before those of its format. -/
  | interpolated
  /-- The bounds of a slice that are given. -/
  | slice
  deriving DecidableEq, Repr

mutual

/-- An expression. -/
inductive Expr where
  | name (id : String)
  /-- A string literal. -/
  | string (value : String)
  | bool (value : Bool)
  /-- A number, bytes, `None` or `...`. -/
  | constant
  | attr (start : Nat) (value : Expr) (field : String)
  | subscript (start : Nat) (value index : Expr)
  | call (start stop : Nat) (callee : Expr) (args : List Expr) (keywords : List Keyword)
  | lambda (defaults : List Expr) (body : Expr)
  | yield (value : Option Expr)
  | yieldFrom (value : Expr)
  /-- `target := value` -/
  | named (target value : Expr)
  | starred (value : Expr)
  | tuple (elements : List Expr)
  | list (elements : List Expr)
  | compound (kind : CompoundKind) (parts : List Expr)

/-- A keyword argument; without a name it is spread with `**`. -/
inductive Keyword where
  | mk (name : Option String) (value : Expr)

end

instance : Inhabited Expr := ⟨.constant⟩

namespace Keyword

def name : Keyword → Option String
  | mk n _ => n

def value : Keyword → Expr
  | mk _ v => v

end Keyword

/-- A parameter of a function. -/
structure Param where
  name : String
  hint : Option Expr := none
  default : Option Expr := none
  deriving Inhabited

/-- The parameters of a function by kind. -/
structure Params where
  positionalOnly : List Param := []
  positional : List Param := []
  variadic : Option Param := none
  keywordOnly : List Param := []
  keywords : Option Param := none
  deriving Inhabited

namespace Params

/-- The parameters that may have a default, in order. -/
def plain (p : Params) : List Param := p.positionalOnly ++ p.positional ++ p.keywordOnly

/-- All parameters, in order. -/
def all (p : Params) : List Param :=
  p.positionalOnly ++ p.positional ++ p.variadic.toList ++ p.keywordOnly ++ p.keywords.toList

/-- The expressions in a parameter list: first the defaults, then the annotations. -/
def expressions (p : Params) : List Expr :=
  p.plain.filterMap (·.default) ++ p.all.filterMap (·.hint)

end Params

/-- One item of a `with` statement. -/
structure WithItem where
  context : Expr
  target : Option Expr
  deriving Inhabited

mutual

/-- A statement. -/
inductive Stmt where
  | functionDef (start : Nat) (decorators : List Expr) (name : String) (typeParams : List Expr)
      (params : Params) (returns : Option Expr) (body : List Stmt)
  | classDef (decorators : List Expr) (name : String) (typeParams : List Expr)
      (args : List Expr) (body : List Stmt)
  | ret (value : Option Expr)
  | delete (targets : List Expr)
  | assign (start : Nat) (targets : List Expr) (value : Expr)
  | typeAlias (name : Expr) (typeParams : List Expr) (value : Expr)
  | augAssign (target value : Expr)
  | annAssign (target hint : Expr) (value : Option Expr)
  | forLoop (target iter : Expr) (body orelse : List Stmt)
  | whileLoop (test : Expr) (body orelse : List Stmt)
  | ifElse (test : Expr) (body : List Stmt) (clauses : List Clause)
  | withItems (items : List WithItem) (body : List Stmt)
  | matchOn (subject : Expr) (cases : List Case)
  | raise (exception cause : Option Expr)
  | tryExcept (body : List Stmt) (handlers : List Handler) (orelse final : List Stmt)
  | assert (test : Expr) (message : Option Expr)
  | importModules (start : Nat) (names : List ImportedName)
  /-- `level` counts the leading dots. -/
  | importFrom (start : Nat) (module : Option String) (level : Nat) (names : List ImportedName)
  | expr (value : Expr)
  /-- `pass`, `break`, `continue`, `global` and `nonlocal`. -/
  | plain

/-- An `elif` clause, or without a test an `else` clause. -/
inductive Clause where
  | mk (test : Option Expr) (body : List Stmt)

/-- A case of a `match` statement, with the value expressions of its pattern. -/
inductive Case where
  | mk (pattern : List Expr) (guard : Option Expr) (body : List Stmt)

/-- An exception handler. -/
inductive Handler where
  | mk (type : Option Expr) (body : List Stmt)

end

instance : Inhabited Stmt := ⟨.plain⟩

namespace Expr

/-- The dotted name of a name or attribute chain. -/
def dottedName? : Expr → Option String
  | name id => some id
  | attr _ value field => (dottedName? value).map fun base => base ++ "." ++ field
  | _ => none

/-- The name under which a callee is known. A method of a receiver without a name keeps only its
own name, after a dot. -/
def callName? (callee : Expr) : Option String :=
  match callee.dottedName? with
  | some dotted => some dotted
  | none =>
    match callee with
    | attr _ _ field => some ("." ++ field)
    | _ => none

end Expr

/-- A parsed module: its statements, and the text that positions refer to. -/
structure Module where
  source : String
  body : List Stmt
  deriving Inhabited

end TaintFlow.Python
