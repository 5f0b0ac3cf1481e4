/-!
# Imports and definitions of a module

What a module says about other modules and what it declares, before names are resolved.
-/

namespace TaintFlow

/-- A name in an import with the name it is bound to, if another. -/
structure ImportedName where
  name : String
  rename : Option String
  deriving DecidableEq, Repr, Inhabited

namespace ImportedName

/-- The name that the import binds. -/
def bound (n : ImportedName) : String := n.rename.getD n.name

end ImportedName

/-- The form of an import. -/
inductive ImportForm where
  /-- `import a.b` or `import a.b as c` -/
  | module (name : String) (rename : Option String)
  /-- `from m import x as y`, with the number of leading dots; the name `*` stands for all. -/
  | names (module : Option String) (level : Nat) (names : List ImportedName)
  /-- A call of an import function: the literal target if there is one, the call as written, and
  the variable it is assigned to. -/
  | dynamic (target : Option String) (expression : String) (boundTo : Option String)
  deriving DecidableEq, Repr, Inhabited

/-- An import as it stands in a module. -/
structure Import where
  form : ImportForm
  line : Nat
  /-- Whether it stands inside a branch, a loop or a `try`. -/
  conditional : Bool
  deriving DecidableEq, Repr, Inhabited

/-- The functions whose calls import a module. -/
def dynamicImportFunctions : List String :=
  ["__import__", "import_module", "importlib.import_module"]

/-- The names a module declares, in source order. -/
structure Definitions where
  /-- Qualified names of functions. -/
  functions : List String := []
  /-- Qualified names of classes. -/
  classes : List String := []
  /-- A literal `__all__`. -/
  exports : Option (List String) := none
  deriving DecidableEq, Repr, Inhabited

namespace Definitions

/-- The names that a wildcard import binds: the listed ones, or else the declared ones that are at
top level and do not start with an underscore. -/
def publicNames (d : Definitions) : List String :=
  match d.exports with
  | some names => names
  | none =>
    (d.functions ++ d.classes).filter fun n => !n.toList.contains '.' && n.toList.head? != some '_'

/-- Whether a name is a declared function or class. -/
def defines (d : Definitions) (name : String) : Bool :=
  d.functions.contains name || d.classes.contains name

/-- Whether a name is a declared class. -/
def isClass (d : Definitions) (name : String) : Bool := d.classes.contains name

end Definitions

end TaintFlow
