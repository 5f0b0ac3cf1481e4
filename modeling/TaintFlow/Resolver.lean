import TaintFlow.Import
import TaintFlow.SortedSet
import TaintFlow.Text

/-!
# Resolving imports

An import is resolved against the names of the project's modules. A name outside the project is
external; a target that only running the program could tell is unresolved.
-/

namespace TaintFlow

/-- Where an import points. -/
inductive ImportTarget where
  /-- A module of the project. -/
  | module (name : String)
  /-- A module outside the project. -/
  | external (name : String)
  /-- Not known before the program runs; the target as written. -/
  | unresolved (written : String)
  deriving DecidableEq, Repr, Inhabited

/-- The project module that a target is. -/
def ImportTarget.module? : ImportTarget → Option String
  | module name => some name
  | _ => none

/-- An import with its target. -/
structure ResolvedImport where
  /-- The name it binds; an import for its effects only binds none. -/
  localName : Option String
  target : ImportTarget
  /-- The name taken from the target. -/
  symbol : Option String
  line : Nat
  conditional : Bool
  deriving DecidableEq, Repr, Inhabited

/-! ## 1. Dotted names -/

/-- Joins two dotted names, either of which may be empty. -/
def joinDotted (base name : String) : String :=
  if base = "" then name else if name = "" then base else base ++ "." ++ name

/-- The prefixes of a dotted name that end before a dot or at its end, the longest first. -/
def dottedPrefixes (name : String) : List String :=
  let pieces := Text.split '.' name
  (List.range pieces.length).reverse.map fun k => Text.join "." (pieces.take (k + 1))

/-- The longest prefix that is known. -/
def longestPrefix? (known : String → Bool) (name : String) : Option String :=
  (dottedPrefixes name).find? known

/-! ## 2. The resolver -/

/-- The names of the project's modules. -/
structure Resolver where
  modules : SortedSet String
  /-- Those that are packages. -/
  packages : SortedSet String
  deriving Repr, Inhabited

namespace Resolver

/-- The resolver over modules, each with whether it is a package. -/
def ofModules (modules : List (String × Bool)) : Resolver where
  modules := .ofList (modules.map (·.1))
  packages := .ofList ((modules.filter (·.2)).map (·.1))

/-- Whether a name is a module of the project. -/
def isModule (r : Resolver) (name : String) : Bool := r.modules.contains name

/-- The target of an absolute dotted name: the longest prefix in the project wins. -/
def absolute (r : Resolver) (name : String) : ImportTarget :=
  match longestPrefix? r.isModule name with
  | some found => .module found
  | none => .external name

/-- The package that a module's relative imports start from, as pieces of its name. -/
def anchor? (r : Resolver) (importer : String) : Option (List String) :=
  let pieces := if importer = "" || importer = "__init__" then [] else Text.split '.' importer
  if r.packages.contains importer then some pieces
  else if pieces.isEmpty then none
  else some pieces.dropLast

/-- The base of a relative import. It is empty at the top of the project, and there is none if the
dots climb above that. -/
def relative? (r : Resolver) (importer : String) (level : Nat) (module : Option String) :
    Option String := do
  let pieces ← r.anchor? importer
  let climb := level - 1
  if climb ≤ pieces.length then
    let base := pieces.take (pieces.length - climb)
    some (Text.join "." (base ++ (module.map (Text.split '.')).getD []))
  else none

/-- The target of a module that is named exactly. -/
def exact (r : Resolver) (name : String) : ImportTarget :=
  if name = "" then .unresolved "."
  else if r.isModule name then .module name
  else .external name

/-- What one name of a `from` import binds. -/
def resolveName (r : Resolver) (publicNames : String → List String) (base : String)
    (line : Nat) (conditional : Bool) (n : ImportedName) : List ResolvedImport :=
  if n.name = "*" then
    if r.isModule base then
      (publicNames base).map fun p => ⟨some p, .module base, some p, line, conditional⟩
    else [⟨none, r.exact base, some "*", line, conditional⟩]
  else
    let submodule := joinDotted base n.name
    if r.isModule submodule then [⟨some n.bound, .module submodule, none, line, conditional⟩]
    else [⟨some n.bound, r.exact base, some n.name, line, conditional⟩]

/-- The base of a `from` import, or the target as written if there is none. -/
def baseOf (r : Resolver) (importer : String) (module : Option String) (level : Nat) :
    Except String String :=
  if level = 0 then .ok (module.getD "")
  else
    match r.relative? importer level module with
    | some base => .ok base
    | none => .error (Text.repeated level "." ++ module.getD "")

/-- The names that an import of a module binds, with their targets. -/
def resolve (r : Resolver) (publicNames : String → List String) (importer : String) (i : Import) :
    List ResolvedImport :=
  match i.form with
  | .module name rename =>
    let first := (Text.split '.' name).headD name
    [⟨some (rename.getD first), r.absolute name, none, i.line, i.conditional⟩]
  | .names module level names =>
    match r.baseOf importer module level with
    | .ok base => names.flatMap (r.resolveName publicNames base i.line i.conditional)
    | .error written =>
      names.map fun n => ⟨some n.bound, .unresolved written, some n.name, i.line, i.conditional⟩
  | .dynamic target expression boundTo =>
    let target := match target with
      | some name => r.exact name
      | none => .unresolved expression
    [⟨boundTo, target, none, i.line, i.conditional⟩]

end Resolver

end TaintFlow
