import TaintFlow.Reachability
import TaintFlow.Resolver
import TaintFlow.SortedMap
import TaintFlow.SourceUnit

/-!
# The graph of a project's modules

There is one node for each module name. Where several files have one name, the first is the node's
file and gives its imports; its definitions are those of the first that could be parsed.
-/

namespace TaintFlow

/-- A module of the project. -/
structure ModuleNode where
  name : String
  file : Path
  isPackage : Bool
  definitions : Definitions
  imports : List ResolvedImport
  /-- Why the module could not be analyzed. -/
  degraded : Option String
  deriving Repr, Inhabited

namespace ModuleNode

/-- Whether a function of the module has this qualified name. -/
def definesFunction (m : ModuleNode) (qualname : String) : Bool :=
  m.definitions.functions.contains qualname

/-- Whether a class of the module has this qualified name. -/
def definesClass (m : ModuleNode) (qualname : String) : Bool := m.definitions.classes.contains qualname

/-- The import that binds a name; later ones hide earlier ones. -/
def binding? (m : ModuleNode) (name : String) : Option ResolvedImport :=
  m.imports.reverse.find? fun i => i.localName == some name

end ModuleNode

/-- An import of one project module by another. -/
structure ImportEdge where
  source : String
  target : String
  line : Nat
  conditional : Bool
  deriving DecidableEq, Repr, Inhabited

/-- What a name bound in a module stands for. -/
inductive SymbolTarget where
  | function (id : FunctionId)
  | classNamed (module name : String)
  | module (name : String)
  /-- Something outside the project. -/
  | external (name : String)
  | unresolved
  deriving DecidableEq, Repr, Inhabited

/-- The modules of a project by name. -/
structure ModuleGraph where
  nodes : SortedMap String ModuleNode
  deriving Repr, Inhabited

namespace ModuleGraph

/-! ## 1. Building -/

/-- The first unit of each module name. -/
def firstUnits (units : List SourceUnit) : List SourceUnit :=
  (units.foldl (fun kept u => if kept.any fun k => k.module == u.module then kept else u :: kept)
    []).reverse

/-- What each module declares: the definitions of its first unit with a tree. -/
def declared (units : List SourceUnit) : SortedMap String Definitions :=
  .ofList ((firstUnits (units.filter fun u => u.tree?.isSome)).map fun u => (u.module, u.definitions))

/-- The graph of the loaded units. -/
def build (units : List SourceUnit) : ModuleGraph :=
  let kept := firstUnits units
  let resolver := Resolver.ofModules (kept.map fun u => (u.module, u.isPackage))
  let declared := declared units
  let publicNames (module : String) : List String :=
    ((declared.get? module).map (·.publicNames)).getD []
  let node (u : SourceUnit) : ModuleNode :=
    { name := u.module, file := u.file, isPackage := u.isPackage
      definitions := (declared.get? u.module).getD {}
      imports := u.imports.flatMap (resolver.resolve publicNames u.module)
      degraded := u.degraded? }
  ⟨.ofList (kept.map fun u => (u.module, node u))⟩

/-! ## 2. Looking at it -/

/-- The modules in the order of their names. -/
def modules (g : ModuleGraph) : List ModuleNode := g.nodes.values

/-- The names of the modules in order. -/
def names (g : ModuleGraph) : List String := g.nodes.keys

def get? (g : ModuleGraph) (name : String) : Option ModuleNode := g.nodes.get? name

def contains (g : ModuleGraph) (name : String) : Bool := g.nodes.contains name

def size (g : ModuleGraph) : Nat := g.nodes.size

def isEmpty (g : ModuleGraph) : Bool := g.nodes.isEmpty

/-- The imports of a module that point into the project. -/
def edgesFrom (g : ModuleGraph) (m : ModuleNode) : List ImportEdge :=
  m.imports.filterMap fun i =>
    match i.target.module? with
    | some target => if g.contains target then some ⟨m.name, target, i.line, i.conditional⟩ else none
    | none => none

/-- Whether an edge comes before another: by importer, line and target. -/
def edgeBefore (a b : ImportEdge) : Bool :=
  ((compare a.source b.source).then ((compare a.line b.line).then (compare a.target b.target))) != .gt

/-- The imports between modules, by importer, line and target. -/
def importEdges (g : ModuleGraph) : List ImportEdge :=
  (g.modules.flatMap g.edgesFrom).mergeSort edgeBefore

/-- The modules that a module imports. -/
def importedBy (g : ModuleGraph) (name : String) : List String :=
  ((g.get? name).map fun m => (g.edgesFrom m).map (·.target)).getD []

/-- Whether a module is part of an import cycle. -/
def inCycle (g : ModuleGraph) (name : String) : Bool := onCycle g.importedBy g.names name

/-- The import cycles, each in order. -/
def cycles (g : ModuleGraph) : List (List String) := cycleClasses g.importedBy g.names

/-- The imports whose target is not known, with their modules. -/
def unresolvedImports (g : ModuleGraph) : List (String × ResolvedImport) :=
  g.modules.flatMap fun m =>
    (m.imports.filter fun i =>
      match i.target with
      | .unresolved _ => true
      | _ => false).map fun i => (m.name, i)

/-- The modules that could not be read or parsed. -/
def degradedModules (g : ModuleGraph) : List ModuleNode :=
  g.modules.filter fun m => m.degraded.isSome

/-! ## 3. Names -/

/-- The most imports followed from a name to its definition. -/
def reexportLimit : Nat := 8

/-- What a name in a module stands for, looking at a number of modules. -/
def resolveWithin (g : ModuleGraph) : (looks : Nat) → (module name : String) → SymbolTarget
  | 0, _, _ => .unresolved
  | looks + 1, module, name =>
    match g.get? module with
    | none => .unresolved
    | some node =>
      if node.definesFunction name then .function ⟨module, name⟩
      else if node.definesClass name then .classNamed module name
      else
        match node.binding? name with
        | some i =>
          match i.target, i.symbol with
          | .module target, some symbol =>
            if target = module ∧ symbol = name then .unresolved
            else resolveWithin g looks target symbol
          | .module target, none => .module target
          | .external target, some symbol => .external (target ++ "." ++ symbol)
          | .external target, none => .external target
          | .unresolved _, _ => .unresolved
        | none =>
          -- a package has its modules as attributes
          let submodule := joinDotted module name
          if node.isPackage && g.contains submodule then .module submodule else .unresolved

/-- What a name in a module stands for, through imports and re-exports. -/
def resolveSymbol (g : ModuleGraph) (module name : String) : SymbolTarget :=
  g.resolveWithin (reexportLimit + 1) module name

/-- A dotted name as its longest prefix that is a module, and the rest without leading dots. -/
def splitModule? (g : ModuleGraph) (dotted : String) : Option (String × String) :=
  (longestPrefix? g.contains dotted).map fun found =>
    (found, Text.trimStart '.' (String.ofList (dotted.toList.drop found.length)))

end ModuleGraph

end TaintFlow
