import TaintFlow.Path
import TaintFlow.Python.Definitions
import TaintFlow.Python.Imports
import TaintFlow.Python.Facts
import TaintFlow.Python.Parse

/-!
# Source units

One file of a project under its module name, with its tree or the reason why there is none. A file
that cannot be read or parsed stays in the project as a degraded module.
-/

namespace TaintFlow

namespace Path

/-- Whether the file is a source file, by its extension. -/
def isSource (p : Path) : Bool := p.extension? == some "py"

/-- Whether the file is a package's own, so that its module names a directory. -/
def isPackageFile (p : Path) : Bool := p.fileStem? == some "__init__"

/-- The names on a path. -/
def names (p : Path) : List String :=
  p.parts.filterMap fun
    | .name s => some s
    | _ => none

/-- The module name of a file relative to the project: its directories and its stem with dots
between them. The file of a package stands for the package. -/
def moduleName? (relative : Path) : Option String :=
  match relative.names.reverse with
  | [] => none
  | last :: reversed =>
    let stem := ((Text.splitLast? '.' last).map (·.1)).getD last
    let directories := reversed.reverse
    if stem == "__init__" && !directories.isEmpty then some (Text.join "." directories)
    else some (Text.join "." (directories ++ [stem]))

end Path

/-- The language of the sources. -/
def sourceLanguage : String := "python"

/-- Why a text that is no module is degraded. -/
def parseFailure : String := "<parse error>"

/-- A source file as loaded. -/
structure SourceUnit where
  module : String
  file : Path
  isPackage : Bool
  /-- The tree, or why there is none. -/
  content : Except String Python.Module

namespace SourceUnit

/-- The content of a text. -/
def readText (source : String) : Except String Python.Module :=
  match Python.Module.parse source with
  | .ok m => .ok m
  | .error _ => .error parseFailure

/-- The tree, if there is one. -/
def tree? (u : SourceUnit) : Option Python.Module :=
  match u.content with
  | .ok m => some m
  | .error _ => none

/-- Why the unit is degraded, if it is. -/
def degraded? (u : SourceUnit) : Option String :=
  match u.content with
  | .ok _ => none
  | .error reason => some reason

/-- What the unit declares; a degraded one declares nothing. -/
def definitions (u : SourceUnit) : Definitions := (u.tree?.map (·.definitions)).getD {}

/-- What the unit imports; a degraded one imports nothing. -/
def imports (u : SourceUnit) : List Import := (u.tree?.map (·.imports)).getD []

/-- The facts of the unit's functions. -/
def facts (registry : Registry) (u : SourceUnit) : List FunctionFacts :=
  (u.tree?.map fun m => m.facts u.module u.file registry).getD []

/-- Whether one unit comes before another: by module, then by file. -/
def before (a b : SourceUnit) : Bool :=
  ((compare a.module b.module).then (compare a.file b.file)) != .gt

/-- Units in their order. -/
def sort (units : List SourceUnit) : List SourceUnit := units.mergeSort before

end SourceUnit

end TaintFlow
