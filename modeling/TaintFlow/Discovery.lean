import TaintFlow.Ignore
import TaintFlow.ModuleGraph
import TaintFlow.SourceUnit
import TaintFlow.Workspace

/-!
# Discovering sources

The source files of a project: those below its root that no ignore file and no excluded folder
hides, in the order of their paths. A root that is a file is the whole project.
-/

namespace TaintFlow

/-! ## 1. Excluded folders -/

/-- The folders that are never searched unless asked for, in order. -/
def defaultExcludes : List String :=
  ["*.egg-info", ".git", ".mypy_cache", ".nox", ".pytest_cache", ".ruff_cache", ".tox", ".venv",
    "__pycache__", "build", "dist", "htmlcov", "node_modules", "site-packages", "venv"]

/-- Whether a folder name is excluded by a pattern. `*` before a dot stands for any start; other
patterns are names. -/
def excludedBy (name pattern : String) : Bool :=
  match pattern.toList with
  | '*' :: '.' :: ending => Text.endsWith name (String.ofList ('.' :: ending))
  | _ => name == pattern

/-- Whether a folder name is excluded by any of some patterns. -/
def isExcluded (patterns : List String) (name : String) : Bool := patterns.any (excludedBy name)

/-- What a scan looks at. -/
structure Scope where
  root : Path
  /-- Folders to leave out besides the usual ones. -/
  excludes : List String := []
  /-- Patterns that leave nothing out although they are named. -/
  includes : List String := []
  deriving DecidableEq, Repr, Inhabited

/-- The patterns that leave folders out. -/
def Scope.patterns (s : Scope) : List String :=
  (s.excludes ++ defaultExcludes).filter fun p => !s.includes.contains p

/-! ## 2. Source files -/

/-- The source files among the entries of a folder. -/
def sourcesAmong (w : Workspace) (patterns : List String) (levels : List IgnoreLevel)
    (path : Path) : List (String × FileTree) → List Path
  | [] => []
  | (name, .file _) :: rest =>
    let file := path.join name
    let here := if file.isSource && !IgnoreLevel.ignores levels name false then [file] else []
    here ++ sourcesAmong w patterns levels path rest
  | (name, .folder entries) :: rest =>
    let here :=
      if isExcluded patterns name || IgnoreLevel.ignores levels name true then []
      else sourcesAmong w patterns (IgnoreLevel.enter w name (.folder entries) levels)
        (path.join name) entries
    here ++ sourcesAmong w patterns levels path rest

namespace Workspace

/-- The source files in a scope. -/
def sources (w : Workspace) (s : Scope) : List Path :=
  match w.place s.root with
  | .error _ => []
  | .ok place =>
    match w.tree.get? place with
    | none => []
    | some (.file _) => if s.root.isSource then [s.root] else []
    | some (.folder entries) =>
      (sourcesAmong w s.patterns (IgnoreLevel.ofPlace w place) s.root entries).mergeSort
        fun a b => compare a b != .gt

/-! ## 3. Source units -/

/-- The names that lead from the root to a file. -/
def relative (w : Workspace) (root file : Path) : Path :=
  if w.isFile root then ⟨file.fileName?.getD ""⟩
  else if root.parts.isPrefixOf file.parts then
    ⟨Text.join "/" ((file.parts.drop root.parts.length).map fun
      | .up => ".."
      | part => part.text)⟩
  else file

/-- A source file as a unit of its project. -/
def unit? (w : Workspace) (root file : Path) : Option SourceUnit := do
  let module ← (w.relative root file).moduleName?
  let content :=
    match w.read file with
    | .ok text => SourceUnit.readText text
    | .error e => .error ("read error: " ++ e.message)
  return { module, file, isPackage := file.isPackageFile, content }

/-- The units in a scope. -/
def units (w : Workspace) (s : Scope) : List SourceUnit :=
  SourceUnit.sort ((w.sources s).filterMap (w.unit? s.root))

/-- The module graph of everything below a root. -/
def resolve (w : Workspace) (root : Path) : ModuleGraph := ModuleGraph.build (w.units { root })

end Workspace

end TaintFlow
