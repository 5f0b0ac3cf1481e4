import TaintFlow.Workspace

/-!
# Where output may be written

Output goes only below an allowed folder. The part of the path that is there already decides: what
it leads to has to lie in the folder, and the rest, which is not there yet, must not climb.
-/

namespace TaintFlow

/-- Why no output goes to a path. -/
inductive OutputPathError where
  /-- The allowed folder is not there. -/
  | noRoot (root : Path) (cause : FileError)
  /-- No part of the path is there. -/
  | noAncestor (ancestor : Path) (cause : FileError)
  /-- The path leaves the allowed folder. -/
  | outside (ancestor root : Path)
  /-- The path climbs in a part that is not there. -/
  | climbs (path : Path)
  deriving DecidableEq, Repr, Inhabited

/-- The wording of an error. -/
def OutputPathError.message : OutputPathError → String
  | noRoot root cause =>
    s!"Failed to canonicalize root directory {root.text}: {cause.message}"
  | noAncestor ancestor cause =>
    s!"Failed to canonicalize ancestor path {ancestor.text}: {cause.message}"
  | outside ancestor root =>
    s!"Output path '{ancestor.display}' is outside the allowed directory '{root.display}'.\n" ++
      "Hint: Use a relative path like './report.json' or run the command from the target directory."
  | climbs path =>
    s!"Security Error: Path contains '..' in non-existent portion: '{path.text}'"

namespace Workspace

/-- The longest part of a path at which something stands; the fuel is the number of parts. -/
def existing (w : Workspace) : Nat → Path → Path
  | 0, p => p
  | n + 1, p =>
    if w.contains p then p
    else
      match p.parent? with
      | some parent => existing w n parent
      | none => p

/-- The absolute path of an output below a folder, which is the current one unless given. -/
def outputPath (w : Workspace) (path : Path) (root : Option Path := none) :
    Except OutputPathError Path := do
  let rootPath := root.getD (absolutePath w.current)
  let root ← (w.canonical rootPath).mapError (.noRoot rootPath)
  let absolute := root.join path.text
  let ancestor := w.existing absolute.parts.length absolute
  let reached ← (w.canonical ancestor).mapError (.noAncestor ancestor)
  if !root.parts.isPrefixOf reached.parts then throw (.outside reached root)
  if (absolute.parts.drop ancestor.parts.length).contains .up then throw (.climbs path)
  return absolute

end Workspace

end TaintFlow
