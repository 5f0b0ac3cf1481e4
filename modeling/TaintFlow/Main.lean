import TaintFlow.CommandLine.Run

/-!
# The program

Reads the files that a run can look at into a tree, runs, and does what the run says: writes the
report, prints, and ends with the exit code.
-/

namespace TaintFlow.CommandLine

/-- The files above a root that a run may look at. -/
def surroundingFiles : List String := [configFileName, projectFileName, ".ignore", ".gitignore"]

/-- The greatest depth to which folders are read. -/
def readingDepth : Nat := 128

/-- Reads an entry of a folder to a depth. -/
def readEntry : Nat → IO.FS.DirEntry → IO (Option (String × FileTree))
  | 0, _ => return none
  | depth + 1, entry => do
    if ← entry.path.isDir then
      let entries ← (← entry.path.readDir).toList.filterMapM (readEntry depth)
      return some (entry.fileName, .folder entries)
    else
      return some (entry.fileName, .file (.ofBytes (← IO.FS.readBinFile entry.path)))

/-- The names on a path. -/
def placeOf (path : String) : List String := Path.names ⟨path⟩

/-- Adds the folder or file at a path to a tree, with the files around it that may matter. -/
def readRoot (tree : FileTree) (path : String) : IO FileTree := do
  let root := (← IO.currentDir) / path
  if !(← root.pathExists) then return tree
  let real ← IO.FS.realPath root
  let place := placeOf real.toString
  let mut tree := tree
  for n in List.range place.length do
    let folder := Workspace.absolutePath (place.take n)
    for name in surroundingFiles do
      let file := folder.join name
      if ← (real / file.text).pathExists then
        let content ← IO.FS.readBinFile file.text
        tree := FileTree.put (.file (.ofBytes content)) (place.take n ++ [name]) tree
  if ← real.isDir then
    let entries ← (← real.readDir).toList.filterMapM (readEntry readingDepth)
    return FileTree.put (.folder entries) place tree
  else
    return FileTree.put (.file (.ofBytes (← IO.FS.readBinFile real))) place tree

/-- The files that a run with some arguments may look at. -/
def readWorkspace (arguments : List String) : IO Workspace := do
  let current := placeOf (← IO.currentDir).toString
  let outside := arguments.filter fun a => Text.startsWith a "/" || Text.startsWith a ".."
  let tree ← outside.foldlM readRoot .empty
  return ⟨← readRoot tree ".", current⟩

end TaintFlow.CommandLine

open TaintFlow.CommandLine in
/-- Runs the program with its arguments. -/
def main (arguments : List String) : IO UInt32 := do
  let started ← IO.monoMsNow
  let workspace ← readWorkspace arguments
  let elapsed := (← IO.monoMsNow) - started
  match run workspace arguments elapsed with
  | .error error =>
    IO.eprintln ("Error: " ++ error.message)
    return 1
  | .ok ending =>
    if let some (file, text) := ending.written then IO.FS.writeFile file.text text
    IO.print ending.output
    IO.eprint ending.complaint
    return ending.exit.toUInt32
