import TaintFlow.FileTree
import TaintFlow.Path

/-!
# Workspaces

A file tree with the folder in which the work is done. Paths are followed from that folder, or from
the top when they are absolute, one piece at a time: every piece but the last has to lead into a
folder, also a `.`, a `..` and the nothing after a closing slash. A missing folder is therefore not
skipped by a `..` behind it.
-/

namespace TaintFlow

/-- Why a file cannot be used. -/
inductive FileError where
  /-- Nothing stands there. -/
  | missing
  /-- A file stands where the path leads on. -/
  | notFolder
  /-- A folder stands where a file is wanted. -/
  | isFolder
  /-- The file holds no text. -/
  | notText
  /-- A name on the path, or the whole path, is too long. -/
  | nameTooLong
  /-- The path holds a character that no name has. -/
  | badName
  deriving DecidableEq, Repr, Inhabited

/-- The wording of an error. -/
def FileError.message : FileError → String
  | missing => "No such file or directory (os error 2)"
  | notFolder => "Not a directory (os error 20)"
  | isFolder => "Is a directory (os error 21)"
  | notText => "stream did not contain valid UTF-8"
  | nameTooLong => "File name too long (os error 36)"
  | badName => "file name contained an unexpected NUL byte"

/-- The longest name, in bytes. -/
def maxNameBytes : Nat := 255

/-- The longest path, in bytes. -/
def maxPathBytes : Nat := 4095

/-- A tree and the place of the current folder in it. -/
structure Workspace where
  tree : FileTree
  current : List String
  deriving Repr, Inhabited

namespace Workspace

/-! ## 1. Following paths -/

/-- The absolute path of a place. -/
def absolutePath (place : List String) : Path := ⟨"/" ++ Text.join "/" place⟩

/-- Follows pieces of a path from a place. -/
def follow (tree : FileTree) : List String → List String → Except FileError (List String)
  | place, [] => .ok place
  | place, piece :: rest =>
    match tree.get? place with
    | none => .error .missing
    | some (.file _) => .error .notFolder
    | some (.folder entries) =>
      if piece = "" ∨ piece = "." then follow tree place rest
      else if piece = ".." then follow tree place.dropLast rest
      else if maxNameBytes < piece.utf8ByteSize then .error .nameTooLong
      else if (entries.lookup piece).isSome then follow tree (place ++ [piece]) rest
      else .error .missing

/-- Where a path starts, and its pieces. -/
def start (w : Workspace) (p : Path) : List String × List String :=
  if p.isAbsolute then ([], Text.split '/' p.text) else (w.current, Text.split '/' p.text)

/-- Whether a path can be followed at all. The empty path leads nowhere. -/
def checkPath (p : Path) : Except FileError Unit :=
  if Text.hasChar p.text (Char.ofNat 0) then .error .badName
  else if p.text = "" then .error .missing
  else if maxPathBytes < p.text.utf8ByteSize then .error .nameTooLong
  else .ok ()

/-- The place that a path leads to. -/
def place (w : Workspace) (p : Path) : Except FileError (List String) := do
  checkPath p
  follow w.tree (w.start p).1 (w.start p).2

/-- The absolute path without `.` and `..` of what stands at a path. -/
def canonical (w : Workspace) (p : Path) : Except FileError Path := (w.place p).map absolutePath

/-- What stands at a path. -/
def get? (w : Workspace) (p : Path) : Option FileTree :=
  match w.place p with
  | .ok place => w.tree.get? place
  | .error _ => none

/-- Whether anything stands at a path. -/
def contains (w : Workspace) (p : Path) : Bool := (w.get? p).isSome

/-- Whether a file stands at a path. -/
def isFile (w : Workspace) (p : Path) : Bool := (w.get? p).any fun t => !t.isFolder

/-! ## 2. Reading and writing -/

/-- The text of the file at a path. -/
def read (w : Workspace) (p : Path) : Except FileError String := do
  match w.tree.get? (← w.place p) with
  | none => .error .missing
  | some (.folder _) => .error .isFolder
  | some (.file (.binary _)) => .error .notText
  | some (.file (.text content)) => .ok content

/-- Writes a text to a path. The folder has to be there, and what stands at the path must not be a
folder. -/
def write (w : Workspace) (p : Path) (content : String) : Except FileError Workspace :=
  let (place, pieces) := w.start p
  match pieces.getLast? with
  | none => .error .missing
  | some name => do
    checkPath p
    let folder ← follow w.tree place pieces.dropLast
    if name = "" ∨ name = "." ∨ name = ".." then .error .isFolder
    else
      match w.tree.get? folder with
      | none => .error .missing
      | some (.file _) => .error .notFolder
      | some (.folder entries) =>
        if maxNameBytes < name.utf8ByteSize then .error .nameTooLong
        else if (entries.lookup name).any FileTree.isFolder then .error .isFolder
        else .ok { w with tree := FileTree.put (.file (.text content)) (folder ++ [name]) w.tree }

/-- The place that a path names when the folders on it are as written. -/
def namedPlace (w : Workspace) (p : Path) : List String :=
  p.parts.foldl (fun place part =>
    match part with
    | .root => []
    | .here => place
    | .up => place.dropLast
    | .name s => place ++ [s]) w.current

/-- Puts a file at a path, with the folders that it needs. -/
def put (w : Workspace) (p : Path) (content : FileContent) : Workspace :=
  { w with tree := FileTree.put (.file content) (w.namedPlace p) w.tree }

/-- Makes a folder at a path, with the folders that it needs. -/
def makeFolder (w : Workspace) (p : Path) : Workspace :=
  { w with tree := w.tree.makeFolder (w.namedPlace p) }

/-- Takes away what stands at a path. -/
def remove (w : Workspace) (p : Path) : Workspace :=
  { w with tree := w.tree.remove (w.namedPlace p) }

end Workspace

end TaintFlow
