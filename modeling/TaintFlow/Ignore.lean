import TaintFlow.Glob
import TaintFlow.Workspace

/-!
# Ignore files

A folder may say in `.ignore`, in `.gitignore` and in the exclude file of a repository which of the
entries below it are not to be searched. Each line is a rule; the last rule that matches decides,
and one that starts with `!` keeps what an earlier one ignored. Of several folders the innermost that
says anything decides. What any `.ignore` says comes before what a `.gitignore` says, and that before
what an exclude file says. A repository inside the folder being searched does not hear what the
`.gitignore` and exclude files of the folders around it say.
-/

namespace TaintFlow

/-- One line of an ignore file. -/
structure IgnoreRule where
  glob : Glob
  /-- The rule keeps what it matches. -/
  keeps : Bool
  /-- The rule speaks about folders only. -/
  folderOnly : Bool
  deriving Repr, Inhabited

namespace IgnoreRule

/-- A line without the blanks at its end, unless the last one is escaped. -/
def trimEnd (line : String) : String :=
  if Text.endsWith line "\\ " then line
  else String.ofList (line.toList.reverse.dropWhile Text.isBlank).reverse

/-- The glob of a rule: without a slash in it, it may match at any depth, and one that ends in
`/**` matches only what is inside. -/
def globText (anchored : Bool) (line : String) : String :=
  let text :=
    if anchored || Text.hasChar line '/' || Text.startsWith line "**/" || line = "**" then line
    else "**/" ++ line
  if Text.endsWith text "/**" then text ++ "/*" else text

/-- Takes a closing slash, and a backslash before it, from a line. -/
def dropClosingSlash (line : String) : String × Bool :=
  match line.toList.reverse with
  | '/' :: '\\' :: rest => (String.ofList rest.reverse, true)
  | '/' :: rest => (String.ofList rest.reverse, true)
  | _ => (line, false)

/-- The rule of a line; comments, empty lines and lines that are no pattern give none. -/
def parse? (line : String) : Option IgnoreRule := do
  guard (!Text.startsWith line "#")
  let line := trimEnd line
  guard (line ≠ "")
  let (keeps, anchored, line) :=
    match line.toList with
    | '\\' :: '!' :: rest => (false, false, String.ofList ('!' :: rest))
    | '\\' :: '#' :: rest => (false, false, String.ofList ('#' :: rest))
    | '!' :: '/' :: rest => (true, true, String.ofList rest)
    | '!' :: rest => (true, false, String.ofList rest)
    | '/' :: rest => (false, true, String.ofList rest)
    | _ => (false, false, line)
  let (line, folderOnly) := dropClosingSlash line
  let glob ← Glob.parse? (globText anchored line)
  return { glob, keeps, folderOnly }

/-- The rules of the lines of a file. A byte order mark at its start says nothing. -/
def ofLines (lines : List String) : List IgnoreRule :=
  match lines with
  | [] => []
  | first :: rest => (Text.trimStart '\ufeff' first :: rest).filterMap parse?

/-- What rules say about an entry: whether it is ignored, if they say anything. -/
def ignored? (rules : List IgnoreRule) (path : String) (isFolder : Bool) : Option Bool :=
  (rules.reverse.find? fun r => (!r.folderOnly || isFolder) && r.glob.accepts path).map (!·.keeps)

end IgnoreRule

/-- The rules of a folder, with the names that lead from it to the folder being searched. -/
structure IgnoreLevel where
  /-- The rules of `.ignore`. -/
  own : List IgnoreRule
  /-- The rules of `.gitignore`. -/
  git : List IgnoreRule
  /-- The rules of the exclude file, if the folder is a repository. -/
  repository : List IgnoreRule
  /-- The folder is a repository of its own. -/
  isRepository : Bool := false
  names : List String := []
  deriving Repr, Inhabited

namespace IgnoreLevel

/-- The rules in a file, if there is one. -/
def rulesIn : Option FileTree → List IgnoreRule
  | some (.file content) => IgnoreRule.ofLines content.lines
  | _ => []

/-- The first line of a file, if there is one. -/
def firstLine? : Option FileTree → Option String
  | some (.file content) => content.lines.head?
  | _ => none

/-- The exclude file of a repository whose data stands elsewhere: a line tells where, and a file
there where the data is that it shares with others. Both are followed from the current folder. -/
def linkedExclude? (w : Workspace) (link : FileTree) : Option FileTree := do
  let data : Path := ⟨← Text.stripStart? (← firstLine? (some link)) "gitdir: "⟩
  let shared ← firstLine? (w.get? (data.join "commondir"))
  let home : Path := if Text.startsWith shared "." then data.join shared else ⟨shared⟩
  w.get? (home.join "info/exclude")

/-- The exclude file of a folder, if it is a repository. -/
def exclude? (w : Workspace) (folder : FileTree) : Option FileTree :=
  match folder.child? ".git" with
  | some (.file content) => linkedExclude? w (.file content)
  | _ => folder.get? [".git", "info", "exclude"]

/-- The rules of a folder. -/
def ofFolder (w : Workspace) (folder : FileTree) : IgnoreLevel where
  own := rulesIn (folder.child? ".ignore")
  git := rulesIn (folder.child? ".gitignore")
  repository := rulesIn (exclude? w folder)
  isRepository := (folder.child? ".git").isSome || (folder.child? ".jj").isSome

/-- The levels for a folder inside the one being searched, innermost first. -/
def enter (w : Workspace) (name : String) (folder : FileTree) (levels : List IgnoreLevel) :
    List IgnoreLevel :=
  ofFolder w folder :: levels.map fun l => { l with names := l.names ++ [name] }

/-- The levels of the folders above a place, innermost first. Being repositories does not matter for
them. -/
def above (w : Workspace) (place : List String) : List IgnoreLevel :=
  (List.range place.length).reverse.filterMap fun n =>
    (w.tree.get? (place.take n)).map fun folder =>
      { ofFolder w folder with isRepository := false, names := place.drop n }

/-- The levels for a place: of the folder there and of all above it, innermost first. -/
def ofPlace (w : Workspace) (place : List String) : List IgnoreLevel :=
  ((w.tree.get? place).map (ofFolder w)).toList ++ above w place

/-- The levels up to the innermost repository. -/
def upToRepository : List IgnoreLevel → List IgnoreLevel
  | [] => []
  | l :: rest => if l.isRepository then [l] else l :: upToRepository rest

/-- Whether an entry of the folder being searched is ignored. -/
def ignores (levels : List IgnoreLevel) (name : String) (isFolder : Bool) : Bool :=
  let verdict (levels : List IgnoreLevel) (rules : IgnoreLevel → List IgnoreRule) : Option Bool :=
    levels.findSome? fun l =>
      IgnoreRule.ignored? (rules l) (Text.join "/" (l.names ++ [name])) isFolder
  let inner := upToRepository levels
  (((verdict levels own).or (verdict inner git)).or (verdict inner repository)).getD false

end IgnoreLevel

end TaintFlow
