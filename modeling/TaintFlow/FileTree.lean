import TaintFlow.Entries
import TaintFlow.Text

/-!
# File trees

Folders and files as a value: what a scan reads is a tree, not the state of a disk. A place in a
tree is the list of names that leads there from the top.
-/

namespace TaintFlow

/-- What a file holds. -/
inductive FileContent where
  /-- Text. -/
  | text (content : String)
  /-- Bytes that are no text. -/
  | binary (bytes : List UInt8)
  deriving DecidableEq, Repr, Inhabited

namespace FileContent

/-- The content of bytes: text where they are UTF-8. -/
def ofBytes (bytes : ByteArray) : FileContent :=
  match String.fromUTF8? bytes with
  | some content => text content
  | none => binary bytes.toList

/-- Cuts bytes at every line feed. -/
def splitLines : List UInt8 → List (List UInt8)
  | [] => [[]]
  | b :: bs =>
    if b = 10 then [] :: splitLines bs
    else match splitLines bs with
      | [] => [[b]]
      | line :: lines => (b :: line) :: lines

/-- The texts of lines up to the first that is no text. -/
def leadingTexts : List (List UInt8) → List String
  | [] => []
  | line :: lines =>
    match String.fromUTF8? ⟨line.toArray⟩ with
    | some decoded => decoded :: leadingTexts lines
    | none => []

/-- The lines of a file, up to the first that is no text. -/
def lines : FileContent → List String
  | text content => Text.lines content
  | binary bytes => Text.lines (Text.join "\n" (leadingTexts (splitLines bytes)))

end FileContent

/-- A file, or a folder with its named entries. -/
inductive FileTree where
  | file (content : FileContent)
  | folder (entries : List (String × FileTree))
  deriving Repr, Inhabited

namespace FileTree

/-- The folder with nothing in it. -/
def empty : FileTree := folder []

/-- Whether the tree is a folder. -/
def isFolder : FileTree → Bool
  | file _ => false
  | folder _ => true

/-- The entry of a name. -/
def child? (name : String) : FileTree → Option FileTree
  | file _ => none
  | folder entries => entries.lookup name

/-- What stands at a place. -/
def get? : List String → FileTree → Option FileTree
  | [], t => some t
  | name :: rest, t => (t.child? name).bind (get? rest)

/-- Puts a tree at a place. Folders that are missing on the way are made. -/
def put (leaf : FileTree) : List String → FileTree → FileTree
  | [], _ => leaf
  | name :: rest, folder entries =>
    folder (setEntry name (put leaf rest ((entries.lookup name).getD empty)) entries)
  | name :: rest, file _ => folder [(name, put leaf rest empty)]

/-- Makes a folder at a place unless something stands there. -/
def makeFolder (place : List String) (t : FileTree) : FileTree :=
  if (t.get? place).isSome then t else put empty place t

/-- Takes away what stands at a place. -/
def remove : List String → FileTree → FileTree
  | [], t => t
  | [name], folder entries => folder (entries.filter (·.1 ≠ name))
  | name :: rest, folder entries =>
    match entries.lookup name with
    | some t => folder (setEntry name (remove rest t) entries)
    | none => folder entries
  | _ :: _, file content => file content

end FileTree

end TaintFlow
