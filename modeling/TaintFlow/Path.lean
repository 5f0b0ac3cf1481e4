import TaintFlow.Text

/-!
# Paths

A path is its text, but two paths are the same place when they have the same parts, and paths
are ordered part by part: `a/b.py` stands before `a-b.py`, and `x//y`, `x/./y` and `x/y` are one
path. A leading `.` is a part of its own.
-/

namespace TaintFlow

/-- One part of a path. -/
inductive PathPart where
  /-- The leading `/` of an absolute path. -/
  | root
  /-- A leading `.`. -/
  | here
  /-- A `..`. -/
  | up
  /-- A file or folder name. -/
  | name (text : String)
  deriving DecidableEq, Repr

namespace PathPart

/-- Position of the kind in the order of parts. -/
def rank : PathPart → Nat
  | root => 0
  | here => 1
  | up => 2
  | name _ => 3

/-- The name, empty for the other kinds. -/
def text : PathPart → String
  | name s => s
  | _ => ""

instance : Ord PathPart := ⟨compareLex (compareOn rank) (compareOn text)⟩

instance : Std.TransOrd PathPart :=
  inferInstanceAs (Std.TransCmp (compareLex (compareOn rank) (compareOn text)))

instance : Std.LawfulEqOrd PathPart where
  eq_of_compare {a b} h := by
    obtain ⟨hr, ht⟩ := (compareLex_eq_eq).mp h
    have hr : a.rank = b.rank := Std.LawfulEqOrd.eq_of_compare hr
    have ht : a.text = b.text := Std.LawfulEqOrd.eq_of_compare ht
    cases a <;> cases b <;> simp_all [rank, text]

end PathPart

/-- A path, as written. -/
structure Path where
  /-- The text of the path. -/
  text : String
  deriving DecidableEq, Repr, Inhabited

namespace Path

/-- The parts after a possible leading `/` or `.`: empty pieces and `.` say nothing. -/
def innerParts (pieces : List String) : List PathPart :=
  (pieces.filter fun p => p ≠ "" ∧ p ≠ ".").map fun p => if p = ".." then .up else .name p

/-- The parts of a path. -/
def parts (p : Path) : List PathPart :=
  match Text.split '/' p.text with
  | "" :: rest => if p.text = "" then [] else .root :: innerParts rest
  | "." :: rest => .here :: innerParts rest
  | pieces => innerParts pieces

/-- Paths are ordered by their parts. -/
instance : Ord Path := ⟨compareOn parts⟩

instance : Std.TransOrd Path := inferInstanceAs (Std.TransCmp (compareOn parts))

/-- Whether two paths have the same parts. -/
def same (p q : Path) : Bool := p.parts == q.parts

/-- Whether the path starts at the root. -/
def isAbsolute (p : Path) : Bool := Text.startsWith p.text "/"

/-- The last part, if it is a name. -/
def fileName? (p : Path) : Option String :=
  match p.parts.getLast? with
  | some (.name s) => some s
  | _ => none

/-- Stem and extension of a file name: they are cut at the last dot, except that a name whose
only dot is its first character is all stem. -/
def stemAndExtension (name : String) : String × Option String :=
  match Text.splitLast? '.' name with
  | some ("", _) => (name, none)
  | some (stem, ext) => (stem, some ext)
  | none => (name, none)

/-- The extension of the last part. -/
def extension? (p : Path) : Option String := p.fileName?.bind fun n => (stemAndExtension n).2

/-- The last part without its extension. -/
def fileStem? (p : Path) : Option String := p.fileName?.map fun n => (stemAndExtension n).1

/-- Puts a path below another; an absolute path stays as it is. -/
def join (base : Path) (rel : String) : Path :=
  if Text.startsWith rel "/" then ⟨rel⟩
  else if base.text = "" ∨ Text.endsWith base.text "/" then ⟨base.text ++ rel⟩
  else ⟨base.text ++ "/" ++ rel⟩

/-- Drops trailing pieces that name nothing, but never the leading one. -/
def dropSilentEnd : List String → List String
  | [] => []
  | first :: rest => first :: (rest.reverse.dropWhile fun p => p = "" ∨ p = ".").reverse

/-- The path without its last part; none when there is no part to drop. -/
def parent? (p : Path) : Option Path :=
  match p.parts.getLast? with
  | none => none
  | some .root => none
  | some _ =>
    let kept := dropSilentEnd (dropSilentEnd (Text.split '/' p.text)).dropLast
    if p.isAbsolute ∧ kept = [""] then some ⟨"/"⟩ else some ⟨Text.join "/" kept⟩

/-- How a path is shown: forward slashes, no extended prefix, no leading `./`. -/
def display (p : Path) : String :=
  let shown := Text.replaceChar '\\' '/' (stripExtended p.text.length p.text)
  (Text.stripStart? shown "./").getD shown
where
  /-- Strips leading `\\?\` marks, of which there are fewer than characters. -/
  stripExtended : Nat → String → String
    | 0, s => s
    | n + 1, s =>
      match Text.stripStart? s "\\\\?\\" with
      | some rest => stripExtended n rest
      | none => s

end Path

end TaintFlow
