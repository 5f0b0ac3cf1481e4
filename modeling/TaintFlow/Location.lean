import TaintFlow.Path

/-!
# Places in a project

A location is a file with a 1-based line and column (columns count bytes); a function is named
by its module and its qualified name. Both are ordered field by field.
-/

namespace TaintFlow

/-- A position in a source file. -/
structure Location where
  file : Path
  line : Nat
  column : Nat
  deriving DecidableEq, Repr, Inhabited

namespace Location

instance : Ord Location :=
  ⟨compareLex (compareOn file) (compareLex (compareOn line) (compareOn column))⟩

instance : Std.TransOrd Location :=
  inferInstanceAs (Std.TransCmp
    (compareLex (compareOn file) (compareLex (compareOn line) (compareOn column))))

/-- Whether two locations are the same place, however their files are spelled. -/
def same (a b : Location) : Bool := compare a b == .eq

/-- The text of a location: `file:line:column`. -/
def display (l : Location) : String := s!"{l.file.display}:{l.line}:{l.column}"

end Location

/-- The name of a function in a project. -/
structure FunctionId where
  /-- The module's dotted path. -/
  module : String
  /-- The name inside the module, such as `Class.method` or `outer.inner`. -/
  qualname : String
  deriving DecidableEq, Repr, Inhabited

namespace FunctionId

instance : Ord FunctionId := ⟨compareLex (compareOn module) (compareOn qualname)⟩

instance : Std.TransOrd FunctionId :=
  inferInstanceAs (Std.TransCmp (compareLex (compareOn module) (compareOn qualname)))

instance : Std.LawfulEqOrd FunctionId where
  eq_of_compare {a b} h := by
    obtain ⟨hm, hq⟩ := compareLex_eq_eq.mp h
    have hm : a.module = b.module := Std.LawfulEqOrd.eq_of_compare hm
    have hq : a.qualname = b.qualname := Std.LawfulEqOrd.eq_of_compare hq
    cases a; cases b; simp_all

/-- The text of a function's name: `module.qualname`. -/
def display (id : FunctionId) : String := s!"{id.module}.{id.qualname}"

/-- The qualified name of the code at module level. -/
def moduleLevel : String := "<module>"

/-- The module of callees outside the project. -/
def externalModule : String := "<external>"

end FunctionId

end TaintFlow
