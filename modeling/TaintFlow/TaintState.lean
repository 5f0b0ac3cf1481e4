import TaintFlow.Label
import TaintFlow.SortedMap

/-!
# Taint states

The labels of the variables at one point of a function. A variable without an entry is clean.
-/

namespace TaintFlow

/-- The tainted variables with their labels. -/
structure TaintState where
  /-- The entry of each tainted variable. -/
  entries : SortedMap String Label
  deriving DecidableEq, Repr

namespace TaintState

/-- Nothing is tainted. -/
def empty : TaintState := ⟨∅⟩

instance : Inhabited TaintState := ⟨empty⟩

/-- The label of a variable that has an entry. -/
def get? (s : TaintState) (var : String) : Option Label := s.entries.get? var

/-- The label of a variable, clean without an entry. -/
def labelOf (s : TaintState) (var : String) : Label := (s.get? var).getD .clean

/-- Whether a variable has an entry. -/
def isTainted (s : TaintState) (var : String) : Bool := s.entries.contains var

/-- Gives a variable a label. A clean label forgets what the variable carried. -/
def assign (s : TaintState) (var : String) (label : Label) : TaintState :=
  if label.isClean then ⟨s.entries.erase var⟩ else ⟨s.entries.insert var label⟩

/-- Joins a label onto what a variable carries. -/
def joinOnto (s : TaintState) (var : String) (label : Label) : TaintState :=
  ⟨s.entries.alter var fun
    | some present => present.combine label
    | none => label⟩

/-- Adds taint to a variable without forgetting what it carries. -/
def taintWeakly (s : TaintState) (var : String) (label : Label) : TaintState :=
  if label.isClean then s else s.joinOnto var label

/-- Records that a sanitizer was applied to a variable that has an entry. -/
def sanitize (s : TaintState) (var : String) (sanitizer : String) : TaintState :=
  match s.get? var with
  | some label =>
    ⟨s.entries.insert var { label with sanitizers := label.sanitizers.insert sanitizer }⟩
  | none => s

/-- The state after two branches meet. -/
def merge (s t : TaintState) : TaintState :=
  t.entries.toList.foldl (fun s e => s.joinOnto e.1 e.2) s

end TaintState

end TaintFlow
