import TaintFlow.SortedSet

/-!
# Taint labels

A label says where a value may come from, and which sanitizers every one of those flows went
through. Joining two labels unites the origins and keeps only the sanitizers that both sides
applied, since a sanitizer protects the joined value only if it was applied to every tainted
part. A label without origins is clean, and joining with a clean label changes nothing.
-/

namespace TaintFlow

/-- Where tainted data may come from, as seen inside one function. -/
inductive Origin where
  /-- The parameter with this index. -/
  | param (index : Nat)
  /-- A source, by its identifier. -/
  | source (id : String)
  /-- What the call site with this index in the function returned. -/
  | call (site : Nat)
  deriving DecidableEq, Repr, Inhabited

namespace Origin

/-- Position of the kind: parameters, then sources, then calls. -/
def rank : Origin → Nat
  | param _ => 0
  | source _ => 1
  | call _ => 2

/-- The number of a parameter or call site. -/
def number : Origin → Nat
  | param n | call n => n
  | source _ => 0

/-- The identifier of a source. -/
def text : Origin → String
  | source s => s
  | _ => ""

instance : Ord Origin :=
  ⟨compareLex (compareOn rank) (compareLex (compareOn number) (compareOn text))⟩

instance : Std.TransOrd Origin :=
  inferInstanceAs (Std.TransCmp
    (compareLex (compareOn rank) (compareLex (compareOn number) (compareOn text))))

instance : Std.LawfulEqOrd Origin where
  eq_of_compare {a b} h := by
    obtain ⟨hr, h⟩ := compareLex_eq_eq.mp h
    obtain ⟨hn, ht⟩ := compareLex_eq_eq.mp h
    have hr : a.rank = b.rank := Std.LawfulEqOrd.eq_of_compare hr
    have hn : a.number = b.number := Std.LawfulEqOrd.eq_of_compare hn
    have ht : a.text = b.text := Std.LawfulEqOrd.eq_of_compare ht
    cases a <;> cases b <;> simp_all [rank, number, text]

/-- Whether the origin is a parameter of the function. -/
def isParam : Origin → Bool
  | param _ => true
  | _ => false

end Origin

/-- A set of sanitizer names. -/
abbrev Sanitizers := SortedSet String

/-- The taint of a value. -/
structure Label where
  /-- Where the value may come from. -/
  origins : SortedSet Origin
  /-- The sanitizers applied on every flow into the value. -/
  sanitizers : Sanitizers
  deriving DecidableEq, Repr

namespace Label

/-! ## 1. Labels -/

/-- No taint. -/
def clean : Label := ⟨∅, ∅⟩

instance : Inhabited Label := ⟨clean⟩

/-- The label of one origin. -/
def ofOrigin (o : Origin) : Label := ⟨.singleton o, ∅⟩

/-- The label of a parameter. -/
def param (index : Nat) : Label := ofOrigin (.param index)

/-- The label of a source. -/
def source (id : String) : Label := ofOrigin (.source id)

/-- The label of a call's result while the callee is unknown. -/
def call (site : Nat) : Label := ofOrigin (.call site)

/-- Whether the value carries no taint. -/
def isClean (l : Label) : Bool := l.origins.isEmpty

/-- A label without origins has no sanitizers either. -/
def Canonical (l : Label) : Prop := l.isClean = true → l.sanitizers = ∅

/-! ## 2. Operations -/

/-- Joins two labels. -/
def combine (a b : Label) : Label :=
  if b.isClean then a
  else if a.isClean then b
  else ⟨a.origins.union b.origins, a.sanitizers.inter b.sanitizers⟩

/-- Joins a list of labels onto a first one. -/
def combineAll (a : Label) (ls : List Label) : Label := ls.foldl combine a

/-- Records that a sanitizer was applied. A clean label stays clean. -/
def sanitize (l : Label) (name : String) : Label :=
  if l.isClean then l else { l with sanitizers := l.sanitizers.insert name }

/-- The parameters among the origins, ascending. -/
def params (l : Label) : List Nat :=
  l.origins.toList.filterMap fun
    | .param n => some n
    | _ => none

/-- The sources among the origins, ascending. -/
def sourceIds (l : Label) : List String :=
  l.origins.toList.filterMap fun
    | .source s => some s
    | _ => none

/-- Whether some origin is not a parameter. -/
def hasForeign (l : Label) : Bool := l.origins.any fun o => !o.isParam

/-- Whether a parameter is among the origins. -/
def hasParam (l : Label) (index : Nat) : Bool := l.origins.contains (.param index)

/-! ## 3. Replacing call results -/

/-- Whether an origin is a call whose result is known. -/
def isResolved (results : List Label) : Origin → Bool
  | .call k => k < results.length
  | _ => false

/-- What a known call result contributes. The sanitizers on the label were applied after the
call, so they carry over to what the call returned. -/
def contribution (l : Label) (result : Label) : Label :=
  if result.isClean then result
  else { result with sanitizers := result.sanitizers.union l.sanitizers }

/-- Replaces the calls whose results are known by those results. -/
def substitute (l : Label) (results : List Label) : Label :=
  if !l.origins.any (isResolved results) then l
  else
    let kept := l.origins.filter fun o => !isResolved results o
    let start : Label := if kept.isEmpty then ⟨kept, ∅⟩ else ⟨kept, l.sanitizers⟩
    combineAll start (l.origins.toList.filterMap fun
      | .call k => results[k]?.map l.contribution
      | _ => none)

end Label

end TaintFlow
