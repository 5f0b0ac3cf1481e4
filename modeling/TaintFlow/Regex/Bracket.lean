import TaintFlow.Regex.Escape

/-!
# Bracketed classes

A class is read between its brackets: characters, ranges, named classes, classes inside, and the
operators `&&`, `--` and `~~` between unions of these. With each part goes how deep it is nested,
since an expression may only be nested so far.
-/

namespace TaintFlow.Regex

/-- A set of characters, and how many levels of it are nested. -/
structure SetPart where
  set : CharSet
  depth : Nat := 0

namespace SetPart

/-- The union of some parts. A single part stands for itself. -/
def union : List SetPart → SetPart
  | [] => ⟨.none, 0⟩
  | [p] => p
  | parts =>
    ⟨.unionAll (parts.map SetPart.set), (parts.map SetPart.depth).foldl max 0 + 1⟩

/-- Two parts joined by an operator. -/
def operate (op : CharSet → CharSet → CharSet) (f : Flags) (a b : SetPart) : SetPart :=
  ⟨op (f.fold a.set) (f.fold b.set), max a.depth b.depth + 1⟩

end SetPart

/-! ## 1. Named classes -/

/-- The named ASCII classes. -/
def asciiClasses : List (String × CharSet) :=
  let upper := CharSet.range 65 90
  let lower := CharSet.range 97 122
  let digits := CharSet.range 48 57
  let alpha := CharSet.union upper lower
  let alnum := CharSet.union alpha digits
  [("alnum", alnum), ("alpha", alpha), ("ascii", .range 0 127),
    ("blank", .union (.single ' ') (.single '\t')), ("cntrl", .union (.range 0 31) (.range 127 127)),
    ("digit", digits), ("graph", .range 33 126), ("lower", lower), ("print", .range 32 126),
    ("punct", .unionAll [.range 33 47, .range 58 64, .range 91 96, .range 123 126]),
    ("space", .union (.range 9 13) (.single ' ')), ("upper", upper),
    ("word", .union alnum (.single '_')),
    ("xdigit", .unionAll [digits, .range 65 70, .range 97 102])]

/-- A named class after its opening bracket: its set, whether it is negated, and what follows. -/
def asciiClass? : List Char → Option (CharSet × Bool × List Char)
  | ':' :: cs =>
    let (negated, cs) := match cs with
      | '^' :: rest => (true, rest)
      | _ => (false, cs)
    let name := cs.takeWhile (· ≠ ':')
    match cs.drop name.length with
    | ':' :: ']' :: rest =>
      (asciiClasses.lookup (String.ofList name)).map fun s => (s, negated, rest)
    | _ => none
  | _ => none

/-! ## 2. Items -/

/-- One bound of a range, or a set on its own. -/
inductive SetItem where
  | char (c : Char)
  | set (s : CharSet)

/-- A character or an escape inside a class. -/
def Flags.setItem? (f : Flags) : List Char → Option (SetItem × List Char)
  | [] => none
  | '\\' :: cs =>
    match f.escape? cs with
    | some (.literal c, rest) => some (.char c, rest)
    | some (.set s, rest) => some (.set s, rest)
    | _ => none
  | c :: cs => some (.char c, cs)

/-- The character that a dash is followed by, blanks and the mark of a comment left out. If there is
nothing else, it is the one right behind the dash. -/
def Flags.afterDash? (f : Flags) (cs : List Char) : Option Char :=
  if !f.verbose then cs.head?
  else
    let rest := match cs.dropWhile Text.isBlank with
      | '#' :: rest => rest.dropWhile Text.isBlank
      | rest => rest
    rest.head?.or cs.head?

/-- The range between two characters. Where classes hold bytes, both are ASCII. -/
def Flags.charRange? (f : Flags) (lo hi : Char) : Option CharSet :=
  if lo.toNat ≤ hi.toNat && (f.unicode || hi.toNat < 0x80) then some (.range lo.toNat hi.toNat)
  else none

/-- A character, a range or an escape. -/
def Flags.rangeItem? (f : Flags) (cs : List Char) : Option (CharSet × List Char) := do
  let (item, rest) ← f.setItem? cs
  let rest := f.skip rest
  let alone : Option (CharSet × List Char) :=
    match item with
    | .char c => (f.charRange? c c).map (·, rest)
    | .set s => some (s, rest)
  match rest with
  | '-' :: later =>
    if f.afterDash? later == some ']' || f.afterDash? later == some '-' then alone
    else
      match item, ← f.setItem? (f.skip later) with
      | .char lo, (.char hi, rest) => (f.charRange? lo hi).map (·, rest)
      | _, _ => none
  | _ => alone

/-! ## 3. Classes -/

/-- A set operator between parts of a class. -/
def setOperator? : List Char → Option ((CharSet → CharSet → CharSet) × List Char)
  | '&' :: '&' :: rest => some (.inter, rest)
  | '-' :: '-' :: rest => some (CharSet.diff, rest)
  | '~' :: '~' :: rest => some (CharSet.symmDiff, rest)
  | _ => none

/-- What has been read of a class: the part before the last operator with that operator, and the
items since, last first. -/
structure ClassSoFar where
  negated : Bool
  before : Option (SetPart × (CharSet → CharSet → CharSet)) := none
  items : List SetPart := []

namespace ClassSoFar

/-- The part read so far. -/
def value (s : ClassSoFar) (f : Flags) : SetPart :=
  let items := SetPart.union s.items.reverse
  match s.before with
  | some (left, op) => .operate op f left items
  | none => items

/-- The whole class, one level deeper than what it holds. -/
def close? (s : ClassSoFar) (f : Flags) : Option SetPart :=
  let part := s.value f
  let set := f.fold part.set
  (if s.negated then f.negate? set else some set).map fun set => ⟨set, part.depth + 1⟩

def add (s : ClassSoFar) (part : SetPart) : ClassSoFar := { s with items := part :: s.items }

end ClassSoFar

/-- Dashes at the start of a class, which stand for themselves. -/
def Flags.leadingDashes (f : Flags) : (fuel : Nat) → ClassSoFar → List Char →
    ClassSoFar × List Char
  | fuel + 1, s, '-' :: cs => f.leadingDashes fuel (s.add ⟨.single '-', 0⟩) (f.skip cs)
  | _, s, cs => (s, cs)

/-- The start of a class after its opening bracket: a `^` negates it, and a bracket that comes first
stands for itself. -/
def Flags.openClass (f : Flags) (cs : List Char) : ClassSoFar × List Char :=
  let (negated, cs) := match f.skip cs with
    | '^' :: rest => (true, f.skip rest)
    | cs => (false, cs)
  match f.leadingDashes cs.length { negated } cs with
  | (s, ']' :: rest) =>
    if s.items.isEmpty then (s.add ⟨.single ']', 0⟩, rest) else (s, ']' :: rest)
  | opened => opened

/-- Reads a class up to its closing bracket. -/
def Flags.classBody? (f : Flags) : (fuel : Nat) → ClassSoFar → List Char →
    Option (SetPart × List Char)
  | 0, _, _ => none
  | fuel + 1, s, cs =>
    let cs := f.skip cs
    match cs with
    | [] => none
    | ']' :: rest => (s.close? f).map (·, rest)
    | '[' :: rest =>
      match asciiClass? rest with
      | some (set, negated, rest) =>
        match if negated then f.negate? set else some set with
        | some set => f.classBody? fuel (s.add ⟨set, 0⟩) rest
        | none => none
      | none =>
        let (inner, rest) := f.openClass rest
        match f.classBody? fuel inner rest with
        | some (part, rest) => f.classBody? fuel (s.add part) rest
        | none => none
    | _ =>
      match setOperator? cs with
      | some (op, rest) =>
        f.classBody? fuel { s with before := some (s.value f, op), items := [] } rest
      | none =>
        match f.rangeItem? cs with
        | some (set, rest) => f.classBody? fuel (s.add ⟨set, 0⟩) rest
        | none => none

/-- A class after its opening bracket. -/
def Flags.class? (f : Flags) (cs : List Char) : Option (SetPart × List Char) :=
  if !f.canFold then none
  else
    let (s, rest) := f.openClass cs
    f.classBody? (cs.length + 1) s rest

end TaintFlow.Regex
