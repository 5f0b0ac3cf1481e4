import TaintFlow.Regex.Bracket
import TaintFlow.Regex.Size

/-!
# Reading regular expressions

The reader takes the expression character by character. Flags set inside a group hold to the end
of that group. An expression that cannot be read, that is nested too deep or whose program is too
large is no pattern at all, so the reader answers an expression or none.
-/

namespace TaintFlow.Regex

/-! ## 1. Repetition -/

/-- A number with blanks around it, as the whole of a text. -/
def countNumber? (cs : List Char) : Option Nat :=
  let cs := ((cs.dropWhile Text.isBlank).reverse.dropWhile Text.isBlank).reverse
  if cs.isEmpty || !cs.all Char.isDigit then none
  else
    let n := cs.foldl (fun n c => n * 10 + (c.toNat - 48)) 0
    if n < Nat.pow 2 32 then some n else none

/-- The bounds of a counted repetition, from what stands between its braces. -/
def countBounds? (cs : List Char) : Option (Nat × Option Nat) := do
  let lo ← countNumber? (cs.takeWhile (· ≠ ','))
  match cs.dropWhile (· ≠ ',') with
  | [] => return (lo, some lo)
  | [_] => return (lo, none)
  | _ :: later =>
    let hi ← countNumber? later
    guard (lo ≤ hi)
    return (lo, some hi)

/-- What follows a mark of laziness, which says nothing here. -/
def dropLazy : List Char → List Char
  | '?' :: rest => rest
  | cs => cs

/-- The repetition operator at the start of a text: its bounds and the rest. The outer option says
whether there is one, the inner whether it is well formed. -/
def Flags.repetition? (f : Flags) : List Char → Option (Option (Nat × Option Nat × List Char))
  | '*' :: rest => some (some (0, none, dropLazy rest))
  | '+' :: rest => some (some (1, none, dropLazy rest))
  | '?' :: rest => some (some (0, some 1, dropLazy rest))
  | '\x7b' :: rest => some do
    let (inside, rest) ← f.braced? false rest
    let (lo, hi) ← countBounds? inside
    return (lo, hi, dropLazy (f.skip rest))
  | _ => none

/-! ## 2. Groups -/

/-- Sets or clears a flag by its letter. -/
def setFlag? (f : Flags) (value : Bool) : Char → Option Flags
  | 'i' => some { f with ignoreCase := value }
  | 'm' => some { f with multiLine := value }
  | 's' => some { f with dotAll := value }
  | 'x' => some { f with verbose := value }
  | 'u' => some { f with unicode := value }
  | 'R' => some { f with returns := value }
  | 'U' => some f
  | _ => none

/-- Flag letters, with those after `-` cleared. Each letter stands once, and something follows the
`-`. -/
def flagLetters? : Flags → (value : Bool) → (seen : List Char) → List Char →
    Option (Flags × List Char)
  | _, _, _, [] => none
  | f, value, seen, c :: cs =>
    if c = '-' then
      if value && (cs.head?.elim false fun d => d ≠ ')' ∧ d ≠ ':') then
        flagLetters? f false seen cs
      else none
    else if c = ')' ∨ c = ':' then if seen.isEmpty then none else some (f, c :: cs)
    else if seen.contains c then none
    else match setFlag? f value c with
      | some f => flagLetters? f value (c :: seen) cs
      | none => none

/-- How a group opens. -/
inductive GroupHead where
  /-- A group with the flags inside it; it has a number, and perhaps a name. -/
  | numbered (name : Option (List Char)) (rest : List Char)
  /-- A group without a number, with the flags inside it. -/
  | plain (inside : Flags) (rest : List Char)
  /-- Flags for the rest of the enclosing group. -/
  | flags (after : Flags) (rest : List Char)

/-- Whether a character may stand in the name of a group. -/
def isGroupNameChar (first : Bool) (c : Char) : Bool :=
  c == '_' ||
    (if first then CharClass.isAlphabetic c
      else c == '.' || c == '[' || c == ']' || CharClass.isAlphanumeric c)

/-- A group name up to its closing `>`, with what follows. -/
def groupName? (cs : List Char) : Option (List Char × List Char) :=
  let name := cs.takeWhile (· ≠ '>')
  match name, cs.drop name.length with
  | first :: others, _ :: rest =>
    if isGroupNameChar true first && others.all (isGroupNameChar false) then some (name, rest)
    else none
  | _, _ => none

/-- What follows an opening parenthesis. -/
def groupHead? (f : Flags) (cs : List Char) : Option GroupHead :=
  match f.skip cs with
  | '?' :: 'P' :: '<' :: rest => (groupName? rest).map fun (name, rest) => .numbered name rest
  | '?' :: '<' :: rest => (groupName? rest).map fun (name, rest) => .numbered name rest
  | '?' :: ':' :: rest => some (.plain f rest)
  | '?' :: rest =>
    match flagLetters? f true [] rest with
    | some (inside, ':' :: rest) => some (.plain inside rest)
    | some (after, ')' :: rest) => some (.flags after rest)
    | _ => none
  | rest => some (.numbered none rest)

/-! ## 3. Expressions -/

/-- An expression, and how many levels of it are nested. -/
structure Part where
  regex : Regex
  depth : Nat := 0

namespace Part

/-- The deepest of some parts. -/
def deepest (parts : List Part) : Nat := (parts.map Part.depth).foldl max 0

/-- Parts one after the other, where flags are no expression but stand in the row. -/
def row : List (Option Part) → Part
  | [] => ⟨.empty, 0⟩
  | [p] => p.getD ⟨.empty, 0⟩
  | parts => ⟨.seqAll ((parts.filterMap id).map Part.regex), deepest (parts.filterMap id) + 1⟩

/-- Any of some parts. -/
def choice : List Part → Part
  | [p] => p
  | parts => ⟨.altAll (parts.map Part.regex), deepest parts + 1⟩

end Part

/-- One character of an expression that is not an operator. -/
def atom? (f : Flags) : List Char → Option (Part × List Char)
  | [] => none
  | '.' :: cs => f.dot?.map fun set => (⟨.chars set, 0⟩, cs)
  | '^' :: cs =>
    some (⟨.anchor (if f.multiLine then .lineStart f.returns else .textStart), 0⟩, cs)
  | '$' :: cs => some (⟨.anchor (if f.multiLine then .lineEnd f.returns else .textEnd), 0⟩, cs)
  | '[' :: cs => (f.class? cs).map fun (part, rest) => (⟨.chars part.set, part.depth⟩, rest)
  | '\\' :: cs =>
    match f.escape? cs with
    | some (.literal c, rest) => literal? f c rest
    | some (.set s, rest) => some (⟨.chars s, 0⟩, rest)
    | some (.anchor a, rest) => some (⟨.anchor a, 0⟩, rest)
    | none => none
  | c :: cs => literal? f c cs
where
  /-- A character that stands for itself. -/
  literal? (f : Flags) (c : Char) (rest : List Char) : Option (Part × List Char) :=
    if f.canFold then some (⟨.chars (f.fold (.single c)), 0⟩, rest) else none

/-- What has been read of a group. -/
structure GroupSoFar where
  flags : Flags
  /-- The finished alternatives, last first. -/
  alternatives : List Part := []
  /-- The items of the current alternative, last first; flags are no expression. -/
  items : List (Option Part) := []
  /-- The names of all groups so far: each stands once in an expression. -/
  names : List (List Char) := []

namespace GroupSoFar

/-- The current alternative. -/
def current (s : GroupSoFar) : Part := .row s.items.reverse

/-- The whole group. -/
def value (s : GroupSoFar) : Part := .choice (s.current :: s.alternatives).reverse

def push (s : GroupSoFar) (p : Part) : GroupSoFar := { s with items := some p :: s.items }

/-- Adds a group that has been read. -/
def pushGroup (s inner : GroupSoFar) (wrap : Regex → Regex) : GroupSoFar :=
  { s.push ⟨wrap inner.value.regex, inner.value.depth + 1⟩ with names := inner.names }

end GroupSoFar

/-- Reads a group up to its closing parenthesis or the end of the text, which is not taken. -/
def group? : (fuel : Nat) → GroupSoFar → List Char → Option (GroupSoFar × List Char)
  | 0, _, _ => none
  | fuel + 1, s, cs =>
    let cs := s.flags.skip cs
    match cs with
    | [] => some (s, [])
    | ')' :: _ => some (s, cs)
    | '|' :: rest =>
      group? fuel { s with alternatives := s.current :: s.alternatives, items := [] } rest
    | '(' :: rest =>
      match groupHead? s.flags rest with
      | none => none
      | some (.flags after rest) =>
        group? fuel { s with flags := after, items := none :: s.items } rest
      | some (.plain inside rest) =>
        match group? fuel { flags := inside, names := s.names } rest with
        | some (inner, ')' :: rest) => group? fuel (s.pushGroup inner id) rest
        | _ => none
      | some (.numbered name rest) =>
        if name.any s.names.contains then none
        else match group? fuel { flags := s.flags, names := name.toList ++ s.names } rest with
          | some (inner, ')' :: rest) => group? fuel (s.pushGroup inner .group) rest
          | _ => none
    | _ =>
      match s.flags.repetition? cs with
      | some none => none
      | some (some (lo, hi, rest)) =>
        match s.items with
        | some p :: items =>
          group? fuel { s with items := some ⟨.times p.regex lo hi, p.depth + 1⟩ :: items } rest
        | _ => none
      | none =>
        match atom? s.flags cs with
        | some (p, rest) => group? fuel (s.push p) rest
        | none => none

/-- How far an expression may be nested. -/
def maxDepth : Nat := 250

/-- Reads an expression. -/
def parse? (text : String) : Option Regex :=
  let cs := text.toList
  match group? (cs.length + 1) { flags := {} } cs with
  | some (s, []) =>
    let part := s.value
    if part.depth ≤ maxDepth && part.regex.fits then some part.regex else none
  | _ => none

end TaintFlow.Regex
