import TaintFlow.Regex.Syntax

/-!
# Globs

Patterns for paths. `*` and `?` stay within a name; `**` between slashes stands for any number of
folders; `[...]` is a set of characters and `{a,b}` a choice. A glob is read into a regular
expression over the bytes of a path, so `?` takes one byte, and a set with a letter outside ASCII
holds the bytes of that letter.
-/

namespace TaintFlow

/-- A pattern for paths: the expression that a whole path has to match. -/
structure Glob where
  regex : Regex
  deriving Repr, Inhabited

namespace Glob

/-! ## 1. Bytes -/

/-- The bytes of a text, one character for each. -/
def bytes (s : String) : List Char := s.toUTF8.toList.map fun b => Char.ofNat b.toNat

/-- One byte other than a slash. -/
def nameByte : Regex := .chars (.compl (.single '/'))

/-- Any bytes. -/
def anything : Regex := .star (.chars .all)

/-- The bytes of a character, in order. -/
def literal (c : Char) : Regex :=
  .seqAll ((bytes (String.singleton c)).map fun b => .chars (.single b))

/-! ## 2. Pieces -/

/-- A piece of a glob that is being read. The pieces for folders are told apart because two of them
in a row are one. -/
inductive Piece where
  | plain (r : Regex)
  /-- A `**/` at the start. -/
  | leading
  /-- A `/**` at the end. -/
  | trailing
  deriving Repr, Inhabited

namespace Piece

/-- What a piece matches. -/
def regex : Piece → Regex
  | plain r => r
  | leading => .alt (.alt .empty (literal '/')) (.seq anything (literal '/'))
  | trailing => .seq (literal '/') anything

/-- Whether a piece says nothing. -/
def isSilent : Piece → Bool
  | plain .empty => true
  | _ => false

end Piece

/-- Folders between two slashes, which may be one slash. -/
def between : Regex :=
  .alt (literal '/') (.seqAll [literal '/', anything, literal '/'])

/-- Any bytes of a name. -/
def stars : Piece := .plain (.star nameByte)

/-- A choice that is being read: its finished branches and the current one, each from its end. -/
structure Choice where
  finished : List (List Piece) := []
  current : List Piece := []
  deriving Repr, Inhabited

namespace Choice

/-- Adds a piece to the current branch. -/
def push (p : Piece) (c : Choice) : Choice := { c with current := p :: c.current }

/-- What the choice matches: a branch that says nothing is left out. -/
def regex (c : Choice) : Regex :=
  let branches := (c.current :: c.finished).reverse.filter fun b => !b.all Piece.isSilent
  .altAll (branches.map fun b => .seqAll (b.reverse.map Piece.regex))

end Choice

/-! ## 3. Sets of characters -/

/-- The range between two characters of a set. Of a character outside ASCII the range has the outer
bytes as bounds and takes the other bytes one by one. -/
def byteRange (lo hi : Char) : CharSet :=
  let ones (cs : List Char) := cs.foldl (fun set c => CharSet.union set (.single c)) CharSet.none
  if lo = hi then ones (bytes (String.singleton lo))
  else
    let low := bytes (String.singleton lo)
    let high := bytes (String.singleton hi)
    let bounds : CharSet :=
      match low.getLast?, high.head? with
      | some a, some b => .range a.toNat b.toNat
      | _, _ => .none
    .union bounds (.union (ones low.dropLast) (ones high.tail))

/-- A set that is being read: its ranges from the end, and whether a `-` waits for its bound. -/
structure SetSoFar where
  ranges : List (Char × Char) := []
  open? : Bool := false
  first : Bool := true
  deriving Repr, Inhabited

/-- How reading a set ends. -/
inductive SetEnd where
  | closed (ranges : List (Char × Char)) (rest : List Char)
  /-- No bracket closes it. -/
  | unclosed
  /-- A range runs backwards. -/
  | invalid

/-- The set up to its bracket, with what follows. A bracket or dash that comes first is meant
literally, and so is a dash that comes last. -/
def setBody : SetSoFar → List Char → SetEnd
  | _, [] => .unclosed
  | s, c :: rest =>
    if c = ']' ∧ !s.first then
      .closed (if s.open? then ('-', '-') :: s.ranges else s.ranges) rest
    else if c = '-' ∧ !s.first ∧ !s.open? then
      setBody { s with open? := true } rest
    else if s.open? then
      match s.ranges with
      | (lo, _) :: ranges =>
        if c < lo then .invalid
        else setBody { ranges := (lo, c) :: ranges, open? := false, first := false } rest
      | [] => .invalid
    else setBody { ranges := (c, c) :: s.ranges, open? := false, first := false } rest

/-- A set after its opening bracket, with what follows. A bracket that is not closed is meant
literally. -/
def set? (cs : List Char) : Option (Piece × Char × List Char) :=
  let (negated, inner) :=
    match cs with
    | '!' :: rest | '^' :: rest => (true, rest)
    | cs => (false, cs)
  match setBody {} inner with
  | .closed ranges rest =>
    let set := ranges.foldl (fun set (lo, hi) => CharSet.union set (byteRange lo hi)) CharSet.none
    some (.plain (.chars (if negated then .compl set else set)), ']', rest)
  | .unclosed => some (.plain (literal '['), '[', cs)
  | .invalid => none

/-! ## 4. Reading -/

/-- The state of reading: the innermost choice first; the last one is the glob itself. -/
structure Reading where
  before : Option Char := none
  inner : List Choice := []
  outer : Choice := {}
  deriving Repr, Inhabited

namespace Reading

/-- The choice that is being read. -/
def current (s : Reading) : Choice := s.inner.headD s.outer

/-- Changes the choice that is being read. -/
def modify (f : Choice → Choice) (s : Reading) : Reading :=
  match s.inner with
  | c :: rest => { s with inner := f c :: rest }
  | [] => { s with outer := f s.outer }

/-- Adds a piece after a character. -/
def push (p : Piece) (last : Char) (s : Reading) : Reading :=
  { s.modify (Choice.push p) with before := some last }

/-- Reads two stars, given what follows: with slashes around them, or the ends of a branch, they
stand for folders, and otherwise for two single stars. -/
def doubleStar (s : Reading) (rest : List Char) : Reading × List Char :=
  let inChoice := !s.inner.isEmpty
  let two := ((s.push stars '*').push stars '*', rest)
  if s.current.current.isEmpty then
    match rest with
    | [] => (s.push .leading '*', [])
    | '/' :: rest => (s.push .leading '/', rest)
    | _ => two
  else if s.before ≠ some '/' ∧ (!inChoice ∨ (s.before ≠ some ',' ∧ s.before ≠ some '\x7b')) then
    two
  else
    let folders (p : Piece) (last : Char) : Reading :=
      { s.modify fun c =>
          match c.current with
          | .leading :: _ => c
          | .trailing :: _ => c
          | _ :: pieces => { c with current := p :: pieces }
          | [] => c with
        before := some last }
    match rest with
    | [] => (folders .trailing '*', [])
    | '/' :: rest => (folders (.plain between) '/', rest)
    | c :: _ => if inChoice ∧ (c = ',' ∨ c = '\x7d') then (folders .trailing '*', rest) else two

end Reading

/-- Reads pieces to the end; the fuel bounds the number of characters. -/
def read? : (fuel : Nat) → Reading → List Char → Option Reading
  | 0, _, _ => none
  | _ + 1, s, [] => if s.inner.isEmpty then some s else none
  | n + 1, s, c :: rest =>
    match c with
    | '?' => read? n (s.push (.plain nameByte) c) rest
    | '*' =>
      match rest with
      | '*' :: rest => let (s, rest) := s.doubleStar rest; read? n s rest
      | _ => read? n (s.push stars c) rest
    | '[' => do
      let (piece, last, rest) ← set? rest
      read? n (s.push piece last) rest
    | '\x7b' => read? n { s with before := some c, inner := {} :: s.inner } rest
    | '\x7d' =>
      match s.inner with
      | [] => none
      | choice :: inner => read? n ({ s with inner := inner }.push (.plain choice.regex) c) rest
    | ',' =>
      if s.inner.isEmpty then read? n (s.push (.plain (literal c)) c) rest
      else
        read? n { s.modify fun choice => ⟨choice.current :: choice.finished, []⟩ with
          before := some c } rest
    | '\\' =>
      match rest with
      | [] => none
      | escaped :: rest => read? n (s.push (.plain (literal escaped)) escaped) rest
    | c => read? n (s.push (.plain (literal c)) c) rest

/-- Reads a glob. -/
def parse? (text : String) : Option Glob := do
  let cs := text.toList
  let s ← read? (cs.length + 1) {} cs
  let body :=
    match s.outer.current with
    | [.leading] => anything
    | pieces => .seqAll (pieces.reverse.map Piece.regex)
  return ⟨.seqAll [.anchor .textStart, body, .anchor .textEnd]⟩

/-- Whether a path matches. -/
def accepts (g : Glob) (path : String) : Bool :=
  g.regex.matchesIn (String.ofList (bytes path))

end Glob

end TaintFlow
