import TaintFlow.Regex.Syntax

/-!
# Flags and escapes

The flags under which a piece of an expression is read, and what stands behind a backslash. A
reader takes the characters that are left and gives back those that follow, or none if the
expression cannot be read.
-/

namespace TaintFlow.Regex

/-! ## 1. Flags -/

/-- The flags in force. -/
structure Flags where
  ignoreCase : Bool := false
  multiLine : Bool := false
  dotAll : Bool := false
  /-- Blanks and comments in the expression mean nothing. -/
  verbose : Bool := false
  /-- Classes hold all characters of Unicode, and not bytes. -/
  unicode : Bool := true
  /-- A carriage return ends a line, alone or before a line feed. -/
  returns : Bool := false
  deriving DecidableEq, Repr

namespace Flags

/-- Whether characters can be told apart by the flags: letters of either case are only known within
ASCII, so ignoring case over all of Unicode is refused. -/
def canFold (f : Flags) : Bool := !(f.ignoreCase && f.unicode)

/-- A set of characters under the flags. -/
def fold (f : Flags) (set : CharSet) : CharSet := if f.ignoreCase then .anyCase set else set

/-- The digits: all decimal digits, or the ASCII ones. -/
def digits (f : Flags) : CharSet := if f.unicode then .digit else .range 48 57

/-- The characters of words. -/
def wordChars (f : Flags) : CharSet :=
  if f.unicode then .word
  else .unionAll [.range 48 57, .range 65 90, .single '_', .range 97 122]

/-- The blanks. -/
def blanks (f : Flags) : CharSet :=
  if f.unicode then .blank else .union (.range 9 13) (.single ' ')

/-- The complement of a set. A set of bytes has none: it would hold parts of characters. -/
def negate? (f : Flags) (set : CharSet) : Option CharSet :=
  if f.unicode then some (.compl set) else none

/-- The characters that a dot stands for. -/
def dot? (f : Flags) : Option CharSet :=
  if !f.unicode then none
  else if f.dotAll then some .all
  else if f.returns then some (.compl (.union (.single '\n') (.single '\r')))
  else some (.compl (.single '\n'))

end Flags

/-! ## 2. Blanks -/

/-- Drops blanks and comments; a comment runs to the end of its line. -/
def dropComments : (inComment : Bool) → List Char → List Char
  | _, [] => []
  | true, c :: cs => dropComments (c ≠ '\n') cs
  | false, c :: cs =>
    if Text.isBlank c then dropComments false cs
    else if c = '#' then dropComments true cs
    else c :: cs

/-- Drops what the flags say means nothing. -/
def Flags.skip (f : Flags) (cs : List Char) : List Char :=
  if f.verbose then dropComments false cs else cs

/-- What stands before a closing brace, without what means nothing, and what follows the brace. -/
def Flags.braced? (f : Flags) : (inComment : Bool) → List Char → Option (List Char × List Char)
  | _, [] => none
  | true, c :: cs => f.braced? (c ≠ '\n') cs
  | false, c :: cs =>
    if f.verbose && Text.isBlank c then f.braced? false cs
    else if f.verbose && c = '#' then f.braced? true cs
    else if c = '\x7d' then some ([], cs)
    else (f.braced? false cs).map fun (inside, rest) => (c :: inside, rest)

/-! ## 3. Characters by their number -/

/-- The number that hexadecimal digits write, if there are any. -/
def hexNumber? (digits : List Char) : Option Nat :=
  if digits.isEmpty then none else Text.hexNumber? digits

/-- The character of a code point, if it is one. -/
def scalar? (n : Nat) : Option Char :=
  if n < 0xD800 ∨ (0xDFFF < n ∧ n < 0x110000) then some (Char.ofNat n) else none

/-- A fixed number of characters, with what means nothing left out behind each. -/
def Flags.take? (f : Flags) : (count : Nat) → List Char → Option (List Char × List Char)
  | 0, cs => some ([], cs)
  | _ + 1, [] => none
  | n + 1, c :: cs => (f.take? n (f.skip cs)).map fun (taken, rest) => (c :: taken, rest)

/-- A character written by its code point: a fixed number of digits, or any number in braces. The
flag says which of the two it was. -/
def Flags.code? (f : Flags) (width : Nat) (cs : List Char) : Option (Char × Bool × List Char) :=
  match f.skip cs with
  | '\x7b' :: rest => do
    let (digits, rest) ← f.braced? false rest
    let c ← (hexNumber? digits).bind scalar?
    return (c, true, f.skip rest)
  | cs => do
    let (digits, rest) ← f.take? width cs
    let c ← (hexNumber? digits).bind scalar?
    return (c, false, rest)

/-! ## 4. Properties -/

/-- The name of a property as it is looked up: without blanks, dashes, underscores and a leading
`is`, in lower case. -/
def looseName (name : List Char) : String :=
  let plain := match name with
    | i :: s :: rest => if i.toLower = 'i' ∧ s.toLower = 's' then rest else name
    | _ => name
  String.ofList ((plain.filter fun c => c ≠ ' ' && c ≠ '_' && c ≠ '-' && c.toNat < 0x80).map
    Char.toLower)

/-- The decimal digits and the blanks are the properties that are known. A property of general
categories may be written with the name of that property. -/
def property? (text : List Char) : Option CharSet :=
  let category (value : List Char) : Option CharSet :=
    if ["decimalnumber", "digit", "nd"].contains (looseName value) then some .digit else none
  let valued (name value : List Char) : Option CharSet :=
    if ["generalcategory", "gc"].contains (looseName name) then category value else none
  let cutAt (c : Char) : Option (List Char × List Char) :=
    if text.contains c then some (text.takeWhile (· ≠ c), (text.dropWhile (· ≠ c)).drop 1)
    else none
  match cutAt '!', cutAt ':', cutAt '=' with
  | some (name, '=' :: value), _, _ => valued name value
  | _, some (name, value), _ => valued name value
  | _, _, some (name, value) => valued name value
  | _, _, _ =>
    if ["space", "whitespace", "wspace"].contains (looseName text) then some .blank
    else category text

/-! ## 5. Escapes -/

/-- What an escape stands for. -/
inductive Escape where
  | literal (c : Char)
  | set (s : CharSet)
  | anchor (a : Anchor)

/-- Whether a character may stand behind a backslash for itself. -/
def isEscapable (c : Char) : Bool := c.toNat < 0x80 && !c.isAlphanum && c != '<' && c != '>'

/-- The names of word edges in braces after `\b`. -/
def wordEdges : List (String × WordEdge) :=
  [("start", .start), ("end", .finish), ("start-half", .startHalf), ("end-half", .finishHalf)]

/-- The edge after `\b`. A word in braces names it; other braces hold a count and are left alone. -/
def Flags.wordEdge? (f : Flags) (cs : List Char) : Option (WordEdge × List Char) :=
  match cs with
  | '\x7b' :: inner => do
    let (name, rest) ← f.braced? false inner
    if (name.head?.map fun c => c.isAlpha || c = '-').getD false then
      let edge ← wordEdges.lookup (String.ofList name)
      return (edge, rest)
    else return (.some, cs)
  | _ => some (.some, cs)

/-- A character of two hexadecimal digits is a byte where classes hold bytes, and there has to be
ASCII. -/
def Flags.byteCode? (f : Flags) (cs : List Char) : Option (Char × List Char) :=
  match f.code? 2 cs with
  | some (c, inBraces, rest) =>
    if !f.unicode && !inBraces && 0x80 ≤ c.toNat then none else some (c, rest)
  | none => none

/-- The property after `\p`. -/
def Flags.propertyEscape? (f : Flags) (negated : Bool) (cs : List Char) :
    Option (Escape × List Char) :=
  match f.skip cs with
  | '\x7b' :: rest => do
    let (text, rest) ← f.braced? false rest
    let set ← property? text
    guard (f.unicode && !f.ignoreCase)
    return (.set (if negated then .compl set else set), rest)
  | _ => none

/-- The escape after a backslash. -/
def Flags.escape? (f : Flags) : List Char → Option (Escape × List Char)
  | [] => none
  | c :: cs =>
    let literal (c : Char) : Option (Escape × List Char) := some (.literal c, cs)
    let edge (e : WordEdge) : Escape := .anchor (.word e (!f.unicode))
    match c with
    | 'd' => some (.set f.digits, cs)
    | 'D' => (f.negate? f.digits).map (.set ·, cs)
    | 's' => some (.set f.blanks, cs)
    | 'S' => (f.negate? f.blanks).map (.set ·, cs)
    | 'w' => some (.set f.wordChars, cs)
    | 'W' => (f.negate? f.wordChars).map (.set ·, cs)
    | 'p' => f.propertyEscape? false cs
    | 'P' => f.propertyEscape? true cs
    | 'b' => (f.wordEdge? cs).map fun (e, rest) => (edge e, rest)
    | 'B' => some (edge .none, cs)
    | 'A' => some (.anchor .textStart, cs)
    | 'z' => some (.anchor .textEnd, cs)
    | '<' => some (edge .start, cs)
    | '>' => some (edge .finish, cs)
    | 'a' => literal '\x07'
    | 'f' => literal '\x0c'
    | 't' => literal '\t'
    | 'n' => literal '\n'
    | 'r' => literal '\r'
    | 'v' => literal '\x0b'
    | 'x' => (f.byteCode? cs).map fun (c, rest) => (.literal c, rest)
    | 'u' => (f.code? 4 cs).map fun (c, _, rest) => (.literal c, rest)
    | 'U' => (f.code? 8 cs).map fun (c, _, rest) => (.literal c, rest)
    | _ => if isEscapable c then literal c else none

end TaintFlow.Regex
