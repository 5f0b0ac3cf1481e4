/-!
# Text operations

The few operations on text that names, paths and messages need: cutting at a character, testing
and stripping a start or an end, ASCII case. Each is defined on the list of characters, so its
laws are laws of lists.
-/

namespace TaintFlow.Text

/-! ## 1. Cutting and joining -/

/-- Cuts a list at every separator; there is one piece more than separators. -/
def splitChars (sep : Char) : List Char → List (List Char)
  | [] => [[]]
  | c :: cs =>
    if c = sep then [] :: splitChars sep cs
    else match splitChars sep cs with
      | [] => [[c]]
      | p :: ps => (c :: p) :: ps

/-- Cuts a text at every occurrence of a character. -/
def split (sep : Char) (s : String) : List String :=
  (splitChars sep s.toList).map String.ofList

/-- Cuts at the first occurrence of a character. -/
def splitFirst? (sep : Char) (s : String) : Option (String × String) :=
  let cs := s.toList
  match cs.dropWhile (· ≠ sep) with
  | [] => none
  | _ :: after => some (String.ofList (cs.takeWhile (· ≠ sep)), String.ofList after)

/-- Cuts at the last occurrence of a character. -/
def splitLast? (sep : Char) (s : String) : Option (String × String) :=
  let cs := s.toList.reverse
  match cs.dropWhile (· ≠ sep) with
  | [] => none
  | _ :: before =>
    some (String.ofList before.reverse, String.ofList (cs.takeWhile (· ≠ sep)).reverse)

/-- Joins pieces with a separator between neighbours. -/
def join (sep : String) (pieces : List String) : String := String.intercalate sep pieces

/-- The lines of a text. A newline ends a line, and a carriage return before it belongs to the
end; text after the last newline is a line of its own. -/
def lines (s : String) : List String :=
  let pieces := splitChars '\n' s.toList
  let pieces := if pieces.getLast? == some [] then pieces.dropLast else pieces
  pieces.map fun p => String.ofList (if p.getLast? == some '\r' then p.dropLast else p)

/-! ## 2. Starts and ends -/

/-- Whether `s` starts with `p`. -/
def startsWith (s p : String) : Bool := p.toList.isPrefixOf s.toList

/-- Whether `s` ends with `p`. -/
def endsWith (s p : String) : Bool := p.toList.isSuffixOf s.toList

/-- What follows `p`, if `s` starts with it. -/
def stripStart? (s p : String) : Option String :=
  if startsWith s p then some (String.ofList (s.toList.drop p.length)) else none

/-- Strips every leading occurrence of a character. -/
def trimStart (c : Char) (s : String) : String := String.ofList (s.toList.dropWhile (· = c))

/-- Whether a character occurs. -/
def hasChar (s : String) (c : Char) : Bool := s.toList.contains c

/-! ## 3. Characters -/

/-- Unicode's `White_Space`, as closed ranges of code points. -/
def blankRanges : List (Nat × Nat) :=
  [(9, 13), (0x20, 0x20), (0x85, 0x85), (0xA0, 0xA0), (0x1680, 0x1680), (0x2000, 0x200A),
   (0x2028, 0x2029), (0x202F, 0x202F), (0x205F, 0x205F), (0x3000, 0x3000)]

/-- The characters that surround a word without belonging to it. -/
def isBlank (c : Char) : Bool := blankRanges.any fun r => r.1 ≤ c.toNat && c.toNat ≤ r.2

/-- Drops blanks at both ends. -/
def trimBlank (s : String) : String :=
  String.ofList ((s.toList.dropWhile isBlank).reverse.dropWhile isBlank).reverse

/-- ASCII letters in lower case; every other character stays. -/
def lowerAscii (s : String) : String := s.map fun c => if c.isUpper then c.toLower else c

/-- Replaces a character throughout. -/
def replaceChar (old new : Char) (s : String) : String := s.map fun c => if c = old then new else c

/-- A text repeated. -/
def repeated (n : Nat) (s : String) : String := String.join (List.replicate n s)

/-- Blanks in front, up to a width in characters. -/
def padStart (width : Nat) (s : String) : String := repeated (width - s.length) " " ++ s

/-- The value of a hexadecimal digit. -/
def hexDigit? (c : Char) : Option Nat :=
  if c.isDigit then some (c.toNat - 48)
  else if 'a' ≤ c && c ≤ 'f' then some (c.toNat - 87)
  else if 'A' ≤ c && c ≤ 'F' then some (c.toNat - 55)
  else none

/-- The number that hexadecimal digits write; no digits write zero. -/
def hexNumber? (digits : List Char) : Option Nat :=
  digits.foldlM (fun n c => (hexDigit? c).map (n * 16 + ·)) 0

/-- The number of bytes of a text. -/
def byteCount (cs : List Char) : Nat := cs.foldl (fun n c => n + c.utf8Size) 0

end TaintFlow.Text
