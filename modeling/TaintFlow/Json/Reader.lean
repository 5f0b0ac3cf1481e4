import TaintFlow.Json.Basic

/-!
# Reading JSON

The reader takes the characters of a text and gives a value with what follows it. Every nested
value uses up at least one character, so the length of the text bounds the depth.
-/

namespace TaintFlow.Json

/-- Drops blanks. -/
def skipBlanks : List Char → List Char
  | [] => []
  | c :: cs => if c = ' ' || c = '\n' || c = '\t' || c = '\r' then skipBlanks cs else c :: cs

/-- Four hexadecimal digits. -/
def hexUnit? (a b c d : Char) : Option Nat :=
  Text.hexNumber? [a, b, c, d]

/-- The character of a pair of surrogates. -/
def joinSurrogates (high low : Nat) : Char :=
  Char.ofNat (0x10000 + (high - 0xD800) * 0x400 + (low - 0xDC00))

/-- The character of a one-letter escape. -/
def shortEscape? : Char → Option Char
  | '"' => some '"'
  | '\\' => some '\\'
  | '/' => some '/'
  | 'n' => some '\n'
  | 't' => some '\t'
  | 'r' => some '\r'
  | 'b' => some (Char.ofNat 8)
  | 'f' => some (Char.ofNat 12)
  | _ => none

/-- The rest of a string after its opening quote; what was read is in reverse. -/
def readString? : (read : List Char) → List Char → Option (String × List Char)
  | _, [] => none
  | read, '"' :: cs => some (String.ofList read.reverse, cs)
  | read, '\\' :: 'u' :: a :: b :: c :: d :: '\\' :: 'u' :: e :: f :: g :: h :: cs => do
    let high ← hexUnit? a b c d
    if 0xD800 ≤ high && high < 0xDC00 then
      let low ← hexUnit? e f g h
      if 0xDC00 ≤ low && low < 0xE000 then readString? (joinSurrogates high low :: read) cs
      else none
    else if 0xDC00 ≤ high && high < 0xE000 then none
    else readString? (Char.ofNat high :: read) ('\\' :: 'u' :: e :: f :: g :: h :: cs)
  | read, '\\' :: 'u' :: a :: b :: c :: d :: cs => do
    let unit ← hexUnit? a b c d
    if 0xD800 ≤ unit && unit < 0xE000 then none
    else readString? (Char.ofNat unit :: read) cs
  | read, '\\' :: c :: cs => do
    readString? ((← shortEscape? c) :: read) cs
  | read, c :: cs => readString? (c :: read) cs
termination_by _ cs => cs.length

/-- Whether a character can stand in a number. -/
def isNumeralChar (c : Char) : Bool :=
  c.isDigit || c = '-' || c = '+' || c = '.' || c = 'e' || c = 'E'

/-- Drops a word at the start. -/
def dropWord? : List Char → List Char → Option (List Char)
  | [], cs => some cs
  | w :: ws, c :: cs => if w = c then dropWord? ws cs else none
  | _ :: _, [] => none

mutual

/-- A value, to a depth. -/
def readValue? : (fuel : Nat) → List Char → Option (Json × List Char)
  | 0, _ => none
  | fuel + 1, cs =>
    match skipBlanks cs with
    | '"' :: rest => (readString? [] rest).map fun (s, rest) => (string s, rest)
    | '[' :: rest =>
      match skipBlanks rest with
      | ']' :: rest => some (array [], rest)
      | rest => (readElements? fuel [] rest).map fun (es, rest) => (array es, rest)
    | '\x7b' :: rest =>
      match skipBlanks rest with
      | '\x7d' :: rest => some (object [], rest)
      | rest => (readMembers? fuel [] rest).map fun (ms, rest) => (object ms, rest)
    | 'n' :: rest => (dropWord? "ull".toList rest).map fun rest => (null, rest)
    | 't' :: rest => (dropWord? "rue".toList rest).map fun rest => (bool true, rest)
    | 'f' :: rest => (dropWord? "alse".toList rest).map fun rest => (bool false, rest)
    | rest =>
      let numeral := rest.takeWhile isNumeralChar
      if numeral.isEmpty then none
      else some (number (String.ofList numeral), rest.dropWhile isNumeralChar)

/-- The elements of an array up to its end; those read are in reverse. -/
def readElements? : (fuel : Nat) → List Json → List Char → Option (List Json × List Char)
  | 0, _, _ => none
  | fuel + 1, read, cs => do
    let (e, rest) ← readValue? fuel cs
    match skipBlanks rest with
    | ',' :: rest => readElements? fuel (e :: read) rest
    | ']' :: rest => some ((e :: read).reverse, rest)
    | _ => none

/-- The members of an object up to its end; those read are in reverse. -/
def readMembers? : (fuel : Nat) → List (String × Json) → List Char →
    Option (List (String × Json) × List Char)
  | 0, _, _ => none
  | fuel + 1, read, cs => do
    match skipBlanks cs with
    | '"' :: rest =>
      let (key, rest) ← readString? [] rest
      match skipBlanks rest with
      | ':' :: rest =>
        let (v, rest) ← readValue? fuel rest
        match skipBlanks rest with
        | ',' :: rest => readMembers? fuel ((key, v) :: read) rest
        | '\x7d' :: rest => some (((key, v) :: read).reverse, rest)
        | _ => none
      | _ => none
    | _ => none

end

/-- Reads a text that holds one value. -/
def parse? (text : String) : Option Json := do
  let cs := text.toList
  let (value, rest) ← readValue? (2 * cs.length + 2) cs
  if (skipBlanks rest).isEmpty then some value else none

end TaintFlow.Json
