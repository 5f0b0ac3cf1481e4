import TaintFlow.Decimal.Binary64
import TaintFlow.Text
import TaintFlow.Toml.Basic

/-!
# Reading TOML

A document is read line by line into statements. Values are read from the characters of the text
together with what follows them. Arrays and tables in braces may be nested `maxNesting` deep, and a
key has no more parts than that.
-/

namespace TaintFlow.Toml

/-- How deep values may be nested, and how many parts a key may have. -/
def maxNesting : Nat := 80

/-! ## 1. Blanks and comments -/

/-- Whether a character may stand in a comment or a quoted text. -/
def isPrintable (c : Char) : Bool := c = '\t' || (' ' ≤ c && c ≠ Char.ofNat 127)

/-- Drops blanks within a line. -/
def skipSpace (cs : List Char) : List Char := cs.dropWhile fun c => c = ' ' || c = '\t'

/-- Drops a comment. -/
def skipComment : List Char → List Char
  | '#' :: rest => rest.dropWhile isPrintable
  | cs => cs

/-- Drops a line break. -/
def lineBreak? : List Char → Option (List Char)
  | '\n' :: rest => some rest
  | '\r' :: '\n' :: rest => some rest
  | _ => none

/-- Drops the rest of a line that has nothing more to say. -/
def lineEnd? (cs : List Char) : Option (List Char) :=
  match skipComment (skipSpace cs) with
  | [] => some []
  | cs => lineBreak? cs

/-- Drops blanks, comments and line breaks; the fuel bounds the number of lines. -/
def skipLines : (fuel : Nat) → List Char → List Char
  | 0, cs => cs
  | n + 1, cs =>
    let cs := skipComment (skipSpace cs)
    match lineBreak? cs with
    | some rest => skipLines n rest
    | none => cs

/-! ## 2. Quoted texts -/

/-- The character of a code in hexadecimal digits. -/
def codeChar? (digits : List Char) : Option Char := do
  let code ← Text.hexNumber? digits
  if h : code.isValidChar then some (Char.ofNatAux code h) else none

/-- An escape after its backslash, with what follows. -/
def escape? : List Char → Option (Char × List Char)
  | 'b' :: rest => some (Char.ofNat 8, rest)
  | 't' :: rest => some ('\t', rest)
  | 'n' :: rest => some ('\n', rest)
  | 'f' :: rest => some (Char.ofNat 12, rest)
  | 'r' :: rest => some ('\r', rest)
  | 'e' :: rest => some (Char.ofNat 27, rest)
  | '"' :: rest => some ('"', rest)
  | '\\' :: rest => some ('\\', rest)
  | 'x' :: rest =>
    if rest.length < 2 then none else (codeChar? (rest.take 2)).map (·, rest.drop 2)
  | 'u' :: rest =>
    if rest.length < 4 then none else (codeChar? (rest.take 4)).map (·, rest.drop 4)
  | 'U' :: rest =>
    if rest.length < 8 then none else (codeChar? (rest.take 8)).map (·, rest.drop 8)
  | _ => none

/-- A text in double quotes after the first, with what follows; what was read is in reverse. The
fuel bounds the number of characters. -/
def basic? : (fuel : Nat) → (read : List Char) → List Char → Option (String × List Char)
  | 0, _, _ => none
  | _ + 1, _, [] => none
  | n + 1, read, c :: rest =>
    if c = '"' then some (String.ofList read.reverse, rest)
    else if c = '\\' then (escape? rest).bind fun (e, rest) => basic? n (e :: read) rest
    else if isPrintable c then basic? n (c :: read) rest
    else none

/-- A text in single quotes after the first, with what follows. -/
def literal? (cs : List Char) : Option (String × List Char) :=
  let inner := cs.takeWhile fun c => c ≠ '\'' && isPrintable c
  match cs.drop inner.length with
  | '\'' :: rest => some (String.ofList inner, rest)
  | _ => none

/-- The end of a text in three quotes: up to two more quotes belong to the text. -/
def closing? (quote : Char) (cs : List Char) : Option (List Char × List Char) :=
  let quotes := cs.takeWhile (· = quote)
  if quotes.length < 3 then none
  else
    let inner := min (quotes.length - 3) 2
    some (List.replicate inner quote, cs.drop (inner + 3))

/-- A backslash at the end of a line: drops it with all blanks and line breaks after it. -/
def lineJoin? (cs : List Char) : Option (List Char) :=
  (lineBreak? (skipSpace cs)).map fun rest =>
    rest.dropWhile fun c => c = ' ' || c = '\t' || c = '\n' || c = '\r'

/-- A text in three quotes, after them. A line break belongs to it as it is written. -/
def multiline? (quote : Char) : (fuel : Nat) → (read : List Char) → List Char →
    Option (String × List Char)
  | 0, _, _ => none
  | _ + 1, _, [] => none
  | n + 1, read, c :: rest =>
    match closing? quote (c :: rest) with
    | some (inner, rest) => some (String.ofList (read.reverse ++ inner), rest)
    | none =>
      if c = '\\' && quote = '"' then
        match lineJoin? rest with
        | some rest => multiline? quote n read rest
        | none => (escape? rest).bind fun (e, rest) => multiline? quote n (e :: read) rest
      else if isPrintable c || (lineBreak? (c :: rest)).isSome then multiline? quote n (c :: read) rest
      else none

/-- A line break right after three quotes does not count. -/
def dropFirstBreak (cs : List Char) : List Char := (lineBreak? cs).getD cs

/-- A quoted text with what follows. -/
def quoted? (cs : List Char) : Option (String × List Char) :=
  match cs with
  | '"' :: '"' :: '"' :: rest =>
    let rest := dropFirstBreak rest
    multiline? '"' (rest.length + 1) [] rest
  | '\'' :: '\'' :: '\'' :: rest =>
    let rest := dropFirstBreak rest
    multiline? '\'' (rest.length + 1) [] rest
  | '"' :: rest => basic? (rest.length + 1) [] rest
  | '\'' :: rest => literal? rest
  | _ => none

/-! ## 3. Keys -/

/-- Whether a character may stand in a key without quotes. -/
def isBare (c : Char) : Bool := c.isAlphanum || c = '_' || c = '-'

/-- One part of a key with what follows. -/
def keyPart? (cs : List Char) : Option (String × List Char) :=
  match cs with
  | '"' :: rest => basic? (rest.length + 1) [] rest
  | '\'' :: rest => literal? rest
  | cs =>
    let bare := cs.takeWhile isBare
    if bare.isEmpty then none else some (String.ofList bare, cs.drop bare.length)

/-- A dotted key with what follows, without the blanks after it. Its parts but the last come first;
the fuel bounds their number. -/
def key? : (fuel : Nat) → (path : List String) → List Char →
    Option (List String × String × List Char)
  | 0, _, _ => none
  | n + 1, path, cs => do
    let (part, rest) ← keyPart? (skipSpace cs)
    match skipSpace rest with
    | '.' :: rest => key? n (path ++ [part]) rest
    | rest => some (path, part, rest)

/-! ## 4. Numbers, words and dates -/

/-- Digits of a class with single underscores between them. -/
def isDigitRun (isDigit : Char → Bool) (cs : List Char) : Bool :=
  (Text.splitChars '_' cs).all fun run => !run.isEmpty && run.all isDigit

/-- The number of digits in a base. -/
def digitValue (base : Nat) (cs : List Char) : Nat :=
  cs.foldl (fun n c => n * base + ((Text.hexDigit? c).getD 0)) 0

/-- The number of digits in a base with underscores between them. -/
def inBase? (base : Nat) (cs : List Char) : Option Nat :=
  if isDigitRun (fun c => (Text.hexDigit? c).any (· < base)) cs then
    some (digitValue base (cs.filter (· ≠ '_')))
  else none

/-- A decimal number: no zero comes before other digits. -/
def decimal? (cs : List Char) : Option Nat :=
  match cs with
  | '0' :: _ :: _ => none
  | cs => inBase? 10 cs

/-- Splits a sign from a number. -/
def signed (cs : List Char) : Bool × List Char :=
  match cs with
  | '-' :: rest => (true, rest)
  | '+' :: rest => (false, rest)
  | cs => (false, cs)

/-- A whole number. -/
def integer? (cs : List Char) : Option Int :=
  match cs with
  | '0' :: 'x' :: rest => (inBase? 16 rest).map Int.ofNat
  | '0' :: 'o' :: rest => (inBase? 8 rest).map Int.ofNat
  | '0' :: 'b' :: rest => (inBase? 2 rest).map Int.ofNat
  | cs =>
    let (negative, digits) := signed cs
    (decimal? digits).map fun n => if negative then -(n : Int) else n

/-- Whether a decimal number `digits * 10 ^ exponent` is not too large for a double. -/
def isInRange (digits : Nat) (exponent : Int) : Bool :=
  let places : Int := (toString digits).length + exponent
  digits = 0 || places < -400 ||
    (places < 400 &&
      (if 0 ≤ exponent then Binary64.nearest? (digits * Nat.pow 10 exponent.toNat) 1
        else Binary64.nearest? digits (Nat.pow 10 (-exponent).toNat)).isSome)

/-- Whether the text is a number with a point or an exponent, or a name of such a number. -/
def isFloat (cs : List Char) : Bool :=
  let (_, body) := signed cs
  if body == "inf".toList || body == "nan".toList then true
  else
    let mantissa := body.takeWhile fun c => c ≠ 'e' && c ≠ 'E'
    let exponent := body.drop mantissa.length
    let whole := mantissa.takeWhile (· ≠ '.')
    let fraction := mantissa.drop whole.length
    let digits := isDigitRun Char.isDigit
    let value (cs : List Char) := digitValue 10 (cs.filter (· ≠ '_'))
    let (negative, power) := signed exponent.tail
    let places := (fraction.tail.filter (· ≠ '_')).length
    (decimal? whole).isSome && (fraction.isEmpty || digits fraction.tail) &&
      (exponent.isEmpty || digits power) && !(fraction.isEmpty && exponent.isEmpty) &&
      isInRange (value (whole ++ fraction.tail))
        ((if negative then -(value power : Int) else value power) - places)

/-- Two digits of a number up to a bound. -/
def twoDigits? (lo hi : Nat) (a b : Char) : Option Nat := do
  guard (a.isDigit && b.isDigit)
  let n := digitValue 10 [a, b]
  if lo ≤ n ∧ n ≤ hi then some n else none

/-- The number of days of a month. -/
def daysIn (year month : Nat) : Nat :=
  if month = 2 then
    if year % 4 = 0 ∧ (year % 100 ≠ 0 ∨ year % 400 = 0) then 29 else 28
  else if month = 4 ∨ month = 6 ∨ month = 9 ∨ month = 11 then 30 else 31

/-- What follows a date. -/
def afterDate? : List Char → Option (List Char)
  | y1 :: y2 :: y3 :: y4 :: '-' :: m1 :: m2 :: '-' :: d1 :: d2 :: rest => do
    guard ([y1, y2, y3, y4].all Char.isDigit)
    let month ← twoDigits? 1 12 m1 m2
    let _ ← twoDigits? 1 (daysIn (digitValue 10 [y1, y2, y3, y4]) month) d1 d2
    return rest
  | _ => none

/-- What follows the seconds of a time, if it has any. -/
def afterSeconds? : List Char → Option (List Char)
  | ':' :: s1 :: s2 :: rest => do
    let _ ← twoDigits? 0 60 s1 s2
    match rest with
    | '.' :: rest =>
      let digits := rest.takeWhile Char.isDigit
      if digits.isEmpty then none else some (rest.drop digits.length)
    | rest => some rest
  | rest => some rest

/-- What follows a time, which may be given without seconds. -/
def afterTime? : List Char → Option (List Char)
  | h1 :: h2 :: ':' :: m1 :: m2 :: rest => do
    let _ ← twoDigits? 0 23 h1 h2
    let _ ← twoDigits? 0 59 m1 m2
    afterSeconds? rest
  | _ => none

/-- Whether the text is the difference of a time from the universal one. -/
def isOffset : List Char → Bool
  | ['Z'] | ['z'] => true
  | [sign, h1, h2, ':', m1, m2] =>
    (sign = '+' || sign = '-') && (twoDigits? 0 23 h1 h2).isSome && (twoDigits? 0 59 m1 m2).isSome
  | _ => false

/-- Whether the text is a date, a time, or both with or without an offset. -/
def isMoment (cs : List Char) : Bool :=
  match afterDate? cs with
  | some [] => true
  | some (mark :: rest) =>
    (mark = 'T' || mark = 't' || mark = ' ') &&
      (afterTime? rest).any fun rest => rest.isEmpty || isOffset rest
  | none => afterTime? cs == some []

/-- Whether a character may stand in a word or number. -/
def isWordChar (c : Char) : Bool :=
  c.isAlphanum || c = '_' || c = '+' || c = '-' || c = '.' || c = ':'

/-- The word or number at the start; a date takes a time after one blank with it. -/
def word (cs : List Char) : List Char :=
  let first := cs.takeWhile isWordChar
  match afterDate? first, cs.drop first.length with
  | some [], ' ' :: c :: rest =>
    if c.isDigit then first ++ ' ' :: (c :: rest).takeWhile isWordChar else first
  | _, _ => first

/-- The value of a word. Numbers beyond 128 bits are refused. -/
def ofWord? (cs : List Char) : Option Toml :=
  if cs == "true".toList then some (boolean true)
  else if cs == "false".toList then some (boolean false)
  else
    match integer? cs with
    | some i => if -(Nat.pow 2 127 : Int) ≤ i ∧ i < Nat.pow 2 128 then some (integer i) else none
    | none => if isFloat cs then some float else if isMoment cs then some moment else none

/-! ## 5. Values -/

mutual

/-- A value. The fuel bounds the number of characters, and `depth` counts the arrays and tables
around the value. -/
def readValue? : (fuel depth : Nat) → List Char → Option (Toml × List Char)
  | 0, _, _ => none
  | n + 1, depth, cs =>
    match cs with
    | '[' :: rest =>
      if depth < maxNesting then
        (readItems? n (depth + 1) [] rest).map fun (items, rest) => (array items, rest)
      else none
    | '\x7b' :: rest =>
      if depth < maxNesting then do
        let (entries, rest) ← readEntries? n (depth + 1) [] rest
        let t ← inlineTable? entries
        return (t, rest)
      else none
    | c :: _ =>
      if c = '"' || c = '\'' then (quoted? cs).map fun (s, rest) => (string s, rest)
      else
        let w := word cs
        (ofWord? w).map (·, cs.drop w.length)
    | [] => none

/-- The items of an array up to its end; those read are in reverse. -/
def readItems? : (fuel depth : Nat) → List Toml → List Char → Option (List Toml × List Char)
  | 0, _, _, _ => none
  | n + 1, depth, read, cs =>
    match skipLines (cs.length + 1) cs with
    | ']' :: rest => some (read.reverse, rest)
    | cs => do
      let (item, rest) ← readValue? n depth cs
      match skipLines (rest.length + 1) rest with
      | ',' :: rest => readItems? n depth (item :: read) rest
      | ']' :: rest => some ((item :: read).reverse, rest)
      | _ => none

/-- The entries of a table in braces up to its end; those read are in reverse. -/
def readEntries? : (fuel depth : Nat) → List (List String × String × Toml) → List Char →
    Option (List (List String × String × Toml) × List Char)
  | 0, _, _, _ => none
  | n + 1, depth, read, cs =>
    match skipLines (cs.length + 1) cs with
    | '\x7d' :: rest => some (read.reverse, rest)
    | cs => do
      let (path, key, rest) ← key? maxNesting [] cs
      match skipLines (rest.length + 1) rest with
      | '=' :: rest =>
        let (value, rest) ← readValue? n depth (skipLines (rest.length + 1) rest)
        let read := (path, key, value) :: read
        match skipLines (rest.length + 1) rest with
        | ',' :: rest => readEntries? n depth read rest
        | '\x7d' :: rest => some (read.reverse, rest)
        | _ => none
      | _ => none

end

/-! ## 6. Documents -/

/-- The statement at the start, with what follows its line. -/
def statement? (cs : List Char) : Option (Statement × List Char) := do
  match cs with
  | '[' :: '[' :: rest =>
    let (path, key, rest) ← key? maxNesting [] rest
    match rest with
    | ']' :: ']' :: rest => return (.listHeader path key, ← lineEnd? rest)
    | _ => none
  | '[' :: rest =>
    let (path, key, rest) ← key? maxNesting [] rest
    match rest with
    | ']' :: rest => return (.header path key, ← lineEnd? rest)
    | _ => none
  | cs =>
    let (path, key, rest) ← key? maxNesting [] cs
    match rest with
    | '=' :: rest =>
      let (value, rest) ← readValue? (rest.length + 1) 0 (skipSpace rest)
      return (.entry path key value, ← lineEnd? rest)
    | _ => none

/-- The statements of a document; the fuel bounds their number. -/
def statements? : (fuel : Nat) → List Statement → List Char → Option (List Statement)
  | 0, _, _ => none
  | n + 1, read, cs =>
    match skipLines (cs.length + 1) cs with
    | [] => some read.reverse
    | cs => do
      let (s, rest) ← statement? cs
      statements? n (s :: read) rest

/-- Reads a document. A byte order mark at its start does not count. -/
def parse? (text : String) : Option Toml := do
  let cs :=
    match text.toList with
    | '\ufeff' :: rest => rest
    | cs => cs
  build? (← statements? (cs.length + 1) [] cs)

end TaintFlow.Toml
