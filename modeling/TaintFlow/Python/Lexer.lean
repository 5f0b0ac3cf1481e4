import TaintFlow.Python.Literal
import TaintFlow.Python.Token
import TaintFlow.Text.Identifier
import TaintFlow.Text.Normalization

/-!
# From source text to tokens

The scanner keeps the bracket depth, since line ends inside brackets mean nothing, and the stack
of open indentations, from which it makes `indent` and `dedent` tokens. Inside a replacement field
of an interpolated string it reads tokens in the same way and stops where the field ends.

Positions are byte offsets. Every step takes at least one character or leaves the start of a line,
so twice the number of characters bounds the number of steps.
-/

namespace TaintFlow.Python

/-- The unread text with its byte offset. -/
structure Cursor where
  offset : Nat
  rest : List Char

namespace Cursor

/-- Reads a number of characters. -/
def skip : Cursor → (count : Nat) → Cursor
  | c, 0 => c
  | ⟨offset, []⟩, _ + 1 => ⟨offset, []⟩
  | ⟨offset, a :: rest⟩, n + 1 => skip ⟨offset + a.utf8Size, rest⟩ n

/-- Reads one character. -/
def next (c : Cursor) : Cursor := c.skip 1

/-- Reads as long as a test holds, and gives what was read. -/
def takeWhile (c : Cursor) (p : Char → Bool) : List Char × Cursor :=
  let taken := c.rest.takeWhile p
  (taken, ⟨c.offset + Text.byteCount taken, c.rest.drop taken.length⟩)

end Cursor

/-! ## 1. Indentation -/

/-- The length of a backslash and the line break behind it, which join a line with the next. -/
def joinLength? : List Char → Option Nat
  | '\\' :: '\r' :: '\n' :: _ => some 3
  | '\\' :: '\n' :: _ | '\\' :: '\r' :: _ => some 2
  | _ => none

/-- The width of a line's indentation, with tabs to the next multiple of two, and its number of
characters. Two indentations are comparable only if both measures agree. -/
structure Indentation where
  column : Nat
  chars : Nat
  deriving DecidableEq, Repr

namespace Indentation

def zero : Indentation := ⟨0, 0⟩

/-- How two indentations compare, if they do. -/
def compare? (a b : Indentation) : Option Ordering :=
  if compare a.column b.column = compare a.chars b.chars then some (compare a.column b.column)
  else none

/-- Measures the blanks at the start of a line. A form feed starts over. Of joined lines the first
that has blanks before its end decides, which `held` keeps. None when the text ends behind a
join. -/
def measure? : (held : Option Indentation) → Indentation → Cursor → Nat →
    Option (Indentation × Cursor)
  | held, i, c, 0 => some (held.getD i, c)
  | held, i, c, n + 1 =>
    match c.rest with
    | ' ' :: _ => measure? held ⟨i.column + 1, i.chars + 1⟩ c.next n
    | '\t' :: _ => measure? held ⟨(i.column / 2 + 1) * 2, i.chars + 1⟩ c.next n
    | '\x0c' :: _ => measure? held zero c.next n
    | _ =>
      match joinLength? c.rest with
      | some length =>
        let c := c.skip length
        if c.rest.isEmpty then none
        else measure? (held.or (if i = zero then none else some i)) i c n
      | none => some (held.getD i, c)

/-- The open indentations after a line starts at a new one, and how many were closed. None when the
line matches no open indentation. -/
def close? (line : Indentation) : List Indentation → Option (Nat × List Indentation)
  | [] => none
  | top :: below =>
    match compare? line top with
    | some .eq => some (0, top :: below)
    | some .lt => (close? line below).map fun (n, open_) => (n + 1, open_)
    | _ => none

end Indentation

/-! ## 2. Small pieces -/

/-- The operator at the start of a text. -/
def operator? (cs : List Char) : Option String := operators.find? fun o => o.toList.isPrefixOf cs

/-- The length of a run of digits with single underscores between them. -/
def digitRun (digit : Char → Bool) : List Char → Nat
  | [] => 0
  | [c] => if digit c then 1 else 0
  | c :: d :: rest =>
    if !digit c then 0
    else if d == '_' && rest.head?.elim false digit then 2 + digitRun digit rest
    else 1 + digitRun digit (d :: rest)

/-- Whether a text starts with a letter in either case. -/
def startsWithLetter (lower : Char) (cs : List Char) : Bool :=
  cs.head? == some lower || cs.head? == some lower.toUpper

/-- The length of the exponent that a text starts with. -/
def exponentRun (cs : List Char) : Nat :=
  if !startsWithLetter 'e' cs then 0
  else
    let signed := match cs.drop 1 with
      | '+' :: _ | '-' :: _ => 2
      | _ => 1
    match digitRun Char.isDigit (cs.drop signed) with
    | 0 => 0
    | n => signed + n

/-- The length of the digits of a number in a base other than ten. None when it has none. -/
def basedRun? (digit : Char → Bool) (cs : List Char) : Option Nat :=
  let lead := if cs.head? == some '_' then 1 else 0
  match digitRun digit (cs.drop lead) with
  | 0 => none
  | n => some (lead + n)

/-- The length of a decimal number: digits, fraction, exponent, imaginary mark. None for an integer
with leading zeros. -/
def decimalRun? (cs : List Char) : Option Nat :=
  let whole := digitRun Char.isDigit cs
  let fraction := match cs.drop whole with
    | '.' :: rest => 1 + digitRun Char.isDigit rest
    | _ => 0
  let exponent := exponentRun (cs.drop (whole + fraction))
  let length := whole + fraction + exponent
  if startsWithLetter 'j' (cs.drop length) then some (length + 1)
  else if length == whole && cs.head? == some '0' &&
      (cs.take whole).any (fun c => c != '0' && c != '_') then none
  else some length

/-- The length of the number that a text starts with. None when it is malformed. -/
def numberRun? (cs : List Char) : Option Nat :=
  if cs.head? == some '0' then
    let rest := cs.drop 1
    let based (digit : Char → Bool) := (basedRun? digit (cs.drop 2)).map (2 + ·)
    if startsWithLetter 'x' rest then based fun c => (Text.hexDigit? c).isSome
    else if startsWithLetter 'o' rest then based fun c => '0' ≤ c && c ≤ '7'
    else if startsWithLetter 'b' rest then based fun c => c == '0' || c == '1'
    else decimalRun? cs
  else decimalRun? cs

/-- Whether a number starts here: a digit, or a point before one. -/
def startsNumber : List Char → Bool
  | '.' :: d :: _ => d.isDigit
  | c :: _ => c.isDigit
  | [] => false

/-! ## 3. The scanner -/

/-- What the scanner has read and where it stands in lines and brackets. -/
structure Scan where
  /-- The tokens so far, last first. -/
  tokens : List Token := []
  /-- The number of open brackets. -/
  depth : Nat := 0
  /-- The open indentations, innermost first. -/
  indents : List Indentation := [.zero]
  /-- Whether the next character starts a line. -/
  lineStart : Bool := false
  /-- Whether this is a replacement field, where lines mean nothing. -/
  inField : Bool := false

namespace Scan

def push (s : Scan) (t : Token) : Scan := { s with tokens := t :: s.tokens }

/-- Whether the current logical line holds nothing yet. -/
def atLineStart (s : Scan) : Bool :=
  match s.tokens.head?.map Token.kind with
  | none | some .newline | some .indent | some .dedent => true
  | _ => false

/-- Adds an operator and keeps the bracket depth. -/
def pushOp (s : Scan) (text : String) (start stop : Nat) : Scan :=
  let s := s.push (.mk (.op text) start stop)
  if text == "(" || text == "[" || text == "\x7b" then { s with depth := s.depth + 1 }
  else if text == ")" || text == "]" || text == "\x7d" then { s with depth := s.depth - 1 }
  else s

/-- Ends the current logical line at a line break. -/
def endLine (s : Scan) (start stop : Nat) : Scan :=
  if s.inField || 0 < s.depth then s
  else if s.atLineStart then { s with lineStart := true }
  else { s.push (.mk .newline start stop) with lineStart := true }

/-- Opens or closes blocks for a line that starts at an indentation. -/
def startLine (s : Scan) (line : Indentation) (offset : Nat) : Except SyntaxError Scan :=
  let s := { s with lineStart := false }
  match s.indents with
  | [] => .error ⟨offset⟩
  | top :: below =>
    if line.compare? top = some .gt then
      .ok { s.push (.mark .indent offset) with indents := line :: top :: below }
    else match line.close? s.indents with
      | some (closed, still) =>
        .ok { s with
          tokens := List.replicate closed (Token.mark .dedent offset) ++ s.tokens, indents := still }
      | none => .error ⟨offset⟩

/-- Ends the last line and closes every block at the end of the text. -/
def finish (s : Scan) (offset : Nat) : List Token :=
  let s := if s.atLineStart || 0 < s.depth then s else s.push (.mark .newline offset)
  let s := { s with
    tokens := List.replicate (s.indents.length - 1) (Token.mark .dedent offset) ++ s.tokens }
  (s.push (.mark .endOfFile offset)).tokens.reverse

end Scan

/-- A word as a token: in ASCII it may be a keyword, and otherwise its normal form is a name. -/
def nameKind (word : List Char) : TokenKind :=
  if word.all fun c => c.toNat < 0x80 then .name (String.ofList word)
  else .identifier (Normalization.normalize (String.ofList word))

/-- The text between replacement fields. -/
structure FieldText where
  /-- The characters, last first. -/
  chars : List Char := []
  /-- Whether a character's name is being read, which a brace closes. -/
  inName : Bool := false

namespace FieldText

def push (t : FieldText) (c : Char) : FieldText := { t with chars := c :: t.chars }

/-- How many characters an escape takes behind its backslash. A brace is left, since it opens or
closes a field, and of a name the opening brace is taken. -/
def escapeLength (_ : FieldText) (raw : Bool) : List Char → Nat
  | '\x7b' :: _ | '\x7d' :: _ | [] => 0
  | 'N' :: '\x7b' :: _ => if raw then 1 else 2
  | '\r' :: '\n' :: _ => 2
  | _ => 1

/-- Takes a backslash and what belongs to it. -/
def takeEscape (t : FieldText) (raw : Bool) (rest : List Char) : FieldText :=
  let taken := rest.take (t.escapeLength raw rest)
  ⟨taken.reverse ++ '\\' :: t.chars, t.inName || taken == ['N', '\x7b']⟩

/-- Takes the brace that closes a name. -/
def closeName (t : FieldText) : FieldText := ⟨'\x7d' :: t.chars, false⟩

/-- Whether the escapes in the text are well formed. -/
def isWellFormed (t : FieldText) (raw : Bool) : Bool :=
  raw || (decodeBody false t.chars.length t.chars.reverse).isSome

end FieldText

/-- Whether a replacement field ends here: at a closing brace, a colon or a conversion mark that no
bracket of the field encloses. -/
def endsField (s : Scan) (cs : List Char) : Bool :=
  s.inField && s.depth == 0 &&
    match cs with
    | '\x7d' :: _ | ':' :: _ => true
    | '!' :: c :: _ => c != '='
    | ['!'] => true
    | _ => false

/-- Reads the conversion after its mark, which is one of three letters, and the blanks that follow.
None when it is another word. -/
def conversion? (c : Cursor) : Option Cursor :=
  let (word, after) := c.takeWhile Identifier.isPart
  if word == ['s'] || word == ['r'] || word == ['a'] then
    some (after.takeWhile fun x => x == ' ' || x == '\t' || x == '\x0c').2
  else none

/-- The tokens of a field. A trailing `=` asks for the source text and is no part of it. -/
def fieldTokens (s : Scan) (offset : Nat) : List Token :=
  let tokens := match s.tokens with
    | t :: rest => if t.isOp "=" then rest else s.tokens
    | [] => []
  (Token.mark .endOfFile offset :: tokens).reverse

mutual

/-- Reads tokens until the text or the field ends. -/
def scanTokens : (fuel : Nat) → Scan → Cursor → Except SyntaxError (Scan × Cursor)
  | 0, _, c => .error ⟨c.offset⟩
  | fuel + 1, s, c =>
    if s.lineStart then
      match Indentation.measure? none .zero c c.rest.length with
      | none => .error ⟨c.offset⟩
      | some (line, c) =>
        match c.rest with
        | [] => .ok ({ s with lineStart := false }, c)
        | a :: _ =>
          if a == '#' || a == '\n' || a == '\r' then
            scanTokens fuel { s with lineStart := false } c
          else match s.startLine line c.offset with
            | .ok s => scanTokens fuel s c
            | .error e => .error e
    else if endsField s c.rest then .ok (s, c)
    else match c.rest with
    | [] => .ok (s, c)
    | '\r' :: '\n' :: _ => scanTokens fuel (s.endLine c.offset (c.offset + 2)) (c.skip 2)
    | a :: _ =>
      if let some length := joinLength? c.rest then
        let after := c.skip length
        if after.rest.isEmpty then .error ⟨c.offset⟩ else scanTokens fuel s after
      else if a == ' ' || a == '\t' || a == '\x0c' then scanTokens fuel s c.next
      else if a == '\n' || a == '\r' then
        scanTokens fuel (s.endLine c.offset (c.offset + 1)) c.next
      else if a == '#' then
        scanTokens fuel s (c.takeWhile fun x => x != '\n' && x != '\r').2
      else if Identifier.isStart a || a == '"' || a == '\'' then
        let (word, after) := c.takeWhile Identifier.isPart
        match LiteralFlags.ofWord? (String.ofList word), Quote.open? after.rest with
        | some flags, some quote =>
          let inside := after.skip quote.length
          if flags.interpolated then
            match scanInterpolated fuel quote flags.raw false [] {} inside with
            | .ok (fields, after) =>
              scanTokens fuel (s.push (.mk (.interpolated fields) c.offset after.offset)) after
            | .error e => .error e
          else match quotedBody quote [] inside.rest with
            | none => .error ⟨c.offset⟩
            | some text =>
              let after := inside.skip (text.length + quote.length)
              match literalText? flags text with
              | none => .error ⟨c.offset⟩
              | some value =>
                let kind := if flags.bytes then TokenKind.bytes else .string value
                scanTokens fuel (s.push (.mk kind c.offset after.offset)) after
        | _, _ => scanTokens fuel (s.push (.mk (nameKind word) c.offset after.offset)) after
      else if startsNumber c.rest then
        match numberRun? c.rest with
        | some length =>
          let after := c.skip length
          let kind := TokenKind.number (startsWithLetter 'j' (c.rest.drop (length - 1)))
          scanTokens fuel (s.push (.mk kind c.offset after.offset)) after
        | none => .error ⟨c.offset⟩
      else match operator? c.rest with
        | some text =>
          let after := c.skip text.length
          scanTokens fuel (s.pushOp text c.offset after.offset) after
        | none => .error ⟨c.offset⟩

/-- Reads the body of an interpolated string up to its closing quote or, in a format
specification, up to the brace that closes the field. `fields` holds what was read, last first, and
`text` what was read since the last field. -/
def scanInterpolated : (fuel : Nat) → Quote → (raw inSpec : Bool) → List Field → FieldText →
    Cursor → Except SyntaxError (List Field × Cursor)
  | 0, _, _, _, _, _, c => .error ⟨c.offset⟩
  | fuel + 1, q, raw, inSpec, fields, text, c =>
    let finish (after : Cursor) : Except SyntaxError (List Field × Cursor) :=
      if text.isWellFormed raw then .ok (fields.reverse, after) else .error ⟨c.offset⟩
    if q.closes c.rest then if inSpec then .error ⟨c.offset⟩ else finish (c.skip q.length)
    else match c.rest with
    | [] => .error ⟨c.offset⟩
    | '\\' :: rest =>
      let taken := text.escapeLength raw rest
      scanInterpolated fuel q raw inSpec fields (text.takeEscape raw rest) (c.skip (1 + taken))
    | '\x7d' :: rest =>
      if text.inName then scanInterpolated fuel q raw inSpec fields text.closeName c.next
      else if inSpec then finish c
      else if rest.head? == some '\x7d' then
        scanInterpolated fuel q raw inSpec fields (text.push '\x7d') (c.skip 2)
      else .error ⟨c.offset⟩
    | '\x7b' :: rest =>
      if !inSpec && rest.head? == some '\x7b' then
        scanInterpolated fuel q raw inSpec fields (text.push '\x7b') (c.skip 2)
      else if !text.isWellFormed raw then .error ⟨c.offset⟩
      else match scanField fuel q raw c.next with
        | .ok (field, c) => scanInterpolated fuel q raw inSpec (field :: fields) {} c
        | .error e => .error e
    | a :: _ =>
      if !q.triple && (a == '\n' || a == '\r') then .error ⟨c.offset⟩
      else scanInterpolated fuel q raw inSpec fields (text.push a) c.next

/-- Reads a replacement field after its opening brace: expression, conversion, format
specification, closing brace. -/
def scanField : (fuel : Nat) → Quote → (raw : Bool) → Cursor → Except SyntaxError (Field × Cursor)
  | 0, _, _, c => .error ⟨c.offset⟩
  | fuel + 1, q, raw, c =>
    match scanTokens fuel { inField := true } c with
    | .error e => .error e
    | .ok (s, c) =>
      let tokens := fieldTokens s c.offset
      match if c.rest.head? == some '!' then conversion? c.next else some c with
      | none => .error ⟨c.offset⟩
      | some c =>
        match c.rest with
        | '\x7d' :: _ => .ok (.mk tokens [], c.next)
        | ':' :: _ =>
          match scanInterpolated fuel q raw true [] {} c.next with
          | .ok (spec, c) => .ok (.mk tokens spec, c.next)
          | .error e => .error e
        | _ => .error ⟨c.offset⟩

end

/-- The tokens of a source text. A byte order mark is skipped, but counts for positions. -/
def tokenize (source : String) : Except SyntaxError (List Token) :=
  let chars := source.toList
  let start : Cursor := match chars with
    | '\ufeff' :: rest => ⟨3, rest⟩
    | _ => ⟨0, chars⟩
  match scanTokens (2 * chars.length + 2) { lineStart := true } start with
  | .ok (s, c) => .ok (s.finish c.offset)
  | .error e => .error e

end TaintFlow.Python
