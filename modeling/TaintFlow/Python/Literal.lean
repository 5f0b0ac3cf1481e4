import TaintFlow.Text
import TaintFlow.Text.CharacterName

/-!
# String literals

Where the body of a quoted literal ends, and what text its escapes stand for.
-/

namespace TaintFlow.Python

/-- How a literal is quoted. -/
structure Quote where
  /-- The quote character. -/
  mark : Char
  /-- Whether three of them open and close the literal, which may then span lines. -/
  triple : Bool
  deriving DecidableEq, Repr

namespace Quote

/-- The number of quote characters on each side. -/
def length (q : Quote) : Nat := if q.triple then 3 else 1

/-- Whether the literal closes here. -/
def closes (q : Quote) (cs : List Char) : Bool :=
  (List.replicate q.length q.mark).isPrefixOf cs

/-- The opening quote at the start of a text. -/
def open? : List Char → Option Quote
  | a :: rest =>
    if a = '"' ∨ a = '\'' then some ⟨a, [a, a].isPrefixOf rest⟩ else none
  | [] => none

end Quote

/-- The characters up to the closing quote. A backslash keeps the character after it from closing
the literal. `taken` holds what was read, last first. -/
def quotedBody (q : Quote) : (taken : List Char) → List Char → Option (List Char)
  | _, [] => none
  | taken, '\\' :: '\r' :: '\n' :: cs => quotedBody q ('\n' :: '\r' :: '\\' :: taken) cs
  | taken, '\\' :: c :: cs => quotedBody q (c :: '\\' :: taken) cs
  | taken, c :: cs =>
    if q.closes (c :: cs) then some taken.reverse
    else if !q.triple && (c == '\n' || c == '\r') then none
    else quotedBody q (c :: taken) cs

/-! ## Escapes -/

/-- Reads exactly `count` hexadecimal digits. -/
def hexDigits? : (count : Nat) → (value : Nat) → List Char → Option (Nat × List Char)
  | 0, value, cs => some (value, cs)
  | _ + 1, _, [] => none
  | n + 1, value, c :: cs =>
    match Text.hexDigit? c with
    | some d => hexDigits? n (value * 16 + d) cs
    | none => none

/-- Reads up to `count` octal digits. -/
def octalDigits : (count : Nat) → (value : Nat) → List Char → Nat × List Char
  | 0, value, cs => (value, cs)
  | _ + 1, value, [] => (value, [])
  | n + 1, value, c :: cs =>
    if '0' ≤ c ∧ c ≤ '7' then octalDigits n (value * 8 + (c.toNat - 48)) cs else (value, c :: cs)

/-- The character of a code point. A surrogate stands for the replacement character, and a number
past the last code point for none. -/
def codePoint? (n : Nat) : Option Char :=
  if 0xD800 ≤ n ∧ n ≤ 0xDFFF then some '�'
  else if n < 0x110000 then some (Char.ofNat n)
  else none

/-- The character of a one-letter escape. -/
def simpleEscape? : Char → Option Char
  | '\\' => some '\\'
  | '\'' => some '\''
  | '"' => some '"'
  | 'a' => some '\x07'
  | 'b' => some '\x08'
  | 'f' => some '\x0c'
  | 'n' => some '\n'
  | 'r' => some '\r'
  | 't' => some '\t'
  | 'v' => some '\x0b'
  | _ => none

/-- One escape after its backslash: the characters it stands for and the rest, or none when it is
malformed. An unknown escape stands for itself. -/
def escape? (bytes : Bool) : List Char → Option (List Char × List Char)
  | [] => none
  | '\r' :: '\n' :: cs => some ([], cs)
  | c :: cs =>
    if c = '\n' ∨ c = '\r' then some ([], cs)
    else match simpleEscape? c with
    | some e => some ([e], cs)
    | none =>
      if '0' ≤ c ∧ c ≤ '7' then
        let (n, rest) := octalDigits 3 0 (c :: cs)
        some ([Char.ofNat n], rest)
      else if c = 'x' then
        (hexDigits? 2 0 cs).map fun (n, rest) => ([Char.ofNat n], rest)
      else if bytes then some (['\\', c], cs)
      else if c = 'u' then
        (hexDigits? 4 0 cs).bind fun (n, rest) => (codePoint? n).map fun e => ([e], rest)
      else if c = 'U' then
        (hexDigits? 8 0 cs).bind fun (n, rest) => (codePoint? n).map fun e => ([e], rest)
      else if c = 'N' then
        match cs with
        | '\x7b' :: name =>
          match name.dropWhile (· ≠ '\x7d') with
          | _ :: rest =>
            (CharacterName.find? (String.ofList (name.takeWhile (· ≠ '\x7d')))).map fun e =>
              ([e], rest)
          | [] => none
        | _ => none
      else some (['\\', c], cs)

/-- The text a literal's body stands for. A backslash at the end, where a replacement field follows,
stands for itself. Every escape takes at least its backslash, so the number of characters bounds the
steps. -/
def decodeBody (bytes : Bool) : (steps : Nat) → List Char → Option (List Char)
  | _, [] => some []
  | 0, _ => none
  | _ + 1, ['\\'] => some ['\\']
  | n + 1, '\\' :: cs =>
    match escape? bytes cs with
    | some (decoded, rest) => (decodeBody bytes n rest).map (decoded ++ ·)
    | none => none
  | n + 1, c :: cs => (decodeBody bytes n cs).map (c :: ·)

/-- The flags in front of a quote. -/
structure LiteralFlags where
  raw : Bool := false
  bytes : Bool := false
  interpolated : Bool := false
  deriving DecidableEq, Repr

/-- The flags that a word in front of a quote sets, if it may stand there. -/
def LiteralFlags.ofWord? (word : String) : Option LiteralFlags :=
  match Text.lowerAscii word with
  | "" | "u" => some {}
  | "r" => some { raw := true }
  | "b" => some { bytes := true }
  | "br" | "rb" => some { raw := true, bytes := true }
  | "f" | "t" => some { interpolated := true }
  | "fr" | "rf" | "tr" | "rt" => some { raw := true, interpolated := true }
  | _ => none

/-- The text of a plain literal's body, none when an escape is malformed. A bytes literal holds
ASCII only. -/
def literalText? (flags : LiteralFlags) (body : List Char) : Option String :=
  if flags.bytes && body.any (fun c => 0x80 ≤ c.toNat) then none
  else if flags.raw then some (String.ofList body)
  else (decodeBody flags.bytes body.length body).map String.ofList

end TaintFlow.Python
