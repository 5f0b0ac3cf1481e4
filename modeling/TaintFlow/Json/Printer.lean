import TaintFlow.Json.Basic

/-!
# Writing JSON

Two layouts: compact without blanks, and pretty with an indentation of two blanks and one element
a line, where an empty array or object stays `[]` or an empty pair of braces. Only what must be
escaped is.
-/

namespace TaintFlow.Json

/-- A hexadecimal digit. -/
def hexDigit (n : Nat) : Char := if n < 10 then Char.ofNat (48 + n) else Char.ofNat (87 + n)

/-- A character inside a string. -/
def escapeChar (c : Char) : String :=
  if c = '"' then "\\\""
  else if c = '\\' then "\\\\"
  else if c = '\n' then "\\n"
  else if c = '\r' then "\\r"
  else if c = '\t' then "\\t"
  else if c.toNat = 8 then "\\b"
  else if c.toNat = 12 then "\\f"
  else if c.toNat < 32 then
    "\\u00" ++ String.ofList [hexDigit (c.toNat / 16), hexDigit (c.toNat % 16)]
  else c.toString

/-- A string with its quotes. -/
def quoted (s : String) : String :=
  s.toList.foldl (fun out c => out ++ escapeChar c) "\"" ++ "\""

mutual

/-- The compact text. -/
def compact : Json → String
  | null => "null"
  | bool true => "true"
  | bool false => "false"
  | number numeral => numeral
  | string s => quoted s
  | array elements => "[" ++ compactElements elements ++ "]"
  | object members => "\x7b" ++ compactMembers members ++ "\x7d"

/-- Elements with commas between them. -/
def compactElements : List Json → String
  | [] => ""
  | [e] => compact e
  | e :: es => compact e ++ "," ++ compactElements es

/-- Members with commas between them. -/
def compactMembers : List (String × Json) → String
  | [] => ""
  | [(k, v)] => quoted k ++ ":" ++ compact v
  | (k, v) :: rest => quoted k ++ ":" ++ compact v ++ "," ++ compactMembers rest

end

/-- A new line with an indentation. -/
def lineAt (depth : Nat) : String := "\n" ++ Text.repeated (2 * depth) " "

mutual

/-- The pretty text at a depth. -/
def prettyAt (depth : Nat) : Json → String
  | null => "null"
  | bool true => "true"
  | bool false => "false"
  | number numeral => numeral
  | string s => quoted s
  | array [] => "[]"
  | array (e :: es) =>
    "[" ++ lineAt (depth + 1) ++ prettyAt (depth + 1) e ++ prettyElements (depth + 1) es ++
      lineAt depth ++ "]"
  | object [] => "\x7b\x7d"
  | object (m :: ms) =>
    "\x7b" ++ prettyMembers (depth + 1) (m :: ms) true ++ lineAt depth ++ "\x7d"

/-- Further elements. -/
def prettyElements (depth : Nat) : List Json → String
  | [] => ""
  | e :: es => "," ++ lineAt depth ++ prettyAt depth e ++ prettyElements depth es

/-- Members, with a comma before each but the first. -/
def prettyMembers (depth : Nat) : List (String × Json) → Bool → String
  | [], _ => ""
  | (k, v) :: rest, first =>
    (if first then "" else ",") ++ lineAt depth ++ quoted k ++ ": " ++ prettyAt depth v ++
      prettyMembers depth rest false

end

/-- The pretty text. -/
def pretty (j : Json) : String := prettyAt 0 j

end TaintFlow.Json
