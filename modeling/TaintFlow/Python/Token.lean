import TaintFlow.Text

/-!
# Tokens of Python source

A token has a kind and the byte range it covers. An interpolated string is one token that holds
the tokens of its replacement fields, so a field's expression is read by the same grammar as any
other expression.
-/

namespace TaintFlow.Python

/-- A source text that is not a Python module, with the byte offset at which reading stopped. -/
structure SyntaxError where
  offset : Nat
  deriving DecidableEq, Repr, Inhabited

mutual

/-- What a token is. -/
inductive TokenKind where
  /-- An identifier or a keyword. -/
  | name (text : String)
  /-- An identifier with characters beyond ASCII, in its normal form. It is never a keyword. -/
  | identifier (text : String)
  /-- A number, and whether it is imaginary. -/
  | number (imaginary : Bool)
  /-- A string literal with its escapes decoded. -/
  | string (value : String)
  | bytes
  /-- A string literal with replacement fields. -/
  | interpolated (fields : List Field)
  /-- An operator or delimiter. -/
  | op (text : String)
  /-- The end of a logical line. -/
  | newline
  | indent
  | dedent
  | endOfFile

/-- A token with the byte offsets of its start and its end. -/
inductive Token where
  | mk (kind : TokenKind) (start stop : Nat)

/-- A replacement field: the tokens of its expression, and the fields of its format
specification. -/
inductive Field where
  | mk (tokens : List Token) (spec : List Field)

end

namespace Token

def kind : Token → TokenKind
  | mk k _ _ => k

def start : Token → Nat
  | mk _ s _ => s

def stop : Token → Nat
  | mk _ _ e => e

/-- A token without extent. -/
def mark (kind : TokenKind) (offset : Nat) : Token := mk kind offset offset

/-- Whether the token is a given operator. -/
def isOp (t : Token) (text : String) : Bool :=
  match t.kind with
  | .op s => s == text
  | _ => false

/-- Whether the token is a given word. -/
def isWord (t : Token) (text : String) : Bool :=
  match t.kind with
  | .name s => s == text
  | _ => false

/-- Whether the token ends a logical line. -/
def isNewline (t : Token) : Bool :=
  match t.kind with
  | .newline => true
  | _ => false

end Token

/-- The words that cannot be identifiers. -/
def keywords : List String :=
  ["False", "None", "True", "and", "as", "assert", "async", "await", "break", "class", "continue",
    "def", "del", "elif", "else", "except", "finally", "for", "from", "global", "if", "import",
    "in", "is", "lambda", "nonlocal", "not", "or", "pass", "raise", "return", "try", "while",
    "with", "yield"]

/-- Whether a word is reserved. -/
def isKeyword (word : String) : Bool := keywords.contains word

/-- The operators and delimiters, longer ones first, so that the first match is the longest. -/
def operators : List String :=
  ["**=", "//=", ">>=", "<<=", "...",
    "**", "//", ">>", "<<", "<=", ">=", "==", "!=", "->", "+=", "-=", "*=", "/=", "%=", "&=", "|=",
    "^=", "@=", ":=",
    "+", "-", "*", "/", "%", "@", "&", "|", "^", "~", "<", ">", "(", ")", "[", "]", "\x7b", "\x7d",
    ",", ":", ".", ";", "="]

end TaintFlow.Python
