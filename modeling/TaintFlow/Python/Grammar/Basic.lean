import TaintFlow.Python.Syntax
import TaintFlow.Python.Token

/-!
# Reading tokens

A parser takes the tokens in front of it and gives a result with the tokens that are left, or
fails at an offset. Recursive rules of the grammar are fields of `Rules`, so that each rule is an
ordinary definition over the rules it may call; the knot is tied once, level by level.

A list of tokens always ends with `endOfFile`, which no rule takes.
-/

namespace TaintFlow.Python

/-- A parser: what it reads, or where it fails. -/
abbrev Parser := StateT (List Token) (Except SyntaxError)

namespace Parser

/-- The next token. -/
def peek : Parser Token := fun ts =>
  .ok (ts.headD (.mark .endOfFile 0), ts)

/-- The token after the next one. -/
def peekSecond : Parser Token := fun ts =>
  .ok ((ts.drop 1).headD (.mark .endOfFile 0), ts)

/-- Takes a token. -/
def advance : Parser Token := fun ts =>
  .ok (ts.headD (.mark .endOfFile 0), ts.drop 1)

/-- Fails at the next token. -/
def fail {α : Type} : Parser α := fun ts =>
  .error ⟨(ts.headD (.mark .endOfFile 0)).start⟩

/-- How many tokens are left: a bound on every loop. -/
def remaining : Parser Nat := fun ts => .ok (ts.length, ts)

/-- Fails unless a condition holds. -/
def check (b : Bool) : Parser Unit := if b then pure () else fail

/-- Tries a parser; if it fails, nothing was taken. -/
def attempt {α : Type} (p : Parser α) : Parser (Option α) := fun ts =>
  match p ts with
  | .ok (a, rest) => .ok (some a, rest)
  | .error _ => .ok (none, ts)

/-- Takes a given operator if it is next. -/
def acceptOp (text : String) : Parser Bool := do
  if (← peek).isOp text then
    let _ ← advance
    return true
  else return false

/-- Takes a given word if it is next. -/
def acceptWord (text : String) : Parser Bool := do
  if (← peek).isWord text then
    let _ ← advance
    return true
  else return false

/-- Takes a given operator. -/
def expectOp (text : String) : Parser Token := do
  if (← peek).isOp text then advance else fail

/-- Takes a given word. -/
def expectWord (text : String) : Parser Token := do
  if (← peek).isWord text then advance else fail

/-- Takes the end of a line. -/
def expectNewline : Parser Unit := do
  if (← peek).isNewline then
    let _ ← advance
    return ()
  else fail

/-- Takes an identifier. -/
def identifier : Parser String := do
  match (← peek).kind with
  | .name text =>
    if isKeyword text then fail
    else
      let _ ← advance
      return text
  | .identifier text =>
    let _ ← advance
    return text
  | _ => fail

/-- One or more items with commas between them. The list may end with a comma where `atEnd` says
that no item follows; the flag tells whether it does. -/
def commaList {α : Type} (atEnd : Token → Bool) (item : Parser α) : Nat → Parser (List α × Bool)
  | 0 => fail
  | fuel + 1 => do
    let first ← item
    if ← acceptOp "," then
      if atEnd (← peek) then return ([first], true)
      let (rest, trailing) ← commaList atEnd item fuel
      return (first :: rest, trailing)
    else return ([first], false)

/-- Items as long as a test on the next token holds. -/
def whileNext {α : Type} (more : Token → Bool) (item : Parser α) : Nat → Parser (List α)
  | 0 => fail
  | fuel + 1 => do
    if more (← peek) then
      let first ← item
      let rest ← whileNext more item fuel
      return first :: rest
    else return []

/-- A dotted name. -/
def dottedName : Parser String := do
  let first ← identifier
  let rest ← whileNext (·.isOp ".") (do let _ ← advance; identifier) (← remaining)
  return Text.join "." (first :: rest)

end Parser

/-- What kind of pattern was read, so far as it matters to what may stand around it. -/
inductive PatternForm where
  /-- A name that captures, not `_`. -/
  | capture
  /-- A dotted name. -/
  | dotted
  /-- A number with its sign, and whether it is imaginary. -/
  | number (imaginary : Bool)
  /-- A literal that is no number. -/
  | literal
  /-- `*` and a name, which captures what is left of a sequence. -/
  | star
  | other
  deriving DecidableEq, Repr

/-- A pattern: its form and its value expressions. -/
structure PatternRead where
  form : PatternForm
  values : List Expr

/-- Whether a pattern can be a key of a mapping pattern. -/
def PatternForm.isKey : PatternForm → Bool
  | .dotted | .number _ | .literal => true
  | _ => false

/-- The recursive rules of the grammar. -/
structure Rules where
  /-- An expression without a top-level comma. -/
  expression : Parser Expr
  /-- An operand of the arithmetic operators, with its signs and powers. -/
  factor : Parser Expr
  /-- An operand of `and` and `or`. -/
  inversion : Parser Expr
  /-- A pattern, or a star in a sequence of them. -/
  pattern : Parser PatternRead
  /-- The indented or inline body of a compound statement. -/
  block : Parser (List Stmt)

/-- No rule applies: the bottom of the recursion, which no input reaches. -/
def Rules.exhausted : Rules where
  expression := Parser.fail
  factor := Parser.fail
  inversion := Parser.fail
  pattern := Parser.fail
  block := Parser.fail

end TaintFlow.Python
