import TaintFlow.Python.Grammar.Basic

/-!
# Expressions

From the loosest binding to the tightest: named expressions, conditionals, `or`, `and`, `not`,
comparisons, the binary operators, signs, powers, `await`, and chains of attributes, calls and
subscripts on an atom.
-/

namespace TaintFlow.Python.Grammar

open TaintFlow.Python.Parser

/-! ## 1. What can start an expression, and what can be bound -/

/-- Whether an expression may start with a token. -/
def startsExpression (t : Token) : Bool :=
  match t.kind with
  | .name text =>
    !isKeyword text || ["None", "True", "False", "lambda", "not", "await", "yield"].contains text
  | .identifier _ | .number _ | .string _ | .bytes | .interpolated _ => true
  | .op text => ["(", "[", "\x7b", "-", "+", "~", "...", "*"].contains text
  | _ => false

/-- Whether a list of expressions ends before a token. -/
def endsList (t : Token) : Bool := !startsExpression t

/-- Whether an expression can be assigned to. -/
def isTarget : Expr → Bool
  | .name _ | .attr .. | .subscript .. => true
  | .starred value => isTarget value
  | .tuple elements | .list elements => areTargets elements
  | _ => false
where
  /-- Whether each expression can be assigned to. -/
  areTargets : List Expr → Bool
    | [] => true
    | e :: es => isTarget e && areTargets es

/-- Whether an expression can be deleted. -/
def isDeletable : Expr → Bool
  | .name _ | .attr .. | .subscript .. => true
  | .tuple elements | .list elements => areDeletable elements
  | _ => false
where
  /-- Whether each expression can be deleted. -/
  areDeletable : List Expr → Bool
    | [] => true
    | e :: es => isDeletable e && areDeletable es

/-- Whether an expression is a single place: a name, an attribute or a subscript. -/
def isPlace : Expr → Bool
  | .name _ | .attr .. | .subscript .. => true
  | _ => false

/-- Whether an expression is spread. -/
def isStarred : Expr → Bool
  | .starred _ => true
  | _ => false

/-- Several expressions, or one followed by a comma, are a tuple. -/
def tupleOr (items : List Expr × Bool) : Expr :=
  match items with
  | ([single], false) => single
  | (elements, _) => .tuple elements

/-! ## 2. Operators -/

section
variable (g : Rules)

/-- A left-associative level of binary operators. -/
def leftAssociative (ops : List String) (operand : Parser Expr) (left : Expr) : Nat → Parser Expr
  | 0 => fail
  | fuel + 1 => do
    if ops.any (← peek).isOp then
      let _ ← advance
      let right ← operand
      leftAssociative ops operand (.compound .binary [left, right]) fuel
    else return left

/-- One level of binary operators over the next tighter one. -/
def binaryLevel (ops : List String) (operand : Parser Expr) : Parser Expr := do
  let left ← operand
  leftAssociative ops operand left (← remaining)

/-- Arithmetic: factors joined by the multiplicative, then the additive operators. -/
def arithmetic : Parser Expr :=
  binaryLevel ["+", "-"] (binaryLevel ["*", "/", "//", "%", "@"] g.factor)

/-- The binary operators, from `|` down to multiplication. -/
def bitOr : Parser Expr :=
  binaryLevel ["|"] (binaryLevel ["^"] (binaryLevel ["&"] (binaryLevel ["<<", ">>"] (arithmetic g))))

/-- A comparison operator. -/
def comparisonOp : Parser Bool := do
  if ["<", ">", "==", ">=", "<=", "!="].any (← peek).isOp then
    let _ ← advance
    return true
  else if ← acceptWord "in" then return true
  else if ← acceptWord "is" then
    let _ ← acceptWord "not"
    return true
  else if (← peek).isWord "not" && (← peekSecond).isWord "in" then
    let _ ← advance
    let _ ← advance
    return true
  else return false

/-- The operands after the first of a comparison. -/
def comparands : Nat → Parser (List Expr)
  | 0 => fail
  | fuel + 1 => do
    if ← comparisonOp then
      let first ← bitOr g
      let rest ← comparands fuel
      return first :: rest
    else return []

/-- A chain of comparisons. -/
def comparison : Parser Expr := do
  let left ← bitOr g
  match ← comparands g (← remaining) with
  | [] => return left
  | rest => return .compound .comparison (left :: rest)

/-- Negation, or a comparison. -/
def inversion : Parser Expr := do
  if ← acceptWord "not" then
    return .compound .unary [← g.inversion]
  else comparison g

/-- Operands joined by a word. -/
def wordLevel (word : String) (operand : Parser Expr) : Parser Expr := do
  let first ← operand
  let rest ← whileNext (·.isWord word) (do let _ ← advance; operand) (← remaining)
  if rest.isEmpty then return first else return .compound .boolean (first :: rest)

/-- Operands joined by `or`, each of operands joined by `and`. -/
def disjunction : Parser Expr := wordLevel "or" (wordLevel "and" g.inversion)

/-! ## 3. Named and starred expressions -/

/-- An expression, or a name with `:=` and its value. -/
def namedExpression : Parser Expr := do
  let e ← g.expression
  if ← acceptOp ":=" then
    match e with
    | .name _ => return .named e (← g.expression)
    | _ => fail
  else return e

/-- As `namedExpression`, and whether the expression may stand before a colon: one that binds a name
without parentheses may not. -/
def expressionBeforeColon : Parser (Expr × Bool) := do
  let e ← g.expression
  if ← acceptOp ":=" then
    match e with
    | .name _ => return (.named e (← g.expression), false)
    | _ => fail
  else return (e, true)

/-- A spread expression after its star. -/
def starredExpression : Parser Expr := do
  let _ ← expectOp "*"
  return .starred (← bitOr g)

/-- An item of an expression list. -/
def starOr (item : Parser Expr) : Parser Expr := do
  if (← peek).isOp "*" then starredExpression g else item

/-- One or more expressions with commas; several are a tuple. -/
def expressionList : Parser Expr := do
  return tupleOr (← commaList endsList (starOr g g.expression) (← remaining))

/-- As `expressionList`, with named expressions. -/
def namedExpressionList : Parser Expr := do
  return tupleOr (← commaList endsList (starOr g (namedExpression g)) (← remaining))

/-- A `yield` expression. -/
def yieldExpression : Parser Expr := do
  let _ ← expectWord "yield"
  if ← acceptWord "from" then
    return .yieldFrom (← g.expression)
  else if startsExpression (← peek) then
    return .yield (some (← expressionList g))
  else return .yield none

/-- A `yield` expression or an expression list. -/
def yieldOrList : Parser Expr := do
  if (← peek).isWord "yield" then yieldExpression g else expressionList g

/-- The targets of a loop: an expression list that stops before `in`. -/
def targetList : Parser Expr := do
  let target := tupleOr (← commaList endsList (starOr g (bitOr g)) (← remaining))
  check (isTarget target)
  return target

/-! ## 4. Comprehensions -/

/-- One `for` clause with its conditions, in the order of visits. -/
def comprehensionClause : Parser (List Expr) := do
  let _ ← acceptWord "async"
  let _ ← expectWord "for"
  let target ← targetList g
  let _ ← expectWord "in"
  let iter ← disjunction g
  let conditions ←
    whileNext (·.isWord "if") (do let _ ← advance; disjunction g) (← remaining)
  return iter :: target :: conditions

/-- Whether a comprehension clause starts here. -/
def startsClause (t : Token) : Bool := t.isWord "for" || t.isWord "async"

/-- The clauses after an element. -/
def comprehensionClauses : Parser (List Expr) := do
  return (← whileNext startsClause (comprehensionClause g) (← remaining)).flatten

/-! ## 5. Parameters -/

/-- What has been read of a parameter list. -/
structure ParamsSoFar where
  params : Params := {}
  /-- A star was read: what follows is given by keyword only. -/
  starred : Bool := false
  /-- The star had no name, so a keyword-only parameter has to follow. -/
  needsKeyword : Bool := false
  sawSlash : Bool := false
  /-- A positional parameter with a default was read. -/
  sawDefault : Bool := false

/-- An hint after a colon. -/
def annotationAfterColon (annotated : Bool) (starAllowed : Bool) : Parser (Option Expr) := do
  if annotated then
    if ← acceptOp ":" then
      if starAllowed then return some (← starOr g g.expression) else return some (← g.expression)
    else return none
  else return none

/-- One parameter, star or slash, added to those before it. -/
def parameter (annotated : Bool) (s : ParamsSoFar) : Parser ParamsSoFar := do
  check s.params.keywords.isNone
  if ← acceptOp "**" then
    check (!s.needsKeyword)
    let name ← identifier
    let hint ← annotationAfterColon g annotated false
    return { s with params := { s.params with keywords := some { name, hint } } }
  else if ← acceptOp "*" then
    check (!s.starred)
    if (← peek).isOp "," then return { s with starred := true, needsKeyword := true }
    let name ← identifier
    let hint ← annotationAfterColon g annotated true
    return { s with starred := true, params := { s.params with variadic := some { name, hint } } }
  else if ← acceptOp "/" then
    check (!s.starred && !s.sawSlash && !s.params.positional.isEmpty)
    return { s with
      sawSlash := true
      params := { s.params with positionalOnly := s.params.positional, positional := [] } }
  else
    let name ← identifier
    let hint ← annotationAfterColon g annotated false
    let default ← if ← acceptOp "=" then some <$> g.expression else pure none
    let param : Param := { name, hint, default }
    if s.starred then
      return { s with
        needsKeyword := false
        params := { s.params with keywordOnly := s.params.keywordOnly ++ [param] } }
    else
      check (default.isSome || !s.sawDefault)
      return { s with
        sawDefault := s.sawDefault || default.isSome
        params := { s.params with positional := s.params.positional ++ [param] } }

/-- Parameters with commas between them, up to a closing token. -/
def parametersFrom (annotated : Bool) (close : Token → Bool) (s : ParamsSoFar) : Nat → Parser Params
  | 0 => fail
  | fuel + 1 => do
    if close (← peek) then
      check (!s.needsKeyword)
      return s.params
    let s ← parameter g annotated s
    if ← acceptOp "," then parametersFrom annotated close s fuel
    else
      check (close (← peek) && !s.needsKeyword)
      return s.params

/-- A parameter list up to a closing token. -/
def parameters (annotated : Bool) (close : Token → Bool) : Parser Params := do
  parametersFrom g annotated close {} (← remaining)

/-- A lambda expression. -/
def lambdaExpression : Parser Expr := do
  let _ ← expectWord "lambda"
  let params ← parameters g false (·.isOp ":")
  let _ ← expectOp ":"
  return .lambda params.expressions (← g.expression)

/-- A conditional expression, or a lambda. -/
def expression : Parser Expr := do
  if (← peek).isWord "lambda" then lambdaExpression g
  else
    let value ← disjunction g
    if ← acceptWord "if" then
      let test ← disjunction g
      let _ ← expectWord "else"
      return .compound .conditional [test, value, ← g.expression]
    else return value

/-! ## 6. Calls and subscripts -/

/-- The arguments of a call: positional and starred ones, and keyword ones. -/
structure CallArguments where
  args : List Expr := []
  keywords : List Keyword := []
  /-- A keyword or a `**` argument was read. -/
  sawKeyword : Bool := false
  sawSpread : Bool := false
  /-- A generator without parentheses was read: it has to be the only argument, with no comma behind
  it. -/
  sawGenerator : Bool := false

/-- One argument, added to those before it. -/
def argument (s : CallArguments) : Parser CallArguments := do
  if ← acceptOp "**" then
    let value ← g.expression
    return { s with
      keywords := s.keywords ++ [.mk none value], sawKeyword := true, sawSpread := true }
  else if (← peek).isOp "*" then
    check (!s.sawSpread)
    let _ ← advance
    return { s with args := s.args ++ [.starred (← g.expression)] }
  else
    let value ← namedExpression g
    if startsClause (← peek) then
      check (s.args.isEmpty && s.keywords.isEmpty)
      let clauses ← comprehensionClauses g
      return { s with
        args := [.compound .comprehension (clauses ++ [value])], sawGenerator := true }
    else if ← acceptOp "=" then
      match value with
      | .name name =>
        check (!s.keywords.any fun k => k.name == some name)
        let value ← g.expression
        return { s with keywords := s.keywords ++ [.mk (some name) value], sawKeyword := true }
      | _ => fail
    else
      check (!s.sawKeyword)
      return { s with args := s.args ++ [value] }

/-- Arguments up to the closing parenthesis. -/
def argumentsFrom (s : CallArguments) : Nat → Parser CallArguments
  | 0 => fail
  | fuel + 1 => do
    if (← peek).isOp ")" then return s
    let s ← argument g s
    if ← acceptOp "," then
      check (!s.sawGenerator)
      argumentsFrom s fuel
    else
      check ((← peek).isOp ")")
      return s

/-- The arguments of a call, after its opening parenthesis, and where the call ends. -/
def callArguments : Parser (CallArguments × Nat) := do
  let s ← argumentsFrom g {} (← remaining)
  let close ← expectOp ")"
  return (s, close.stop)

/-- A bound of a slice, if one is given. -/
def sliceBound : Parser (List Expr) := do
  if startsExpression (← peek) then return [← g.expression] else return []

/-- One subscript: an index or a slice. -/
def subscriptItem : Parser Expr := do
  if ← acceptOp "*" then return .starred (← g.expression)
  else
    let (lower, beforeColon) ←
      if (← peek).isOp ":" then pure ([], true)
      else (fun (e, ok) => ([e], ok)) <$> expressionBeforeColon g
    if ← acceptOp ":" then
      check beforeColon
      let upper ← sliceBound g
      let step ← if ← acceptOp ":" then sliceBound g else pure []
      return .compound .slice (lower ++ upper ++ step)
    else match lower with
      | [index] => return index
      | _ => fail

/-- The subscripts between brackets, after the opening one. -/
def subscripts : Parser Expr := do
  let items ← commaList (·.isOp "]") (subscriptItem g) (← remaining)
  let _ ← expectOp "]"
  return match items with
    | ([single], false) => if isStarred single then .tuple [single] else single
    | (elements, _) => .tuple elements

/-- Attributes, calls and subscripts on an expression that starts at an offset. -/
def chain (start : Nat) (value : Expr) : Nat → Parser Expr
  | 0 => fail
  | fuel + 1 => do
    if ← acceptOp "." then
      let field ← identifier
      chain start (.attr start value field) fuel
    else if ← acceptOp "(" then
      let (s, stop) ← callArguments g
      chain start (.call start stop value s.args s.keywords) fuel
    else if ← acceptOp "[" then
      let index ← subscripts g
      chain start (.subscript start value index) fuel
    else return value

/-! ## 7. Atoms -/

/-- What stands between parentheses, after the opening one. -/
def parenthesized : Parser Expr := do
  if ← acceptOp ")" then return .tuple []
  if (← peek).isWord "yield" then
    let e ← yieldExpression g
    let _ ← expectOp ")"
    return e
  let first ← starOr g (namedExpression g)
  if startsClause (← peek) then
    check (!isStarred first)
    let clauses ← comprehensionClauses g
    let _ ← expectOp ")"
    return .compound .comprehension (clauses ++ [first])
  if ← acceptOp "," then
    if ← acceptOp ")" then return .tuple [first]
    let (rest, _) ← commaList (·.isOp ")") (starOr g (namedExpression g)) (← remaining)
    let _ ← expectOp ")"
    return .tuple (first :: rest)
  check (!isStarred first)
  let _ ← expectOp ")"
  return first

/-- What stands between square brackets, after the opening one. -/
def bracketed : Parser Expr := do
  if ← acceptOp "]" then return .list []
  let first ← starOr g (namedExpression g)
  if startsClause (← peek) then
    check (!isStarred first)
    let clauses ← comprehensionClauses g
    let _ ← expectOp "]"
    return .compound .comprehension (clauses ++ [first])
  if ← acceptOp "," then
    if ← acceptOp "]" then return .list [first]
    let (rest, _) ← commaList (·.isOp "]") (starOr g (namedExpression g)) (← remaining)
    let _ ← expectOp "]"
    return .list (first :: rest)
  let _ ← expectOp "]"
  return .list [first]

/-- One item of a dictionary display. -/
def dictItem : Parser (List Expr) := do
  if ← acceptOp "**" then return [← bitOr g]
  let key ← g.expression
  let _ ← expectOp ":"
  return [key, ← g.expression]

/-- What stands between braces, after the opening one. -/
def braced : Parser Expr := do
  if ← acceptOp "\x7d" then return .compound .dict []
  if (← peek).isOp "**" then
    let (items, _) ← commaList (·.isOp "\x7d") (dictItem g) (← remaining)
    let _ ← expectOp "\x7d"
    return .compound .dict items.flatten
  let (first, beforeColon) ←
    if (← peek).isOp "*" then (fun e => (e, false)) <$> starredExpression g
    else expressionBeforeColon g
  if ← acceptOp ":" then
    check beforeColon
    let value ← g.expression
    if startsClause (← peek) then
      let clauses ← comprehensionClauses g
      let _ ← expectOp "\x7d"
      return .compound .comprehension (clauses ++ [first, value])
    let rest ←
      if ← acceptOp "," then
        if (← peek).isOp "\x7d" then pure []
        else (fun (items : List (List Expr) × Bool) => items.1.flatten) <$>
          commaList (·.isOp "\x7d") (dictItem g) (← remaining)
      else pure []
    let _ ← expectOp "\x7d"
    return .compound .dict (first :: value :: rest)
  if startsClause (← peek) then
    check (!isStarred first)
    let clauses ← comprehensionClauses g
    let _ ← expectOp "\x7d"
    return .compound .comprehension (clauses ++ [first])
  let rest ←
    if ← acceptOp "," then
      if (← peek).isOp "\x7d" then pure []
      else (fun (items : List Expr × Bool) => items.1) <$>
        commaList (·.isOp "\x7d") (starOr g (namedExpression g)) (← remaining)
    else pure []
  let _ ← expectOp "\x7d"
  return .compound .set (first :: rest)

/-- The expression of a replacement field, read from the field's own tokens. -/
def fieldExpression (tokens : List Token) : Except SyntaxError Expr :=
  let whole : Parser Expr := do
    let e ← if (← peek).isWord "yield" then yieldExpression g else namedExpressionList g
    match (← peek).kind with
    | .endOfFile => return e
    | _ => fail
  (whole tokens).map (·.1)

mutual

/-- The expressions of a replacement field, its format's after its own. -/
def fieldParts : Field → Except SyntaxError (List Expr)
  | .mk tokens spec => do
    let e ← fieldExpression g tokens
    return e :: (← fieldsParts spec)

/-- The expressions of replacement fields in order. -/
def fieldsParts : List Field → Except SyntaxError (List Expr)
  | [] => return []
  | f :: fs => do
    let first ← fieldParts f
    return first ++ (← fieldsParts fs)

end

/-- A piece of a string literal. -/
inductive StringPiece where
  | text (value : String)
  | bytes
  | fields (parts : List Expr)

/-- The next piece of a string literal, if the next token is one. -/
def stringPiece? : Parser (Option StringPiece) := do
  match (← peek).kind with
  | .string value =>
    let _ ← advance
    return some (.text value)
  | .bytes =>
    let _ ← advance
    return some .bytes
  | .interpolated fields =>
    match fieldsParts g fields with
    | .ok parts =>
      let _ ← advance
      return some (.fields parts)
    | .error e => fun _ => .error e
  | _ => return none

/-- Adjacent string literals. -/
def stringPieces : Nat → Parser (List StringPiece)
  | 0 => fail
  | fuel + 1 => do
    match ← stringPiece? g with
    | some piece => return piece :: (← stringPieces fuel)
    | none => return []

/-- Adjacent literals are one expression: text if all are text, and interpolated if one is. Bytes
and text do not mix. -/
def stringExpression (pieces : List StringPiece) : Option Expr :=
  let isBytes := fun | StringPiece.bytes => true | _ => false
  let isFields := fun | StringPiece.fields _ => true | _ => false
  if pieces.any isBytes then
    if pieces.all isBytes then some .constant else none
  else if pieces.any isFields then
    some (.compound .interpolated (pieces.flatMap fun | .fields parts => parts | _ => []))
  else
    some (.string (String.join (pieces.map fun | .text value => value | _ => "")))

/-- An atom. -/
def atom : Parser Expr := do
  match (← peek).kind with
  | .name "True" =>
    let _ ← advance
    return .bool true
  | .name "False" =>
    let _ ← advance
    return .bool false
  | .name "None" =>
    let _ ← advance
    return .constant
  | .name _ | .identifier _ => return .name (← identifier)
  | .number _ =>
    let _ ← advance
    return .constant
  | .string _ | .bytes | .interpolated _ =>
    match stringExpression (← stringPieces g (← remaining)) with
    | some e => return e
    | none => fail
  | .op "..." =>
    let _ ← advance
    return .constant
  | .op "(" =>
    let _ ← advance
    parenthesized g
  | .op "[" =>
    let _ ← advance
    bracketed g
  | .op "\x7b" =>
    let _ ← advance
    braced g
  | _ => fail

/-- An atom with what is applied to it. -/
def primary : Parser Expr := do
  let start := (← peek).start
  let a ← atom g
  chain g start a (← remaining)

/-- A primary, possibly awaited. -/
def awaited : Parser Expr := do
  if ← acceptWord "await" then return .compound .await [← primary g]
  else primary g

/-- Signs in front of a power. -/
def factor : Parser Expr := do
  if ["+", "-", "~"].any (← peek).isOp then
    let _ ← advance
    return .compound .unary [← g.factor]
  else
    let base ← awaited g
    if ← acceptOp "**" then return .compound .binary [base, ← g.factor]
    else return base

end

end TaintFlow.Python.Grammar
