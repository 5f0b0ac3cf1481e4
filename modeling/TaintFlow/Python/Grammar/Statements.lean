import TaintFlow.Python.Grammar.Expressions

/-!
# Patterns and statements

`match`, `case` and `type` are ordinary names everywhere else, so those statements are recognised
by what follows the word.
-/

namespace TaintFlow.Python.Grammar

open TaintFlow.Python.Parser

section
variable (g : Rules)

/-! ## 1. Patterns

Only the value expressions of a pattern are kept: what it captures plays no part. -/

/-- A pattern that is no star. -/
def starlessPattern : Parser PatternRead := do
  let p ← g.pattern
  check (p.form ≠ .star)
  return p

/-- The value expressions of an argument of a class pattern, and whether it has a keyword. -/
def classArgument : Parser (List Expr × Bool) := do
  let p ← starlessPattern g
  if ← acceptOp "=" then
    check (p.form = .capture)
    return ((← starlessPattern g).values, true)
  else return (p.values, false)

/-- The arguments of a class pattern after its parenthesis: those with keywords come last. -/
def classArguments : Parser (List Expr) := do
  if ← acceptOp ")" then return []
  let (items, _) ← commaList (·.isOp ")") (classArgument g) (← remaining)
  let _ ← expectOp ")"
  check (!(items.dropWhile (!·.2)).any (!·.2))
  return items.flatMap (·.1)

/-- The attributes after a name in a pattern. -/
def patternAttributes (start : Nat) (value : Expr) : Nat → Parser Expr
  | 0 => fail
  | fuel + 1 => do
    if ← acceptOp "." then
      let field ← identifier
      patternAttributes start (.attr start value field) fuel
    else return value

/-- A name in a pattern: a capture, a dotted value or a class. -/
def namePattern : Parser PatternRead := do
  let start := (← peek).start
  let name ← identifier
  let dotted := (← peek).isOp "."
  let value ← patternAttributes start (.name name) (← remaining)
  if (← peek).isOp "(" then
    check (dotted || name ≠ "_")
    let _ ← advance
    return { form := .other, values := value :: (← classArguments g) }
  else if dotted then return { form := .dotted, values := [value] }
  else return { form := if name = "_" then .other else .capture, values := [] }

/-- A number, possibly negative. -/
def signedNumber : Parser PatternRead := do
  let negative ← acceptOp "-"
  match (← peek).kind with
  | .number imaginary =>
    let _ ← if negative then g.factor else atom g
    return { form := .number imaginary, values := [] }
  | _ => fail

/-- A number with its sign, or the sum or difference of a real and an imaginary one. -/
def numberPattern : Parser PatternRead := do
  let first ← signedNumber g
  if (← peek).isOp "+" || (← peek).isOp "-" then
    let _ ← advance
    let second ← signedNumber g
    check (first.form = .number false && second.form = .number true)
    return { form := .literal, values := [] }
  else return first

/-- A literal or a name. -/
def valuePattern : Parser PatternRead := do
  match (← peek).kind with
  | .op "-" | .number _ => numberPattern g
  | .string _ | .bytes | .interpolated _ => return { form := .literal, values := [← atom g] }
  | .name text =>
    if ["None", "True", "False"].contains text then
      let _ ← advance
      return { form := .literal, values := [] }
    else namePattern g
  | _ => namePattern g

/-- The value expressions of an item of a mapping pattern, and whether it captures what is left. -/
def mappingItem : Parser (List Expr × Bool) := do
  if ← acceptOp "**" then
    let _ ← identifier
    return ([], true)
  else
    let key ← valuePattern g
    check key.form.isKey
    let _ ← expectOp ":"
    return (key.values ++ (← starlessPattern g).values, false)

/-- A mapping pattern after its brace. Only its last item captures what is left. -/
def mappingPattern : Parser PatternRead := do
  if ← acceptOp "\x7d" then return { form := .other, values := [] }
  let (items, _) ← commaList (·.isOp "\x7d") (mappingItem g) (← remaining)
  let _ ← expectOp "\x7d"
  check (!items.dropLast.any (·.2))
  return { form := .other, values := items.flatMap (·.1) }

/-- The items of a sequence pattern, up to its closing bracket, and whether a comma shows that it is
one. -/
def patternItems (close : String) : Parser (List PatternRead × Bool) := do
  if ← acceptOp close then return ([], true)
  let items ← commaList (·.isOp close) g.pattern (← remaining)
  let _ ← expectOp close
  return items

/-- A pattern without alternatives and captures. One pattern in parentheses is that pattern. -/
def closedPattern : Parser PatternRead := do
  if ← acceptOp "*" then
    let _ ← identifier
    return { form := .star, values := [] }
  else if ← acceptOp "(" then
    match ← patternItems g ")" with
    | ([single], false) => return single
    | (items, _) => return { form := .other, values := items.flatMap PatternRead.values }
  else if ← acceptOp "[" then
    let (items, _) ← patternItems g "]"
    return { form := .other, values := items.flatMap PatternRead.values }
  else if ← acceptOp "\x7b" then mappingPattern g
  else valuePattern g

/-- A pattern: alternatives, possibly captured as a whole. A star stands alone. -/
def pattern : Parser PatternRead := do
  let first ← closedPattern g
  let rest ← whileNext (·.isOp "|") (do let _ ← advance; closedPattern g) (← remaining)
  let named ← acceptWord "as"
  if named then
    let _ ← identifier
  if rest.isEmpty && !named then return first
  check ((first :: rest).all fun p => p.form ≠ .star)
  return { form := .other, values := (first :: rest).flatMap PatternRead.values }

/-- The value expressions of the pattern of a case: several patterns with commas are a sequence, and
a star is an item of one. -/
def casePattern : Parser (List Expr) := do
  let ends := fun (t : Token) => t.isOp ":" || t.isWord "if"
  match ← commaList ends g.pattern (← remaining) with
  | ([single], false) =>
    check (single.form ≠ .star)
    return single.values
  | (items, _) => return items.flatMap PatternRead.values

/-! ## 2. Simple statements -/

/-- The values after each `=` of an assignment; the last is what is assigned. -/
def assignedValues : Nat → Parser (List Expr)
  | 0 => fail
  | fuel + 1 => do
    if ← acceptOp "=" then
      let value ← yieldOrList g
      return value :: (← assignedValues fuel)
    else return []

/-- The augmented assignment operators. -/
def augmentedOps : List String :=
  ["+=", "-=", "*=", "/=", "//=", "%=", "@=", "&=", "|=", "^=", ">>=", "<<=", "**="]

/-- An expression statement or an assignment. -/
def expressionStatement : Parser Stmt := do
  let start := (← peek).start
  let first ← yieldOrList g
  if (← peek).isOp "=" then
    let values ← assignedValues g (← remaining)
    let targets := first :: values.dropLast
    check (targets.all isTarget)
    return .assign start targets (values.getLastD first)
  else if ← acceptOp ":" then
    check (isPlace first)
    let hint ← g.expression
    let value ← if ← acceptOp "=" then some <$> yieldOrList g else pure none
    return .annAssign first hint value
  else if augmentedOps.any (← peek).isOp then
    check (isPlace first)
    let _ ← advance
    return .augAssign first (← yieldOrList g)
  else return .expr first

/-- A name with the name it is imported as. -/
def importedName (name : Parser String) : Parser ImportedName := do
  let name ← name
  let rename ← if ← acceptWord "as" then some <$> identifier else pure none
  return { name, rename }

/-- An `import` statement. -/
def importStatement : Parser Stmt := do
  let start := (← expectWord "import").start
  let (names, _) ← commaList (fun _ => false) (importedName dottedName) (← remaining)
  return .importModules start names

/-- The leading dots of a relative import. -/
def importDots : Nat → Parser Nat
  | 0 => fail
  | fuel + 1 => do
    if ← acceptOp "." then return (← importDots fuel) + 1
    else if ← acceptOp "..." then return (← importDots fuel) + 3
    else return 0

/-- The names of an import between parentheses, after the opening one. A star stands alone. -/
def parenthesizedNames : Parser (List ImportedName) := do
  let star : Parser ImportedName := do
    let _ ← expectOp "*"
    return ⟨"*", none⟩
  let item := do if (← peek).isOp "*" then star else importedName identifier
  let (names, _) ← commaList (·.isOp ")") item (← remaining)
  let _ ← expectOp ")"
  check (names.length = 1 || names.all fun n => n.name ≠ "*")
  return names

/-- A `from` import statement. -/
def fromStatement : Parser Stmt := do
  let start := (← expectWord "from").start
  let level ← importDots (← remaining)
  let module ← if (← peek).isWord "import" then pure none else some <$> dottedName
  check (0 < level || module.isSome)
  let _ ← expectWord "import"
  if ← acceptOp "*" then
    return .importFrom start module level [⟨"*", none⟩]
  else if ← acceptOp "(" then
    return .importFrom start module level (← parenthesizedNames)
  else
    let (names, _) ← commaList (fun _ => false) (importedName identifier) (← remaining)
    return .importFrom start module level names

/-- The bound and default expressions of a type parameter. -/
def typeParameter : Parser (List Expr) := do
  let starred ← acceptOp "*"
  let doubled ← if starred then pure false else acceptOp "**"
  let _ ← identifier
  let bound ←
    if !starred && !doubled && (← acceptOp ":") then (fun e => [e]) <$> g.expression else pure []
  let value := if starred then starOr g g.expression else g.expression
  let default ← if ← acceptOp "=" then (fun e => [e]) <$> value else pure []
  return bound ++ default

/-- A list of type parameters, if there is one. -/
def typeParameters : Parser (List Expr) := do
  if ← acceptOp "[" then
    let (items, _) ← commaList (·.isOp "]") (typeParameter g) (← remaining)
    let _ ← expectOp "]"
    return items.flatten
  else return []

/-- A `type` alias statement. -/
def typeAliasStatement : Parser Stmt := do
  let _ ← expectWord "type"
  let name ← identifier
  let typeParams ← typeParameters g
  let _ ← expectOp "="
  return .typeAlias (.name name) typeParams (← g.expression)

/-- Whether a `type` alias starts here: a name follows, and a bracket or `=` after it. -/
def startsTypeAlias : Parser Bool := fun ts =>
  let yes := match ts with
    | a :: b :: c :: _ =>
      a.isWord "type" && (c.isOp "[" || c.isOp "=") &&
        match b.kind with
        | .name text => !isKeyword text
        | .identifier _ => true
        | _ => false
    | _ => false
  .ok (yes, ts)

/-- Names after `global` or `nonlocal`. -/
def nameList : Parser Unit := do
  let _ ← commaList (fun _ => false) identifier (← remaining)
  return ()

/-- A `del` statement after its word. -/
def deleteStatement : Parser Stmt := do
  let (targets, _) ← commaList endsList g.expression (← remaining)
  check (targets.all isDeletable)
  return .delete targets

/-- A simple statement. -/
def simpleStatement : Parser Stmt := do
  match (← peek).kind with
  | .name "pass" | .name "break" | .name "continue" =>
    let _ ← advance
    return .plain
  | .name "global" | .name "nonlocal" =>
    let _ ← advance
    nameList
    return .plain
  | .name "return" =>
    let _ ← advance
    if startsExpression (← peek) then return .ret (some (← expressionList g)) else return .ret none
  | .name "raise" =>
    let _ ← advance
    if startsExpression (← peek) then
      let exception ← g.expression
      let cause ← if ← acceptWord "from" then some <$> g.expression else pure none
      return .raise (some exception) cause
    else return .raise none none
  | .name "assert" =>
    let _ ← advance
    let test ← g.expression
    let message ← if ← acceptOp "," then some <$> g.expression else pure none
    return .assert test message
  | .name "del" =>
    let _ ← advance
    deleteStatement g
  | .name "import" => importStatement
  | .name "from" => fromStatement
  | _ => if ← startsTypeAlias then typeAliasStatement g else expressionStatement g

/-- Simple statements on one line, with semicolons between them. -/
def simpleStatements : Nat → Parser (List Stmt)
  | 0 => fail
  | fuel + 1 => do
    let first ← simpleStatement g
    if ← acceptOp ";" then
      if (← peek).isNewline then
        expectNewline
        return [first]
      return first :: (← simpleStatements fuel)
    else
      expectNewline
      return [first]

/-! ## 3. Compound statements -/

/-- A body after its colon. -/
def body : Parser (List Stmt) := do
  let _ ← expectOp ":"
  g.block

/-- An `else` body, empty without one. -/
def elseBody : Parser (List Stmt) := do
  if ← acceptWord "else" then body g else return []

/-- The `elif` and `else` clauses of an `if`. -/
def clauses : Nat → Parser (List Clause)
  | 0 => fail
  | fuel + 1 => do
    if ← acceptWord "elif" then
      let test ← namedExpression g
      let block ← body g
      return .mk (some test) block :: (← clauses fuel)
    else if ← acceptWord "else" then return [.mk none (← body g)]
    else return []

/-- An `if` statement. -/
def ifStatement : Parser Stmt := do
  let _ ← expectWord "if"
  let test ← namedExpression g
  let block ← body g
  return .ifElse test block (← clauses g (← remaining))

/-- A `while` statement. -/
def whileStatement : Parser Stmt := do
  let _ ← expectWord "while"
  let test ← namedExpression g
  let block ← body g
  return .whileLoop test block (← elseBody g)

/-- A `for` statement. -/
def forStatement : Parser Stmt := do
  let _ ← expectWord "for"
  let target ← targetList g
  let _ ← expectWord "in"
  let iter ← expressionList g
  let block ← body g
  return .forLoop target iter block (← elseBody g)

/-- One item of a `with` statement. -/
def withItem : Parser WithItem := do
  let context ← g.expression
  if ← acceptWord "as" then
    let target ← starOr g (bitOr g)
    check (isTarget target)
    return { context, target := some target }
  else return { context, target := none }

/-- The items of a `with` statement inside parentheses, up to the colon. -/
def parenthesizedItems : Parser (List WithItem) := do
  let _ ← expectOp "("
  let (items, _) ← commaList (·.isOp ")") (withItem g) (← remaining)
  let _ ← expectOp ")"
  check ((← peek).isOp ":")
  return items

/-- A `with` statement. Items may stand in parentheses; an expression in parentheses is tried after
that. -/
def withStatement : Parser Stmt := do
  let _ ← expectWord "with"
  let grouped ← attempt (parenthesizedItems g)
  let items ← match grouped with
    | some items => pure items
    | none => (fun (items : List WithItem × Bool) => items.1) <$>
        commaList (fun _ => false) (withItem g) (← remaining)
  return .withItems items (← body g)

/-- The exceptions that a handler takes: several need no parentheses unless they are given a name. -/
def handledExceptions : Parser Expr := do
  let types ← commaList endsList (starOr g g.expression) (← remaining)
  if ← acceptWord "as" then
    let _ ← identifier
    check (types.1.length = 1 && !types.2)
  return tupleOr types

/-- One exception handler, and whether it takes groups. -/
def handler : Parser (Handler × Bool) := do
  let _ ← expectWord "except"
  let starred ← acceptOp "*"
  if (← peek).isOp ":" then
    check (!starred)
    return (.mk none (← body g), starred)
  let type ← handledExceptions g
  return (.mk (some type) (← body g), starred)

/-- A `try` statement. It has a handler or a `finally` body, and its handlers are of one kind. -/
def tryStatement : Parser Stmt := do
  let _ ← expectWord "try"
  let block ← body g
  let handlers ← whileNext (·.isWord "except") (handler g) (← remaining)
  check (handlers.all (·.2) || handlers.all (!·.2))
  let orelse ← elseBody g
  let sawFinal ← acceptWord "finally"
  let final ← if sawFinal then body g else pure []
  check (sawFinal || !handlers.isEmpty)
  return .tryExcept block (handlers.map (·.1)) orelse final

/-- A function definition that starts at an offset. -/
def functionDefinition (start : Nat) (decorators : List Expr) : Parser Stmt := do
  let _ ← expectWord "def"
  let name ← identifier
  let typeParams ← typeParameters g
  let _ ← expectOp "("
  let params ← parameters g true (·.isOp ")")
  let _ ← expectOp ")"
  let returns ← if ← acceptOp "->" then some <$> g.expression else pure none
  return .functionDef start decorators name typeParams params returns (← body g)

/-- A class definition. -/
def classDefinition (decorators : List Expr) : Parser Stmt := do
  let _ ← expectWord "class"
  let name ← identifier
  let typeParams ← typeParameters g
  let args ← if ← acceptOp "(" then
      (fun (s : CallArguments × Nat) => s.1.args ++ s.1.keywords.map Keyword.value) <$>
        callArguments g
    else pure []
  return .classDef decorators name typeParams args (← body g)

/-- A decorator line. -/
def decorator : Parser Expr := do
  let _ ← expectOp "@"
  let e ← namedExpression g
  expectNewline
  return e

/-- A definition with its decorators, from the first of which it starts. -/
def decorated : Parser Stmt := do
  let start := (← peek).start
  let decorators ← whileNext (·.isOp "@") (decorator g) (← remaining)
  if (← peek).isWord "class" then classDefinition g decorators
  else
    let _ ← acceptWord "async"
    functionDefinition g start decorators

/-- An `async` statement. -/
def asyncStatement : Parser Stmt := do
  let start := (← expectWord "async").start
  let t ← peek
  if t.isWord "def" then functionDefinition g start []
  else if t.isWord "for" then forStatement g
  else if t.isWord "with" then withStatement g
  else fail

/-- One case of a `match` statement. -/
def caseBlock : Parser Case := do
  let _ ← expectWord "case"
  let values ← casePattern g
  let guard ← if ← acceptWord "if" then some <$> namedExpression g else pure none
  return .mk values guard (← body g)

/-- The head of a `match` statement, up to its colon. -/
def matchHead : Parser Expr := do
  let _ ← expectWord "match"
  let subject ← namedExpressionList g
  let _ ← expectOp ":"
  return subject

/-- The cases of a `match` statement after its head. -/
def matchCases (subject : Expr) : Parser Stmt := do
  check (!isStarred subject)
  expectNewline
  match (← advance).kind with
  | .indent =>
    check ((← peek).isWord "case")
    let cases ← whileNext (·.isWord "case") (caseBlock g) (← remaining)
    match (← advance).kind with
    | .dedent => return .matchOn subject cases
    | _ => fail
  | _ => fail

/-- A statement, or the simple statements of one line. -/
def statement : Parser (List Stmt) := do
  match (← peek).kind with
  | .name "if" => return [← ifStatement g]
  | .name "while" => return [← whileStatement g]
  | .name "for" => return [← forStatement g]
  | .name "with" => return [← withStatement g]
  | .name "try" => return [← tryStatement g]
  | .name "def" => return [← functionDefinition g (← peek).start []]
  | .name "class" => return [← classDefinition g []]
  | .name "async" => return [← asyncStatement g]
  | .op "@" => return [← decorated g]
  | .name "match" =>
    match ← attempt (matchHead g) with
    | some subject => return [← matchCases g subject]
    | none => simpleStatements g (← remaining)
  | _ => simpleStatements g (← remaining)

/-- Statements up to a token that ends them. -/
def statementsUntil (ends : TokenKind → Bool) : Nat → Parser (List Stmt)
  | 0 => fail
  | fuel + 1 => do
    if ends (← peek).kind then return []
    let first ← statement g
    return first ++ (← statementsUntil ends fuel)

/-- A body: simple statements on the same line, or an indented block. -/
def block : Parser (List Stmt) := do
  if (← peek).isNewline then
    expectNewline
    match (← advance).kind with
    | .indent =>
      let stmts ← statementsUntil g (fun | .dedent => true | _ => false) (← remaining)
      let _ ← advance
      return stmts
    | _ => fail
  else simpleStatements g (← remaining)

end

/-! ## 4. Modules -/

/-- The rules one level up. -/
def deepen (g : Rules) : Rules where
  expression := expression g
  factor := factor g
  inversion := inversion g
  pattern := pattern g
  block := block g

/-- The rules with a number of levels of recursion. -/
def rules (levels : Nat) : Rules := Nat.repeat deepen levels .exhausted

mutual

/-- The number of tokens, with those inside interpolated strings. -/
def tokenCount : List Token → Nat
  | [] => 0
  | .mk (.interpolated fields) _ _ :: ts => fieldTokenCount fields + tokenCount ts + 1
  | _ :: ts => tokenCount ts + 1

/-- The number of tokens inside replacement fields. -/
def fieldTokenCount : List Field → Nat
  | [] => 0
  | .mk tokens spec :: fs => tokenCount tokens + fieldTokenCount spec + fieldTokenCount fs + 1

end

/-- The statements of a whole token list. Between two tokens the grammar descends through at most
four levels of rules. -/
def moduleBody (tokens : List Token) : Except SyntaxError (List Stmt) :=
  let g := rules (4 * tokenCount tokens + 4)
  (statementsUntil g (fun | .endOfFile => true | _ => false) (tokens.length + 1) tokens).map (·.1)

end TaintFlow.Python.Grammar
