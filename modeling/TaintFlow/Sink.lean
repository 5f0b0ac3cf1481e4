import TaintFlow.Weakness

/-!
# Dangerous sinks

The calls through which tainted data does harm: the catalogue of built-in sinks, and the rule
that decides which of them a call is, from the callee's dotted name and the shape of its
arguments.
-/

namespace TaintFlow

/-- One kind of sink in the catalogue. -/
structure SinkKind where
  id : String
  weakness : Weakness
  severity : Severity
  remediation : String
  deriving DecidableEq, Repr

/-- A call recognised as a sink. -/
structure Sink where
  /-- The kind's identifier, such as `sql.execute`. -/
  id : String
  /-- The callee as written. -/
  name : String
  weakness : Weakness
  severity : Severity
  /-- The positional arguments through which data does harm. -/
  dangerousArgs : List Nat
  /-- The keyword arguments through which data does harm. -/
  dangerousKeywords : List String
  remediation : String
  deriving DecidableEq, Repr, Inhabited

/-- What can be seen of a call without resolving it. -/
structure CallShape where
  /-- The dotted callee; an unknown receiver is written as a leading `.`. -/
  name : String
  positional : Nat := 0
  keywords : List String := []
  /-- The keywords given as the literal `True`. -/
  trueKeywords : List String := []
  deriving DecidableEq, Repr

namespace SinkKind

/-! ## 1. The catalogue -/

def codeEval : SinkKind where
  id := "code.eval"
  weakness := .codeInjection
  severity := .critical
  remediation := "Avoid eval() with user input. Use ast.literal_eval() for safe parsing."

def codeExec : SinkKind where
  id := "code.exec"
  weakness := .codeInjection
  severity := .critical
  remediation := "Avoid exec() and compile() with user input. Consider safer alternatives."

def sqlExecute : SinkKind where
  id := "sql.execute"
  weakness := .sqlInjection
  severity := .critical
  remediation := "Use parameterized queries: cursor.execute(sql, (param,))"

def sqlText : SinkKind where
  id := "sql.text"
  weakness := .sqlInjection
  severity := .critical
  remediation := "Use bound parameters: text('SELECT * WHERE id=:id').bindparams(id=val)"

def sqlRaw : SinkKind where
  id := "sql.raw"
  weakness := .sqlInjection
  severity := .critical
  remediation := "Use Django ORM methods instead of raw SQL."

def sqlRead : SinkKind where
  id := "sql.read_sql"
  weakness := .sqlInjection
  severity := .high
  remediation := "Use parameterized queries with pd.read_sql(sql, con, params=[...])"

def commandExec : SinkKind where
  id := "command.exec"
  weakness := .commandInjection
  severity := .critical
  remediation := "Use subprocess.run() with shell=False and a list of arguments."

def pathOpen : SinkKind where
  id := "path.open"
  weakness := .pathTraversal
  severity := .high
  remediation := "Validate and sanitize file paths. Use os.path.basename() or pathlib."

def pathFileOps : SinkKind where
  id := "path.file_ops"
  weakness := .pathTraversal
  severity := .high
  remediation := "Validate file paths before file operations."

def httpRequest : SinkKind where
  id := "ssrf.request"
  weakness := .ssrf
  severity := .critical
  remediation := "Validate URLs against an allowlist. Block internal/private IP ranges."

def xssTemplate : SinkKind where
  id := "xss.template_string"
  weakness := .xss
  severity := .high
  remediation := "Use render_template() with template files instead."

def xssMarkup : SinkKind where
  id := "xss.mark_safe"
  weakness := .xss
  severity := .high
  remediation := "Escape user input before marking as safe."

def deserializePickle : SinkKind where
  id := "deserialize.pickle"
  weakness := .deserialization
  severity := .critical
  remediation := "Avoid unpickling untrusted data. Use JSON or other safe formats."

def deserializeYaml : SinkKind where
  id := "deserialize.yaml"
  weakness := .deserialization
  severity := .critical
  remediation := "Use yaml.safe_load() instead."

def openRedirect : SinkKind where
  id := "redirect"
  weakness := .openRedirect
  severity := .medium
  remediation := "Validate redirect URLs against an allowlist."

/-- Every built-in kind, in catalogue order. -/
def catalog : List SinkKind :=
  [codeEval, codeExec, sqlExecute, sqlText, sqlRaw, sqlRead, commandExec, pathOpen, pathFileOps,
    httpRequest, xssTemplate, xssMarkup, deserializePickle, deserializeYaml, openRedirect]

/-- The catalogue entry with an identifier. -/
def find? (id : String) : Option SinkKind := catalog.find? fun k => k.id == id

/-- A call of this kind: the first positional argument does harm, and the given keywords. -/
def on (kind : SinkKind) (name : String) (keywords : List String := []) : Sink where
  id := kind.id
  name := name
  weakness := kind.weakness
  severity := kind.severity
  dangerousArgs := [0]
  dangerousKeywords := keywords
  remediation := kind.remediation

end SinkKind

namespace CallShape

/-- Whether a keyword argument is passed. -/
def hasKeyword (c : CallShape) (name : String) : Bool := c.keywords.contains name

/-- Whether a keyword argument is the literal `True`. -/
def hasTrueKeyword (c : CallShape) (name : String) : Bool := c.trueKeywords.contains name

/-- Whether an execute call passes its parameters apart from the statement. -/
def isParameterized (c : CallShape) : Bool :=
  2 ≤ c.positional || c.hasKeyword "parameters" || c.hasKeyword "params"

end CallShape

namespace Sink

/-! ## 2. Which sink a call is -/

/-- The built-in sink rules, the first that applies. -/
def builtin? (call : CallShape) : Option Sink :=
  let name := call.name
  let starts := Text.startsWith name
  let ends := Text.endsWith name
  if name == "eval" then some (SinkKind.codeEval.on name)
  else if name == "exec" || name == "compile" then some (SinkKind.codeExec.on name)
  else if ends ".execute" || ends ".executemany" || ends ".executescript" then
    if call.isParameterized then none else some (SinkKind.sqlExecute.on name)
  else if name == "sqlalchemy.text" || name == "text" || ends ".text" then
    some (SinkKind.sqlText.on name)
  else if ends ".objects.raw" then some (SinkKind.sqlRaw.on name)
  else if name == "pandas.read_sql" || name == "pd.read_sql" then
    if call.hasKeyword "params" then none else some (SinkKind.sqlRead.on name)
  else if name == "os.system" || name == "os.popen" then some (SinkKind.commandExec.on name)
  else if starts "subprocess." && call.hasTrueKeyword "shell" then
    some { SinkKind.commandExec.on name ["args"] with
      remediation := "Use shell=False and pass arguments as a list." }
  else if name == "open" then some (SinkKind.pathOpen.on name ["file"])
  else if starts "shutil." then
    some { SinkKind.pathFileOps.on name with dangerousArgs := [0, 1] }
  else if starts "requests." || starts "httpx." || name == "urllib.request.urlopen" ||
      name == "urlopen" then some (SinkKind.httpRequest.on name ["url"])
  else if name == "flask.render_template_string" || name == "render_template_string" then
    some (SinkKind.xssTemplate.on name)
  else if name == "jinja2.Markup" || name == "Markup" || name == "mark_safe" then
    some (SinkKind.xssMarkup.on name)
  else if name == "pickle.load" || name == "pickle.loads" then
    some (SinkKind.deserializePickle.on name)
  else if name == "yaml.load" || name == "yaml.unsafe_load" then
    some (SinkKind.deserializeYaml.on name)
  else if name == "redirect" || name == "flask.redirect" || name == "django.shortcuts.redirect" then
    some (SinkKind.openRedirect.on name)
  else none

/-- The built-in sink patterns as they are listed for a reader. -/
def builtinPatterns : List String :=
  ["eval", "exec", "compile", ".execute", ".executemany", ".executescript", ".text",
    ".objects.raw", "os.system", "os.popen", "subprocess.", "open", "shutil.", "requests.",
    "httpx.", "urlopen", "render_template_string", "Markup", "mark_safe", "pickle.load",
    "pickle.loads", "yaml.load", "redirect"]

end Sink

end TaintFlow
