import TaintFlow.Pattern
import TaintFlow.Sink
import TaintFlow.Source

/-!
# The registry of patterns

What counts as a source, a sink or a sanitizer is decided by families of rules. The registry asks
its families in order, and the first answer counts. A sanitizer family covers the weaknesses it
lists, and all of them if it lists none.
-/

namespace TaintFlow

/-! ## 1. Families -/

/-- A family of source rules. -/
structure SourceFamily where
  name : String
  /-- The source that a path is when used in a way. -/
  detect : String → Source.Access → Option Source
  /-- The patterns as listed for a reader. -/
  patterns : List String

/-- A family of sink rules. -/
structure SinkFamily where
  name : String
  detect : CallShape → Option Sink
  patterns : List String

/-- A family of sanitizers. -/
structure SanitizerFamily where
  name : String
  /-- Whether a callee is one of them. -/
  includes : String → Bool
  /-- The weaknesses they cover; none listed means all. -/
  covered : List Weakness

/-- The families in the order in which they are asked. -/
structure Registry where
  sources : List SourceFamily := []
  sinks : List SinkFamily := []
  sanitizers : List SanitizerFamily := []

namespace SourceFamily

/-- The built-in source rules restricted to some kinds of source. -/
def builtinWhere (name : String) (kind : Source → Bool) (patterns : List String) : SourceFamily where
  name
  detect path access := (Source.builtin? path access).filter kind
  patterns

def flask : SourceFamily :=
  builtinWhere "Flask" (fun | .flaskRequest _ => true | _ => false)
    ["request.args", "request.form", "request.data", "request.json", "request.cookies",
      "request.files"]

def django : SourceFamily :=
  builtinWhere "Django" (fun | .djangoRequest _ => true | _ => false)
    ["request.GET", "request.POST", "request.body", "request.COOKIES"]

def azure : SourceFamily :=
  builtinWhere "AzureFunctions" (fun | .azureRequest _ => true | _ => false)
    ["req.params", "req.route_params", "req.headers", "req.form", "req.get_json", "req.get_body"]

def builtin : SourceFamily :=
  builtinWhere "Builtin"
    (fun | .input | .environment | .commandLine | .fileRead | .externalData => true | _ => false)
    ["input()", "sys.argv", "os.environ", "os.getenv", "json.load"]

/-- Configured sources: any use of a matching path. -/
def configured (patterns : List NamePattern) : SourceFamily where
  name := "DynamicConfig"
  detect path _ := (patterns.find? fun p => p.matchesName path).map fun p => .custom p.text
  patterns := patterns.map (·.text)

end SourceFamily

namespace SinkFamily

def builtin : SinkFamily where
  name := "Builtin"
  detect := Sink.builtin?
  patterns := Sink.builtinPatterns

/-- Configured sinks: the first positional argument does harm. -/
def configured (patterns : List (NamePattern × SinkPattern)) : SinkFamily where
  name := "DynamicConfig"
  detect call :=
    (patterns.find? fun p => p.1.matchesName call.name).map fun (pattern, sink) =>
      { id := "custom." ++ pattern.text
        name := call.name
        weakness := sink.weakness
        severity := sink.severity
        dangerousArgs := [0]
        dangerousKeywords := []
        remediation := "Review data flow to this custom sink." }
  patterns := patterns.map fun p => p.1.text

end SinkFamily

namespace SanitizerFamily

/-- A family given by the names of its members. -/
def ofNames (name : String) (members : List String) (covered : List Weakness) : SanitizerFamily where
  name
  includes := members.contains
  covered

/-- Numbers and booleans cannot carry a payload of any kind. -/
def typeCoercion : SanitizerFamily :=
  ofNames "TypeCoercion"
    ["int", "float", "bool", "uuid.UUID", "UUID", "decimal.Decimal", "Decimal"] []

def htmlEscape : SanitizerFamily :=
  ofNames "HtmlEscape"
    ["html.escape", "escape", "cgi.escape", "markupsafe.escape", "bleach.clean",
      "django.utils.html.escape"] [.xss]

def shellQuote : SanitizerFamily :=
  ofNames "ShellQuote" ["shlex.quote", "pipes.quote", "shlex.split"] [.commandInjection]

def pathNormalize : SanitizerFamily :=
  ofNames "PathNormalize"
    ["os.path.basename", "basename", "werkzeug.utils.secure_filename", "secure_filename"]
    [.pathTraversal]

def urlQuote : SanitizerFamily :=
  ofNames "UrlQuote" ["urllib.parse.quote", "urllib.parse.quote_plus", "quote", "quote_plus"]
    [.ssrf, .openRedirect]

/-- Configured sanitizers cover everything. -/
def configured (patterns : List NamePattern) : SanitizerFamily where
  name := "DynamicConfig"
  includes callee := patterns.any fun p => p.matchesName callee
  covered := []

/-- Whether the family covers a weakness. -/
def covers (f : SanitizerFamily) (w : Weakness) : Bool := f.covered.isEmpty || f.covered.contains w

end SanitizerFamily

/-! ## 2. The registry -/

namespace Registry

/-- No families. -/
def empty : Registry := {}

/-- The built-in families. -/
def builtin : Registry where
  sources := [.flask, .django, .azure, .builtin]
  sinks := [.builtin]
  sanitizers := [.typeCoercion, .htmlEscape, .shellQuote, .pathNormalize, .urlQuote]

/-- Adds configured patterns after the families that are there. A family without patterns is left
out. -/
def addPatterns (r : Registry) (p : Patterns) : Registry where
  sources := r.sources ++ if p.sources.isEmpty then [] else [.configured p.sources]
  sinks := r.sinks ++ if p.sinks.isEmpty then [] else [.configured p.sinks]
  sanitizers := r.sanitizers ++ if p.sanitizers.isEmpty then [] else [.configured p.sanitizers]

/-- The source that a path is when used in a way. -/
def source? (r : Registry) (path : String) (access : Source.Access) : Option Source :=
  r.sources.findSome? fun f => f.detect path access

/-- The sink that a call is. -/
def sink? (r : Registry) (call : CallShape) : Option Sink := r.sinks.findSome? fun f => f.detect call

/-- Whether a callee is a sanitizer. -/
def isSanitizer (r : Registry) (callee : String) : Bool :=
  r.sanitizers.any fun f => f.includes callee

/-- Whether a sanitizer covers a weakness. -/
def covers (r : Registry) (sanitizer : String) (w : Weakness) : Bool :=
  r.sanitizers.any fun f => f.includes sanitizer && f.covers w

/-- Whether a sanitizer covers every weakness by itself. -/
def coversAll (r : Registry) (sanitizer : String) : Bool :=
  r.sanitizers.any fun f => f.includes sanitizer && f.covered.isEmpty

/-- The families with their patterns, or with what they cover. -/
def describe (r : Registry) : List (String × List String) :=
  r.sources.map (fun f => ("source:" ++ f.name, f.patterns)) ++
    r.sinks.map (fun f => ("sink:" ++ f.name, f.patterns)) ++
    r.sanitizers.map fun f =>
      ("sanitizer:" ++ f.name,
        if f.covered.isEmpty then ["covers: all"]
        else f.covered.map fun w => "covers: " ++ w.display)

/-- The names of the families in one line. -/
def summary (r : Registry) : String :=
  let names (ns : List String) : String :=
    "[" ++ Text.join ", " (ns.map fun n => "\"" ++ n ++ "\"") ++ "]"
  "PatternRegistry \x7b sources: " ++ names (r.sources.map (·.name)) ++
    ", sinks: " ++ names (r.sinks.map (·.name)) ++
    ", sanitizers: " ++ names (r.sanitizers.map (·.name)) ++ " \x7d"

end Registry

end TaintFlow
