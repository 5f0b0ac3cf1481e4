import TaintFlow.Text

/-!
# Sources of untrusted data

Where data from outside enters a program, and the built-in rules that recognise it. A rule sees
only a dotted path and how it is used: called, read or subscripted.
-/

namespace TaintFlow

/-- One source of untrusted data. -/
inductive Source where
  | flaskRequest (part : String)
  | djangoRequest (part : String)
  | fastApiParam (param : String)
  | azureRequest (part : String)
  | input
  | environment
  | commandLine
  | fileRead
  | externalData
  /-- A source named by a configured pattern. -/
  | custom (pattern : String)
  deriving DecidableEq, Repr, Inhabited

namespace Source

/-- Position of the kind in the order of sources. -/
def rank : Source → Nat
  | flaskRequest _ => 0
  | djangoRequest _ => 1
  | fastApiParam _ => 2
  | azureRequest _ => 3
  | input => 4
  | environment => 5
  | commandLine => 6
  | fileRead => 7
  | externalData => 8
  | custom _ => 9

/-- What the kind is about, empty where there is nothing to say. -/
def detail : Source → String
  | flaskRequest s | djangoRequest s | fastApiParam s | azureRequest s | custom s => s
  | _ => ""

instance : Ord Source := ⟨compareLex (compareOn rank) (compareOn detail)⟩

instance : Std.TransOrd Source :=
  inferInstanceAs (Std.TransCmp (compareLex (compareOn rank) (compareOn detail)))

instance : Std.LawfulEqOrd Source where
  eq_of_compare {a b} h := by
    obtain ⟨hr, hd⟩ := compareLex_eq_eq.mp h
    have hr : a.rank = b.rank := Std.LawfulEqOrd.eq_of_compare hr
    have hd : a.detail = b.detail := Std.LawfulEqOrd.eq_of_compare hd
    cases a <;> cases b <;> simp_all [rank, detail]

/-- The identifier in labels and reports. All FastAPI parameters share one. -/
def id : Source → String
  | flaskRequest s => "flask.request." ++ s
  | djangoRequest s => "django.request." ++ s
  | fastApiParam _ => "fastapi.param"
  | azureRequest s => "azure.request." ++ s
  | input => "builtins.input"
  | environment => "os.environ"
  | commandLine => "sys.argv"
  | fileRead => "file.read"
  | externalData => "external.data"
  | custom s => "custom:" ++ s

/-- The description in reports. -/
def display : Source → String
  | flaskRequest s => "Flask request." ++ s
  | djangoRequest s => "Django request." ++ s
  | fastApiParam s => "FastAPI param: " ++ s
  | azureRequest s => "Azure Functions request." ++ s
  | input => "input()"
  | environment => "environment variable"
  | commandLine => "sys.argv"
  | fileRead => "file read"
  | externalData => "external data"
  | custom s => "custom source: " ++ s

/-! ## 1. How a path is used -/

/-- How an expression gets at its value. -/
inductive Access where
  /-- `request.args.get("q")` -/
  | call
  /-- `request.json` -/
  | read
  /-- `request.form["q"]`, where the path names what is subscripted. -/
  | subscript
  deriving DecidableEq, Repr

/-! ## 2. Built-in rules -/

/-- The attributes of a Flask request that hold what the client sent. -/
def flaskAttributes : List String := ["args", "form", "data", "json", "cookies", "files", "values"]

/-- The containers of a Django request. -/
def djangoContainers : List String := ["GET", "POST", "COOKIES"]

/-- The containers of an Azure Functions request. -/
def azureContainers : List String := ["params", "route_params", "headers", "form"]

/-- Reading an attribute path: its first two parts decide. -/
def ofAttribute? (path : String) : Option Source :=
  match Text.split '.' path with
  | "request" :: attr :: _ =>
    if flaskAttributes.contains attr then some (flaskRequest attr)
    else if attr == "body" || djangoContainers.contains attr then some (djangoRequest attr)
    else none
  | "req" :: attr :: _ => if azureContainers.contains attr then some (azureRequest attr) else none
  | "sys" :: "argv" :: _ => some commandLine
  | "os" :: "environ" :: _ => some environment
  | _ => none

/-- A subscript is a source where reading the subscripted value is one. A slice of the request
body is left to the attribute rule. -/
def ofSubscript? (path : String) : Option Source :=
  (ofAttribute? path).filter fun s => s ≠ djangoRequest "body"

/-- A method of a request container, or one of the request's own getters. -/
def ofRequestCall? (name : String) : Option Source :=
  match Text.split '.' name with
  | "request" :: attr :: rest =>
    if !rest.isEmpty && flaskAttributes.contains attr then some (flaskRequest attr)
    else if !rest.isEmpty && djangoContainers.contains attr then some (djangoRequest attr)
    else if name == "request.get_json" || name == "request.get_data" then some (flaskRequest attr)
    else none
  | "req" :: attr :: rest =>
    if !rest.isEmpty && azureContainers.contains attr then some (azureRequest attr)
    else if name == "req.get_json" || name == "req.get_body" then some (azureRequest attr)
    else none
  | _ => none

/-- Calls that return data from outside. -/
def ofCall? (name : String) : Option Source :=
  if name == "input" then some input
  else if name == "os.getenv" || name == "getenv" || name == "os.environ.get" then some environment
  else match ofRequestCall? name with
  | some s => some s
  | none =>
    if Text.endsWith name ".read" || Text.endsWith name ".readlines" ||
        Text.endsWith name ".readline" then some fileRead
    else if ["json.load", "json.loads", "yaml.load", "yaml.safe_load"].contains name then
      some externalData
    else none

/-- The built-in rules, by the way the path is used. -/
def builtin? (path : String) : Access → Option Source
  | .call => ofCall? path
  | .read => ofAttribute? path
  | .subscript => ofSubscript? path

/-- The factories whose call as a default marks a FastAPI request parameter. -/
def fastApiFactories : List String := ["Query", "Path", "Body", "Form", "Header", "Cookie"]

/-- A parameter whose default is a call of such a factory, under any qualification. -/
def ofParamDefault? (param factory : String) : Option Source :=
  let last := (Text.splitLast? '.' factory).elim factory (·.2)
  if fastApiFactories.contains last then some (fastApiParam param) else none

end Source

end TaintFlow
