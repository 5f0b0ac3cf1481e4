import TaintFlow.Text

/-!
# Severities and weaknesses

What a finding may be and how bad it is. Both enumerations have a written name (in JSON and in
configuration), a display name (in reports) and a reader that is lenient about case.
-/

namespace TaintFlow

/-- How bad a finding is, from least to worst. -/
inductive Severity where
  | low
  | medium
  | high
  | critical
  deriving DecidableEq, Repr, Inhabited

namespace Severity

/-- All severities, worst first: the order of a report. -/
def worstFirst : List Severity := [critical, high, medium, low]

/-- Position in the order, `low` first. -/
def rank : Severity → Nat
  | low => 0
  | medium => 1
  | high => 2
  | critical => 3

/-- The name in JSON and in configuration. -/
def name : Severity → String
  | low => "low"
  | medium => "medium"
  | high => "high"
  | critical => "critical"

/-- The name in reports. -/
def display : Severity → String
  | low => "LOW"
  | medium => "MEDIUM"
  | high => "HIGH"
  | critical => "CRITICAL"

/-- Reads exactly the written name. -/
def ofName? (s : String) : Option Severity := worstFirst.find? fun v => v.name == s

/-- Reads a name in any case, or says what is unknown. -/
def parse (s : String) : Except String Severity :=
  let s := Text.lowerAscii s
  match ofName? s with
  | some v => .ok v
  | none => .error s!"unknown severity '{s}'"

end Severity

/-- The kinds of vulnerability that a sink can cause. -/
inductive Weakness where
  | sqlInjection
  | commandInjection
  | codeInjection
  | pathTraversal
  | ssrf
  | xss
  | deserialization
  | openRedirect
  deriving DecidableEq, Repr, Inhabited

namespace Weakness

/-- All weaknesses in their listed order. -/
def all : List Weakness :=
  [sqlInjection, commandInjection, codeInjection, pathTraversal, ssrf, xss, deserialization,
    openRedirect]

/-- The name in JSON and in configuration. -/
def name : Weakness → String
  | sqlInjection => "sql-injection"
  | commandInjection => "command-injection"
  | codeInjection => "code-injection"
  | pathTraversal => "path-traversal"
  | ssrf => "ssrf"
  | xss => "xss"
  | deserialization => "deserialization"
  | openRedirect => "open-redirect"

/-- The name in reports. -/
def display : Weakness → String
  | sqlInjection => "SQL Injection"
  | commandInjection => "Command Injection"
  | codeInjection => "Code Injection"
  | pathTraversal => "Path Traversal"
  | ssrf => "SSRF"
  | xss => "XSS"
  | deserialization => "Insecure Deserialization"
  | openRedirect => "Open Redirect"

/-- The short form that is also understood, where there is one. -/
def shortName? : Weakness → Option String
  | sqlInjection => some "sql"
  | commandInjection => some "command"
  | codeInjection => some "code"
  | pathTraversal => some "path"
  | openRedirect => some "redirect"
  | _ => none

/-- Reads exactly the written name. -/
def ofName? (s : String) : Option Weakness := all.find? fun w => w.name == s

/-- Reads a name or short form in any case, with `_` for `-`, or says what is unknown. -/
def parse (s : String) : Except String Weakness :=
  let s := Text.replaceChar '_' '-' (Text.lowerAscii s)
  match all.find? fun w => w.name == s || w.shortName? == some s with
  | some w => .ok w
  | none => .error s!"unknown vulnerability type '{s}'"

end Weakness

end TaintFlow
