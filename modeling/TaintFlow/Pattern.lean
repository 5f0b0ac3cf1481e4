import TaintFlow.Regex.Parser
import TaintFlow.Weakness

/-!
# Name patterns from a configuration

A pattern is an exact dotted name or, after `regex:`, a regular expression that has to match
somewhere in the name.
-/

namespace TaintFlow

/-- A pattern for dotted names. -/
inductive NamePattern where
  | exact (name : String)
  /-- An expression as written, with what it means. -/
  | regex (text : String) (expr : Regex)
  deriving Repr, Inhabited

namespace NamePattern

/-- Reads a pattern; none when its regular expression cannot be read. -/
def parse? (pattern : String) : Option NamePattern :=
  match Text.stripStart? pattern "regex:" with
  | some text => (Regex.parse? text).map (regex text ·)
  | none => some (exact pattern)

/-- Whether a name fits. -/
def matchesName : NamePattern → String → Bool
  | exact name, s => name == s
  | regex _ expr, s => expr.matchesIn s

/-- The pattern without its mark. -/
def text : NamePattern → String
  | exact name => name
  | regex text _ => text

end NamePattern

/-- A sink named in a configuration. -/
structure SinkPattern where
  pattern : String
  weakness : Weakness := .codeInjection
  severity : Severity := .high
  deriving DecidableEq, Repr, Inhabited

/-- The patterns of a configuration, as read. -/
structure PatternTexts where
  sources : List String := []
  sinks : List SinkPattern := []
  sanitizers : List String := []
  deriving DecidableEq, Repr, Inhabited

/-- The patterns of a configuration, ready to match. -/
structure Patterns where
  sources : List NamePattern := []
  sinks : List (NamePattern × SinkPattern) := []
  sanitizers : List NamePattern := []
  deriving Repr, Inhabited

/-- Whether no pattern is configured. -/
def PatternTexts.isEmpty (p : PatternTexts) : Bool :=
  p.sources.isEmpty && p.sinks.isEmpty && p.sanitizers.isEmpty

/-- Reads every pattern; none when one of them cannot be read. -/
def Patterns.parse? (p : PatternTexts) : Option Patterns := do
  let sources ← p.sources.mapM NamePattern.parse?
  let sinks ← p.sinks.mapM fun s => (NamePattern.parse? s.pattern).map (·, s)
  let sanitizers ← p.sanitizers.mapM NamePattern.parse?
  return { sources, sinks, sanitizers }

end TaintFlow
