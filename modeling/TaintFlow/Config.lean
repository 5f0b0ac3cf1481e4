import TaintFlow.Policy
import TaintFlow.Registry
import TaintFlow.Toml.Reader
import TaintFlow.Workspace

/-!
# Configuration

A project sets its defaults in a file of its own or in a table of the project file. The nearest
folder at or above the root that has either decides, and its own file comes first. Settings are
strict: a name that is not known, or a value of another kind, makes the file invalid.
-/

namespace TaintFlow

/-! ## 1. Settings -/

/-- What a configuration sets. -/
structure Settings where
  tier : Option Tier := none
  maxDepth : Option Nat := none
  maxModules : Option Nat := none
  /-- In seconds. -/
  timeout : Option Nat := none
  excludeFolders : Option (List String) := none
  includeFolders : Option (List String) := none
  patterns : PatternTexts := {}
  deriving DecidableEq, Repr, Inhabited

namespace Settings

/-- The limits that the settings ask for. -/
def requestedLimits (s : Settings) : RequestedLimits :=
  ⟨s.maxDepth, s.maxModules, s.timeout.map .ofSeconds⟩

/-- The patterns in effect: the built-in ones and those of the settings. None when one of them
cannot be read. -/
def registry? (s : Settings) : Option Registry :=
  if s.patterns.isEmpty then some .builtin
  else (Patterns.parse? s.patterns).map Registry.builtin.addPatterns

/-- What is said when a pattern cannot be read. -/
def badPattern : String := "invalid pattern in configuration"

/-- The names of the settings, in the order in which an array gives them. -/
def keys : List String :=
  ["tier", "max_depth", "max_modules", "timeout", "exclude_folders", "include_folders", "sources",
    "sinks", "sanitizers"]

/-- An entry that may be missing. -/
def optional? {α : Type} (entries : List (String × Toml)) (key : String) (read : Toml → Option α) :
    Option (Option α) :=
  match entries.lookup key with
  | none => some none
  | some value => (read value).map some

/-- A configured sink. Other entries of its table are free. -/
def sink? (t : Toml) : Option SinkPattern := do
  let entries ← t.fields? ["pattern", "vuln_type", "severity"] 1
  let pattern ← (← entries.lookup "pattern").string?
  let weakness ← optional? entries "vuln_type" fun v => v.word?.bind Weakness.ofName?
  let severity ← optional? entries "severity" fun v => v.word?.bind Severity.ofName?
  let standard : SinkPattern := { pattern }
  return { pattern, weakness := weakness.getD standard.weakness,
           severity := severity.getD standard.severity }

/-- The settings of a table, or of an array that gives at least those that are no patterns. -/
def ofToml? (t : Toml) : Option Settings := do
  let entries ← t.fields? keys 6
  guard (entries.all fun e => keys.contains e.1)
  let sinks ← optional? entries "sinks" fun v => do (← v.items?).mapM sink?
  let sources ← optional? entries "sources" Toml.strings?
  let sanitizers ← optional? entries "sanitizers" Toml.strings?
  return {
    tier := ← optional? entries "tier" fun v => v.word?.bind Tier.ofName?
    maxDepth := ← optional? entries "max_depth" Toml.nat?
    maxModules := ← optional? entries "max_modules" Toml.nat?
    timeout := ← optional? entries "timeout" Toml.nat?
    excludeFolders := ← optional? entries "exclude_folders" Toml.strings?
    includeFolders := ← optional? entries "include_folders" Toml.strings?
    patterns := ⟨sources.getD [], sinks.getD [], sanitizers.getD []⟩ }

/-- The settings of a configuration file: those of its table, which may be missing. -/
def ofOwnFile? (text : String) : Option Settings := do
  let settings ← optional? (← (← Toml.parse? text).entries?) "crosstaint" ofToml?
  return settings.getD {}

/-- The settings of a project file, if it has a table for them. -/
def ofProjectFile? (text : String) : Option (Option Settings) := do
  let tool ← optional? (← (← Toml.parse? text).entries?) "tool" (Toml.fields? ["crosstaint"] 1)
  match tool with
  | none => return none
  | some entries => optional? entries "crosstaint" ofToml?

end Settings

/-! ## 2. Files -/

/-- The name of the configuration file. -/
def configFileName : String := ".crosstaint.toml"

/-- The name of the project file. -/
def projectFileName : String := "pyproject.toml"

/-- Settings with the file that they come from. -/
structure Config where
  settings : Settings := {}
  file : Option Path := none
  deriving DecidableEq, Repr, Inhabited

/-- Why a configuration cannot be used. -/
inductive ConfigError where
  | unreadable (file : Path)
  | invalid (file : Path)
  deriving DecidableEq, Repr, Inhabited

/-- The wording of an error. -/
def ConfigError.message : ConfigError → String
  | unreadable file => "failed to read " ++ file.text
  | invalid file => "invalid configuration in " ++ file.text

namespace Config

/-- What a file says, if it is there. -/
def readFile? {α : Type} (w : Workspace) (file : Path) (read : String → Option α) :
    Except ConfigError (Option α) :=
  if w.contains file then
    match w.read file with
    | .error _ => .error (.unreadable file)
    | .ok text =>
      match read text with
      | some a => .ok (some a)
      | none => .error (.invalid file)
  else .ok none

/-- The configuration in a folder itself. -/
def inFolder? (w : Workspace) (folder : Path) : Except ConfigError (Option Config) := do
  let own := folder.join configFileName
  let project := folder.join projectFileName
  match ← readFile? w own Settings.ofOwnFile? with
  | some settings => return some ⟨settings, own⟩
  | none =>
    match ← readFile? w project Settings.ofProjectFile? with
    | some (some settings) => return some ⟨settings, project⟩
    | _ => return none

/-- The configuration of the nearest folder at or above one; the fuel bounds the way up. -/
def search (w : Workspace) : (fuel : Nat) → Path → Except ConfigError Config
  | 0, _ => .ok {}
  | n + 1, folder => do
    match ← inFolder? w folder with
    | some config => return config
    | none =>
      match folder.parent? with
      | some parent => search w n parent
      | none => return {}

/-- The configuration of a root: for a file that of its folder. -/
def load (w : Workspace) (root : Path) : Except ConfigError Config :=
  let folder := if w.isFile root then root.parent?.getD root else root
  search w (folder.parts.length + 1) folder

end Config

end TaintFlow
