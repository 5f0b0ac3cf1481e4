import TaintFlow.CommandLine.Options

/-!
# Help

Help has two lengths. The short one gives each argument a line, with the explanations in a column;
the long one gives the explanation its own lines. Only where a flag has values to explain do the two
differ, and then each says how to get the other.
-/

namespace TaintFlow.CommandLine

/-- The name and version of the program. -/
def programName : String := "crosstaint"

/-- What asking for the version prints. -/
def versionText : String := programName ++ " 0.3.0\n"

/-- What help says about one thing. -/
structure HelpPage where
  about : String
  usage : String
  /-- Commands with their explanations. -/
  commands : List (String × String) := []
  /-- Positional arguments with their explanations. -/
  arguments : List (String × String) := []
  flags : List Flag := []
  /-- Text after everything else. -/
  closing : List String := []

/-! ## 1. The pages -/

def commandLines : List (String × String) :=
  [("modules", "Print the resolved module graph (imports, cycles, unresolved imports)"),
    ("patterns", "List the source, sink and sanitizer patterns in effect"),
    ("help", "Print this message or the help of the given subcommand(s)")]

/-- The explanation of the configuration file. -/
def configurationLines : List String :=
  ["CONFIGURATION FILE (.crosstaint.toml):",
    "  Create this file in your project root to set defaults.",
    "  A [tool.crosstaint] table in pyproject.toml works as well.",
    "",
    "  [crosstaint]",
    "  # Scan limits (clamped to the tier's entitlement)",
    "  tier = \"community\"         # community, pro or enterprise",
    "  max_depth = 3              # Max call hops from a source",
    "  max_modules = 10           # Max modules visited",
    "  timeout = 30               # Seconds",
    "",
    "  # Path filters",
    "  exclude_folders = [\"build\", \"dist\", \".venv\"]",
    "  include_folders = [\"src\"]  # Force-include these",
    "",
    "  # Extra patterns (prefix with regex: for regular expressions)",
    "  sources = [\"app.inbound.read\"]",
    "  sanitizers = [\"app.security.clean\"]",
    "",
    "  [[crosstaint.sinks]]",
    "  pattern = \"app.db.raw\"",
    "  vuln_type = \"sql-injection\"",
    "  severity = \"critical\""]

/-- The page of a topic. -/
def helpPage : Topic → HelpPage
  | .program =>
    { about := programName ++ " - cross-file taint analysis for Python projects"
      usage := programName ++ " [OPTIONS] [PATH] [COMMAND]"
      commands := commandLines
      arguments :=
        [("[PATH]", "Project root or single file to analyze (defaults to the current directory)")]
      flags := scanSignature.flags
      closing := configurationLines }
  | .modules =>
    { about := "Print the resolved module graph (imports, cycles, unresolved imports)"
      usage := programName ++ " modules [OPTIONS] [PATH]"
      arguments := [("[PATH]", "Project root (defaults to the current directory)")]
      flags := modulesSignature.flags }
  | .patterns =>
    { about := "List the source, sink and sanitizer patterns in effect"
      usage := programName ++ " patterns [OPTIONS]"
      flags := patternsSignature.flags }
  | .help =>
    { about := "Print this message or the help of the given subcommand(s)"
      usage := programName ++ " help [COMMAND]..."
      arguments := [("[COMMAND]...", "Print help for the subcommand(s)")] }

/-! ## 2. Rendering -/

/-- How a flag is written in help. -/
def Flag.written (f : Flag) : String :=
  (match f.short with
    | some c => String.ofList ['-', c, ',', ' ']
    | none => "    ") ++
    "--" ++ f.long ++ if f.takesValue then " <" ++ f.valueName ++ ">" else ""

/-- Fills a text up to a width. -/
def padEnd (width : Nat) (s : String) : String := s ++ Text.repeated (width - s.length) " "

/-- The width of the widest name. -/
def widest (names : List String) : Nat := (names.map String.length).foldl max 0

/-- Names with their explanations in a column. -/
def columns (rows : List (String × String)) : List String :=
  let width := widest (rows.map (·.1))
  rows.map fun (name, about) => "  " ++ padEnd width name ++ "  " ++ about

/-- Sections with an empty line between them. -/
def spaced : List (List String) → List String
  | [] => []
  | [block] => block
  | block :: rest => block ++ [""] ++ spaced rest

namespace HelpPage

/-- Whether the page has a longer form. -/
def hasLong (p : HelpPage) : Bool := p.flags.any fun f => !f.choices.isEmpty

/-- The explanation of a flag. The one for help itself says how to get the other form. -/
def explain (p : HelpPage) (long : Bool) (f : Flag) : String :=
  match f.role with
  | .help =>
    if !p.hasLong then f.about
    else if long then f.about ++ " (see a summary with '-h')"
    else f.about ++ " (see more with '--help')"
  | _ => f.about

/-- A flag on one line: its values stand in brackets. -/
def shortRow (p : HelpPage) (f : Flag) : String × String :=
  (f.written, p.explain false f ++
    if f.choices.isEmpty then ""
    else " [possible values: " ++ Text.join ", " (f.choices.map (·.1)) ++ "]")

/-- An argument with its explanation on lines of their own. -/
def block (name : String) (about : List String) : List String :=
  ("  " ++ name) :: about.map fun l => if l = "" then "" else "          " ++ l

/-- A flag on lines of its own, with its values. -/
def longBlock (p : HelpPage) (f : Flag) : List String :=
  let width := widest (f.choices.map (·.1)) + 1
  let values := f.choices.map fun (name, about) => "- " ++ padEnd width (name ++ ":") ++ " " ++ about
  block f.written
    (p.explain true f :: if values.isEmpty then [] else "" :: "Possible values:" :: values)

/-- A section with a title. -/
def titled (title : String) (lines : List String) : List (List String) :=
  if lines.isEmpty then [] else [title :: lines]

/-- The lines of a page. -/
def lines (p : HelpPage) (long : Bool) : List String :=
  let long := long && p.hasLong
  let arguments :=
    if long then spaced (p.arguments.map fun (name, about) => block name [about])
    else columns p.arguments
  let flags :=
    if long then spaced (p.flags.map p.longBlock) else columns (p.flags.map p.shortRow)
  spaced ([[p.about], ["Usage: " ++ p.usage]] ++ titled "Commands:" (columns p.commands) ++
    titled "Arguments:" arguments ++ titled "Options:" flags ++
    if p.closing.isEmpty then [] else [p.closing])

end HelpPage

/-- The help on a topic. -/
def helpText (topic : Topic) (long : Bool) : String :=
  String.join (((helpPage topic).lines long).map (· ++ "\n"))

end TaintFlow.CommandLine
