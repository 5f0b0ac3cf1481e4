import TaintFlow.CommandLine.Flag
import TaintFlow.Config

/-!
# The options of the program

Without a command the program scans; `modules` shows the module graph, `patterns` the patterns in
effect, and `help` explains the program or a command.
-/

namespace TaintFlow.CommandLine

/-! ## 1. Values -/

/-- How a diagram is drawn. -/
inductive DiagramFormat where
  | mermaid
  | dot
  deriving DecidableEq, Repr, Inhabited

namespace DiagramFormat

/-- The names of the formats, with their help. -/
def choices : List (String × String) := [("mermaid", "Mermaid flowchart"), ("dot", "Graphviz DOT")]

/-- The format of a name. -/
def ofName? : String → Option DiagramFormat
  | "mermaid" => some mermaid
  | "dot" => some dot
  | _ => none

end DiagramFormat

/-- A number of at most 64 bits, which may have a plus sign. -/
def number? (s : String) : Option Nat :=
  let digits :=
    match s.toList with
    | '+' :: rest => rest
    | cs => cs
  if digits.isEmpty || !digits.all Char.isDigit then none
  else
    let n := digits.foldl (fun n c => n * 10 + (c.toNat - 48)) 0
    if n < Nat.pow 2 64 then some n else none

/-- A tier in any spelling. -/
def tier? (s : String) : Option Tier :=
  match Tier.parse s with
  | .ok t => some t
  | .error _ => none

/-! ## 2. Flags -/

def numberFlag (long valueName about : String) : Flag where
  long
  role := .value fun s => (number? s).isSome
  valueName
  about

def diagramFlag (about : String) : Flag where
  long := "diagram"
  role := .value fun s => (DiagramFormat.ofName? s).isSome
  valueName := "DIAGRAM"
  about
  choices := DiagramFormat.choices

def jsonFlag : Flag where
  long := "json"
  short := some 'j'
  about := "Output JSON"

def excludeFlag : Flag where
  long := "exclude"
  aliases := ["exclude-folder"]
  role := .list
  valueName := "EXCLUDE"
  about := "Folders to exclude from analysis"

def helpFlag : Flag where
  long := "help"
  short := some 'h'
  role := .help
  about := "Print help"

/-- The words of the commands. -/
def commandNames : List String := ["modules", "patterns", "help"]

/-- The arguments of the program itself. -/
def scanSignature : Signature where
  flags :=
    [{ long := "tier", role := .value fun s => (tier? s).isSome, valueName := "TIER",
       about := "Licensing tier (community, pro, enterprise)" },
      numberFlag "max-depth" "MAX_DEPTH" "Maximum number of call hops from a source",
      numberFlag "max-modules" "MAX_MODULES" "Maximum number of modules visited during propagation",
      numberFlag "timeout" "TIMEOUT" "Wall-clock budget in seconds",
      { long := "json", about := "Output raw JSON" },
      diagramFlag "Print a diagram of the modules on vulnerable paths",
      { long := "output-file", short := some 'O', role := .value fun _ => true,
        valueName := "OUTPUT_FILE", about := "Save output to file" },
      { long := "verbose", short := some 'v',
        about := "Enable verbose output for debugging (debug-level logs on stderr)" },
      { long := "fail-on-findings", about := "Exit with code 1 if any vulnerability is found" },
      excludeFlag,
      { long := "include", aliases := ["include-folder"], role := .list, valueName := "INCLUDE",
        about := "Folders to force-include in analysis (overrides default exclusions)" },
      helpFlag,
      { long := "version", short := some 'V', role := .version, about := "Print version" }]
  positionals := 1
  commands := commandNames

/-- The arguments of `modules`. -/
def modulesSignature : Signature where
  flags :=
    [jsonFlag, diagramFlag "Render the graph as a diagram instead of a table", excludeFlag, helpFlag]
  positionals := 1

/-- The arguments of `patterns`. -/
def patternsSignature : Signature where
  flags := [jsonFlag, helpFlag]

/-! ## 3. Requests -/

/-- The options of a scan. -/
structure ScanOptions where
  root : Path := ⟨"."⟩
  tier : Option Tier := none
  limits : RequestedLimits := {}
  json : Bool := false
  diagram : Option DiagramFormat := none
  outputFile : Option Path := none
  verbose : Bool := false
  failOnFindings : Bool := false
  excludes : List String := []
  includes : List String := []
  deriving DecidableEq, Repr, Inhabited

/-- The options of `modules`. -/
structure ModuleOptions where
  root : Path := ⟨"."⟩
  json : Bool := false
  diagram : Option DiagramFormat := none
  excludes : List String := []
  deriving DecidableEq, Repr, Inhabited

/-- What is to be done. -/
inductive Command where
  | scan (options : ScanOptions)
  | modules (options : ModuleOptions)
  | patterns (root : Path) (json : Bool)
  deriving DecidableEq, Repr, Inhabited

/-- What help explains. -/
inductive Topic where
  | program
  | modules
  | patterns
  | help
  deriving DecidableEq, Repr, Inhabited

/-- What the arguments ask for. -/
inductive Request where
  | run (command : Command)
  | help (topic : Topic) (long : Bool)
  | version
  | usage (error : UsageError)
  deriving DecidableEq, Repr, Inhabited

namespace Given

/-- The root that was given, or the current folder. -/
def root (g : Given) : Path := ⟨g.positionals.headD "."⟩

def number (g : Given) (name : String) : Option Nat := (g.value? name).bind number?

def diagram (g : Given) : Option DiagramFormat := (g.value? "diagram").bind DiagramFormat.ofName?

def scanOptions (g : Given) : ScanOptions where
  root := g.root
  tier := (g.value? "tier").bind tier?
  limits := ⟨g.number "max-depth", g.number "max-modules", (g.number "timeout").map .ofSeconds⟩
  json := g.has "json"
  diagram := g.diagram
  outputFile := (g.value? "output-file").map Path.mk
  verbose := g.has "verbose"
  failOnFindings := g.has "fail-on-findings"
  excludes := g.values "exclude"
  includes := g.values "include"

def moduleOptions (g : Given) : ModuleOptions where
  root := g.root
  json := g.has "json"
  diagram := g.diagram
  excludes := g.values "exclude"

end Given

namespace Request

/-- The request when reading ended early. -/
def ofInterruption (topic : Topic) : Interruption → Request
  | .help long => .help topic long
  | .version => .version
  | .usage error => .usage error

/-- The request of a command's own arguments. -/
def ofCommand (topic : Topic) (s : Signature) (arguments : List String)
    (command : Given → Command) : Request :=
  match s.read {} none arguments with
  | .error i => ofInterruption topic i
  | .ok g => .run (command g)

/-- The request of a command after an argument of the program that was refused: only what the
command would do gives way. -/
def afterFault (r : Request) : Option Interruption → Request
  | none => r
  | some fault =>
    match r with
    | .run _ => ofInterruption .program fault
    | r => r

/-- The request of the words after `help`. -/
def ofHelp : List String → Request
  | [] => .help .program true
  | ["modules"] => .help .modules true
  | ["patterns"] => .help .patterns true
  | ["help"] => .help .help true
  | name :: rest => .usage (.unknownCommand (if commandNames.contains name then rest.headD name else name))

/-- What arguments ask for. -/
def ofArguments (arguments : List String) : Request :=
  match scanSignature.read {} none arguments with
  | .error i => ofInterruption .program i
  | .ok g =>
    match g.command with
    | none => .run (.scan g.scanOptions)
    | some ("modules", rest) =>
      (ofCommand .modules modulesSignature rest fun own => .modules own.moduleOptions).afterFault
        g.fault
    | some ("patterns", rest) =>
      (ofCommand .patterns patternsSignature rest fun own =>
        .patterns g.root (own.has "json")).afterFault g.fault
    | some (_, rest) => ofHelp rest

end Request

end TaintFlow.CommandLine
