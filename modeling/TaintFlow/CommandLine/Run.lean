import TaintFlow.CommandLine.Help
import TaintFlow.Exchange.Result
import TaintFlow.Json.Printer
import TaintFlow.OutputPath
import TaintFlow.Report.Text
import TaintFlow.Session

/-!
# Running the program

A run takes the arguments and the files and gives an exit code, what is printed, and the files as
they are afterwards. Only a scan with an output file changes them. A run ends with 2 when its
arguments or its configuration are of no use, and a scan that was asked to fail on findings ends
with 1 when there are any.
-/

namespace TaintFlow.CommandLine

/-- What a run leaves behind. -/
structure Ending where
  exit : Nat := 0
  output : String := ""
  /-- What goes to the channel for errors. -/
  complaint : String := ""
  /-- The file that was written, with its text. -/
  written : Option (Path × String) := none
  workspace : Workspace

/-- Why a run breaks off. -/
inductive RunError where
  | analysis (error : AnalysisError)
  | writing (error : FileError)

/-- The wording of an error. -/
def RunError.message : RunError → String
  | analysis error => error.message
  | writing error => error.message

/-! ## 1. Settings -/

/-- The limits of a scan: what the arguments ask for comes before what the settings ask for, and
both are lowered to what the tier entitles to. -/
def effectiveLimits (o : ScanOptions) (s : Settings) : Limits :=
  let file := s.requestedLimits
  let requested : RequestedLimits :=
    ⟨o.limits.maxDepth.or file.maxDepth, o.limits.maxModules.or file.maxModules,
      o.limits.timeout.or file.timeout⟩
  Limits.clamp requested ((o.tier.or s.tier).getD .community)

/-- A run that does nothing but complain. -/
def refusal (w : Workspace) (message : String) : Ending :=
  { exit := 2, complaint := "Error: " ++ message ++ "\n", workspace := w }

/-- The settings and patterns for a root, or the complaint about them. -/
def prepare (w : Workspace) (root : Path) : Except String (Settings × Registry) := do
  let config ← (Config.load w root).mapError ConfigError.message
  match config.settings.registry? with
  | some registry => return (config.settings, registry)
  | none => throw Settings.badPattern

/-! ## 2. Commands -/

/-- A diagram as text. -/
def draw (d : Diagram) : DiagramFormat → String
  | .mermaid => d.mermaid
  | .dot => d.dot

/-- The result of a scan in JSON, with the diagram as its last member. -/
def resultJson (r : ScanResult) (diagram : Option String) : Json :=
  match r.toJson with
  | .object members =>
    .object (members ++ (diagram.toList.map fun d => ("diagram", .string d)))
  | j => j

/-- What a scan prints. -/
def scanText (o : ScanOptions) (excludes : List String) (r : ScanResult) (diagram : Option String) :
    String :=
  if o.json then (resultJson r diagram).pretty ++ "\n"
  else
    Report.unlines (Report.exclusionLines excludes ++ Report.lines r ++
      (diagram.toList.flatMap fun d => ["", d]))

/-- Prints a text, or writes it to a file and says so. -/
def emit (w : Workspace) (exit : Nat) (text : String) (file : Option Path) :
    Except RunError Ending :=
  match file with
  | none => .ok { exit, output := text, workspace := w }
  | some file => do
    let workspace ← (w.write file text).mapError .writing
    let output := "Report written to " ++ file.display ++ "\n"
    return { exit, output, written := some (file, text), workspace }

/-- Scans with settings and patterns, and an output path that was found good. -/
def scanWith (w : Workspace) (o : ScanOptions) (s : Settings) (registry : Registry)
    (outputFile : Option Path) (elapsedMs : Nat) : Except RunError Ending := do
  let excludes := s.excludeFolders.getD [] ++ o.excludes
  let includes := s.includeFolders.getD [] ++ o.includes
  let session : Session := { scope := { root := o.root, excludes, includes }, registry }
  let (project, session) ← (session.build w).mapError .analysis
  let result ← (session.analyze (effectiveLimits o s) elapsedMs).mapError .analysis
  let diagram := o.diagram.map (draw (.ofModules project.modules result.report.findings))
  let failed := o.failOnFindings && !result.report.findings.isEmpty
  emit w (if failed then 1 else 0) (scanText o excludes result diagram) outputFile

/-- Scans. -/
def scan (w : Workspace) (o : ScanOptions) (elapsedMs : Nat) : Except RunError Ending :=
  match prepare w o.root with
  | .error message => .ok (refusal w message)
  | .ok (s, registry) =>
    match o.outputFile.mapM (w.outputPath ·) with
    | .error error => .ok (refusal w error.message)
    | .ok outputFile => scanWith w o s registry outputFile elapsedMs

/-- Shows the module graph. -/
def showModules (w : Workspace) (o : ModuleOptions) : Except RunError Ending :=
  match prepare w o.root with
  | .error message => .ok (refusal w message)
  | .ok (s, registry) => do
    let scope : Scope :=
      { root := o.root, excludes := s.excludeFolders.getD [] ++ o.excludes,
        includes := s.includeFolders.getD [] }
    let session : Session := { scope, registry }
    let (project, _) ← (session.build w).mapError .analysis
    let diagram := Diagram.ofModules project.modules []
    let output :=
      match o.diagram with
      | some format => draw diagram format ++ "\n"
      | none =>
        if o.json then diagram.toJson.pretty ++ "\n"
        else Report.unlines (Report.moduleGraphLines project.modules)
    return { output, workspace := w }

/-- Shows the patterns in effect. -/
def showPatterns (w : Workspace) (root : Path) (json : Bool) : Ending :=
  match prepare w root with
  | .error message => refusal w message
  | .ok (_, registry) =>
    let groups := registry.describe
    let output :=
      if json then
        let sorted : SortedMap String (List String) :=
          groups.foldl (fun m (name, patterns) => m.insert name patterns) ∅
        (Json.object (sorted.toList.map fun (name, patterns) =>
          (name, .strings patterns))).pretty ++ "\n"
      else Report.unlines (Report.patternLines groups)
    { output, workspace := w }

/-! ## 3. Runs -/

/-- Does what a request asks for. -/
def perform (w : Workspace) (elapsedMs : Nat) : Request → Except RunError Ending
  | .help topic long => .ok { output := helpText topic long, workspace := w }
  | .version => .ok { output := versionText, workspace := w }
  | .usage error =>
    .ok { exit := 2, workspace := w,
          complaint := "error: " ++ error.message ++ "\n\nFor more information, try '--help'.\n" }
  | .run (.scan options) => scan w options elapsedMs
  | .run (.modules options) => showModules w options
  | .run (.patterns root json) => .ok (showPatterns w root json)

/-- Runs the program on files with arguments. -/
def run (w : Workspace) (arguments : List String) (elapsedMs : Nat := 0) : Except RunError Ending :=
  perform w elapsedMs (.ofArguments arguments)

end TaintFlow.CommandLine
