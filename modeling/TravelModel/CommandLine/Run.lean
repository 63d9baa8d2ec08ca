import TravelModel.CommandLine.Command
import TravelModel.Config.Layers
import TravelModel.Generation.Run
import TravelModel.Project

/-!
# TravelModel — running commands

A command loads settings and libraries and reports what it found. It fails
on findings, or ends early with an error.
-/

namespace TravelModel

/-- A line of a report. -/
inductive ReportLine where
  | finding (f : Finding)
  | plain (text : String)
deriving DecidableEq, Repr, Inhabited

/-- What stands before a finding. -/
def Severity.marker : Severity → String
  | warning => "⚠️ "
  | error => "❌"

/-- The text of a line. -/
def ReportLine.text : ReportLine → String
  | finding f => f.severity.marker ++ " " ++ f.text
  | plain s => s

/-- Why a command ends early. -/
inductive CommandError where
  | settings
  | missingPath (path : String)
  | noFiles
  | catalog (cause : CatalogError)
  | unknownRoot (name : String)
  | generation (cause : GenerationError)
deriving DecidableEq, Repr, Inhabited

/-- The wording of an error, followed by that of its cause. -/
def CommandError.message : CommandError → String
  | settings => "loading configuration: invalid configuration"
  | missingPath path => path ++ " does not exist"
  | noFiles => "no library files found"
  | catalog e => e.message ++ ": " ++ e.cause
  | unknownRoot name => "unknown root entity '" ++ name ++ "'"
  | generation (.output path e) =>
    (GenerationError.output path e).message ++ ": " ++ e.message
  | generation e => e.message

/-- What came of a command. -/
structure CommandResult where
  exit : Nat
  lines : List ReportLine := []
  error : Option CommandError := none
  tree : FileTree

namespace CommandResult

/-- The text on the output. -/
def output (r : CommandResult) : List String :=
  r.lines.map ReportLine.text

/-- The text on the error output. -/
def errorText (r : CommandResult) : Option String :=
  r.error.map fun e => "Error: " ++ e.message ++ "\n"

end CommandResult

namespace Command

/-! ## Libraries -/

/-- Whether a file is a library by its name. -/
def isLibraryFile (path : String) : Bool :=
  path.endsWith ".otm" || path.endsWith ".otm.json"

/-- Whether a path comes before another, component by component. -/
def pathLe (a b : String) : Bool :=
  compare (Files.rawParts a) (Files.rawParts b) != .gt

/-- The library files of a path: the file itself, or those below a directory. -/
def expandPath (t : FileTree) (path : String) : Except CommandError (List String) :=
  if !t.pathExists path then .error (.missingPath path)
  else if t.isFile path then .ok [path]
  else .ok (((t.list path).filter isLibraryFile).mergeSort pathLe |>.map (Files.join path))

/-- Loads the libraries of a command. -/
def loadProject (c : Command) (config : Config) (t : FileTree) : Except CommandError Project := do
  let files ← c.paths.mapM (expandPath t)
  if files.flatten.isEmpty then .error .noFiles
  (Project.loadFiles config t files.flatten).mapError .catalog

/-! ## Reports -/

/-- The report on findings: a line each and their numbers. -/
def findingLines (fs : Findings) : List ReportLine :=
  if fs.isEmpty then []
  else
    fs.map .finding ++
      [ .plain (toString fs.errors.length ++ " errors, " ++ toString fs.warnings.length ++
          " warnings") ]

/-- The line of a symbol; a name that differs from the own one shows it. -/
def symbolLine (m : Model) (ns name : String) (s : Symbol) : ReportLine :=
  let kind := ((m.entity? s.owner).map fun e => e.kind.label).getD "?"
  let own := (m.localName? s).getD ""
  let shown := "\x7b" ++ ns ++ "\x7d" ++ name ++ "  " ++ kind
  .plain (if own = name then shown else shown ++ " -> " ++ own)

/-! ## Tasks -/

/-- Checks libraries. -/
def check (strict : Bool) (p : Project) (t : FileTree) : CommandResult :=
  let failed := p.findings.hasErrors || (strict && !p.findings.warnings.isEmpty)
  let mark := if failed then "❌ " else "✅ "
  { exit := if failed then 1 else 0
    lines := findingLines p.findings ++
      [.plain (mark ++ toString p.model.userLibraries.length ++ " libraries checked")]
    tree := t }

/-- Lists the symbols of a namespace, or of all. -/
def listSymbols (ns : Option String) (p : Project) (t : FileTree) : CommandResult :=
  let shown := p.model.symbols.entries.filter fun e => ns.all (· = e.1)
  { exit := 0, lines := shown.map fun (n, name, s) => symbolLine p.model n name s, tree := t }

/-- The options of a generation: those of the settings, with what was asked for
over them. Formats count only if one is named. -/
def GenerateRequest.options (r : GenerateRequest) (config : Config) : GenerationOptions :=
  let o := config.generationOptions r.output
  { o with
    formats :=
      if r.xsd || r.jsonSchema || r.openApi || r.swagger || r.services then
        { o.formats with
          schemas := r.xsd, jsonSchemas := r.jsonSchema, openApi := r.openApi
          swagger := r.swagger, services := r.services }
      else o.formats
    suppressExtensions := o.suppressExtensions || r.suppressExtensions
    namespacePolicy := if r.majorNamespaces then .major else o.namespacePolicy }

/-- The entities that roots name. -/
def rootIds (m : Model) (roots : List String) : Except CommandError (List EntityId) :=
  roots.mapM fun r =>
    match m.findEntity? r with
    | some id => .ok id
    | none => .error (.unknownRoot r)

/-- Generates documents from libraries. -/
def generate (r : GenerateRequest) (config : Config) (p : Project) (generatedAt : String)
    (t : FileTree) : CommandResult :=
  let lines := findingLines p.findings
  if p.findings.hasErrors && !r.force then
    { exit := 1, tree := t
      lines := lines ++
        [.plain "❌ Not generating: loading reported errors (use --force to override)"] }
  else
    let options := GenerateRequest.options r config
    match rootIds p.model r.roots with
    | .error e => { exit := 2, lines, error := some e, tree := t }
    | .ok roots =>
      match ({ model := p.model } : Generator).generate options roots false generatedAt t with
      | (t, .error e) => { exit := 2, lines, error := some (.generation e), tree := t }
      | (t, .ok report) =>
        { exit := 0, tree := t
          lines := lines ++ report.files.map (fun f => .plain ("  " ++ f)) ++
            [ .plain ("✅ " ++ toString report.files.length ++ " files written to " ++
                options.outputDir) ] }

/-- Runs a command. -/
def run (c : Command) (home generatedAt : String) (t : FileTree) : CommandResult :=
  match Config.load? t home c.config with
  | none => { exit := 2, error := some .settings, tree := t }
  | some config =>
    match c.loadProject config t with
    | .error e => { exit := 2, error := some e, tree := t }
    | .ok p =>
      match c.action with
      | .check strict => check strict p t
      | .symbols ns => listSymbols ns p t
      | .generate r => generate r config p generatedAt t

/-- Runs arguments; wrong usage fails, and asking for help does not. -/
def runArguments (args : List String) (home generatedAt : String) (t : FileTree) :
    CommandResult :=
  match parse args with
  | .ok c => c.run home generatedAt t
  | .error .help => { exit := 0, tree := t }
  | .error .wrong => { exit := 2, tree := t }

end Command

end TravelModel
