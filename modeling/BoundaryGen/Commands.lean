-- The commands on a disk. A command prints lines and ends well or with an error;
-- what it printed before an error stays.
import BoundaryGen.CommandLine
import BoundaryGen.Output

namespace BoundaryGen

/-! ## Outcomes -/

/-- How a command ends. -/
structure Outcome where
  lines : List String := []
  error : Option Error := none
  exitCode : UInt8 := 0

namespace Outcome

/-- The printed text. -/
def output (o : Outcome) : String := String.join (o.lines.map (· ++ "\n"))

def failed (lines : List String) (e : Error) : Outcome := { lines, error := some e, exitCode := 1 }

end Outcome

namespace Command

variable {m : Type → Type} [Monad m] [Disk m]

/-! ## Generating -/

/-- A number of errors and a number of warnings in words. -/
def tally (ds : Diagnostics) : String :=
  toString (Diagnostics.errorCount ds) ++ " errors, " ++ toString (Diagnostics.warningCount ds)
    ++ " warnings"

def foundModels (g : Generation) : String := "Found " ++ toString g.models.length ++ " models"

/-- The lines about the files of a generation. -/
def writtenLines (g : Generation) (summary : WriteSummary) : List String := [
  "Wrote " ++ toString summary.written.length ++ " files (" ++ toString summary.unchanged
    ++ " unchanged)",
  "Manifest: " ++ summary.manifest.getD "not written",
  tally g.diagnostics]

/-- Generates from a project, unless its snapshot is not meant for that. -/
def generateFrom (out : String) (force useLog : Bool) : Project → m Outcome
  | { snapshot, config } => do
    let config := { config with useLog := config.useLog || useLog }
    if !force && !snapshot.wantsGeneration config then
      return { lines := ["No declarations from " ++ config.wasmPackage
        ++ " found, skipping generation (use --force to override)"] }
    let g := snapshot.generate config
    match ← (g.write config out).run with
    | .error e => return .failed [foundModels g] e
    | .ok summary => return { lines := foundModels g :: writtenLines g summary }

def runGenerate (path out : String) (force useLog : Bool) (config : Option String) :
    m Outcome := do
  match ← (Project.load path config).run with
  | .error e => return .failed [] e
  | .ok project => generateFrom out force useLog project

/-! ## Reporting -/

/-- Every diagnostic of a snapshot. Errors among them make the command fail. -/
def runCheck (path : String) (config : Option String) : m Outcome := do
  match ← (Project.load path config).run with
  | .error e => return .failed [] e
  | .ok { snapshot, config } =>
    let g := snapshot.generate config
    let summary := "Checked " ++ toString g.models.length ++ " models ("
      ++ toString g.wrapperCount ++ " wrappers): " ++ tally g.diagnostics
    return {
      lines := g.diagnostics.map Diagnostic.line ++ [summary]
      exitCode := if Diagnostics.hasErrors g.diagnostics then 1 else 0 }

/-- The manifest of a snapshot, into a file or printed. -/
def runManifest (path : String) (out config : Option String) : m Outcome := do
  match ← (Project.load path config).run with
  | .error e => return .failed [] e
  | .ok { snapshot, config } =>
    let models := snapshot.models config
    let manifest := snapshot.manifest models
    match out with
    | none => return { lines := [manifest.text] }
    | some target =>
      if ← manifest.write target then
        return { lines := ["Wrote manifest with " ++ toString models.length ++ " models to "
          ++ target] }
      return { lines := ["Manifest not written"] }

def runInspect (path : String) (config : Option String) : m Outcome := do
  match ← (Project.load path config).run with
  | .error e => return .failed [] e
  | .ok { snapshot, config } =>
    let reports := (snapshot.inspect config).map ModelReport.toJson
    return { lines := [(Json.list reports).pretty] }

/-! ## Describing -/

/-- Parameters as they stand between the parentheses of a function. -/
def signature (parameters : List (String × ResolvedType)) : String :=
  ", ".intercalate (parameters.map fun (name, type) => name ++ ": " ++ type.render)

def suspendWord (isSuspend : Bool) : String := if isSuspend then "suspend " else ""

def valueLine (name : String) (type : ResolvedType) : String :=
  "  val " ++ name ++ ": " ++ type.render ++ if type.isCollection then " (collection)" else ""

def intentLine (i : BindingIntent) : String :=
  "  " ++ suspendWord i.isAsync ++ "intent " ++ i.name ++ "(" ++ signature i.parameters ++ ")"

def modelLines (b : BindingModel) : List String :=
  b.name :: b.values.map (fun (name, type) => valueLine name type)
    ++ ("  " ++ suspendWord b.isInitSuspend ++ "init(" ++ signature b.init ++ ")")
      :: b.intents.map intentLine

/-- The models of a manifest, as generators on the other side of the boundary see them. -/
def runDescribe (path : String) : m Outcome := do
  match ← (loadBindings anyResolver path).run with
  | .error e => return .failed [] e
  | .ok models =>
    return { lines := models.flatMap modelLines ++ ["\n" ++ toString models.length ++ " models"] }

/-! ## Running -/

def run (config : Option String) : Command → m Outcome
  | .generate snapshot out force useLog => runGenerate snapshot out force useLog config
  | .check snapshot => runCheck snapshot config
  | .manifest snapshot out => runManifest snapshot out config
  | .inspect snapshot => runInspect snapshot config
  | .describe path => runDescribe path

end Command

namespace CommandLine

/-- The name and the version of the program. -/
def versionLine : String := "kirok-gen 0.1.0"

def helpLines : List String := [
  "Usage: kirok-gen [--config FILE] COMMAND",
  "",
  "  generate SNAPSHOT [--out DIRECTORY] [--force] [--use-log]",
  "      write the wrappers and the manifest",
  "  check SNAPSHOT",
  "      print the diagnostics",
  "  manifest SNAPSHOT [--out FILE]",
  "      write or print the manifest",
  "  inspect SNAPSHOT",
  "      print the models and their retrievers as JSON",
  "  describe MANIFEST",
  "      print the models of a manifest",
  "",
  "  --help       print this text",
  "  --version    print the version"]

/-- Answers a command line. -/
def run {m : Type → Type} [Monad m] [Disk m] (arguments : List String) : m Outcome :=
  match parse arguments with
  | .run command config => command.run config
  | .version => return { lines := [versionLine] }
  | .help => return { lines := helpLines }
  | .misuse => return { exitCode := 2 }

end CommandLine

end BoundaryGen
