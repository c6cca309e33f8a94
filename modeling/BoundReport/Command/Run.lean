import BoundReport.Command.Arguments
import BoundReport.Command.Style
import BoundReport.Fixture
import BoundReport.OutputName
import BoundReport.Resolution
import BoundReport.Settings

/-!
# Running a command

A run reads the settings and the template of a project, and then makes a report from the
template, checks what the template declares, or lists it. A report is printed or written to a
file; nothing else is ever written.

The result of a run is a value: what is printed, the warnings, and how the run ended.
-/

namespace BoundReport

/-- How a run failed. -/
inductive Failure
  | report (error : ReportError)
  /-- The report cannot be written. -/
  | write
  deriving DecidableEq, Repr

/-- How a run ended. -/
inductive Ending
  | success
  | refused (refusal : Refusal)
  /-- There was no command. -/
  | noCommand
  | failed (failure : Failure)
  deriving DecidableEq, Repr

namespace Ending

/-- The exit code of the program. -/
def exitCode : Ending → Nat
  | success => 0
  | refused .usage => 2
  | refused .help => 0
  | refused .version => 0
  | noCommand => 1
  | failed _ => 2

/-- The lines that tell why a run did not succeed. -/
def complaint : Ending → List Text
  | success => []
  | refused .usage => ["error: the arguments make no sense, see `reportgen --help`"]
  | refused .help => []
  | refused .version => []
  | noCommand => ["No subcommand specified. Run `reportgen --help` for usage."]
  | failed (.report error) =>
    ("error: " ++ error.message) :: ("code: " ++ error.code) ::
      (error.help?.map fun help : Text => "help: " ++ help).toList
  | failed .write => ["error: the report cannot be written"]

/-- The error that is reported, if there is one. -/
def error? : Ending → Option ReportError
  | failed (.report error) => some error
  | _ => none

end Ending

/-- What a run prints, and how it ends. -/
structure RunResult where
  stdout : Text
  /-- The warnings, each as it is shown. -/
  warnings : List Text
  ending : Ending
  deriving DecidableEq, Repr

namespace RunResult

/-- A run that prints a text. -/
def printed (text : Text) : RunResult := ⟨text, [], .success⟩

/-- A run that ends with an error. -/
def ofError (error : ReportError) : RunResult := ⟨[], [], .failed (.report error)⟩

/-- The run with some warnings. -/
def withWarnings (warnings : List Text) (result : RunResult) : RunResult :=
  { result with warnings := warnings }

end RunResult

/-- What a run knows about its surroundings. -/
structure Surroundings where
  /-- The working directory. -/
  workingDirectory : Text
  /-- The present time. -/
  time : Timestamp
  /-- Whether the output may show colors. -/
  color : Bool

/-! ### Reading a project -/

section

variable {m : Type → Type} [Monad m]

/-- A project that has been found: its root, its settings and its template. -/
structure Project where
  root : Text
  settings : Settings
  template : Text

/-- The path of the template: the one that is asked for, or the one in the settings. -/
def templatePath (asked : Option Text) (settings : Settings) (root : Text) :
    Except ReportError Text :=
  match asked with
  | some path => .ok (FilePath.join root path)
  | none => settings.template root

/-- Finds the project at a root. -/
def findProject (disk : Disk m) (root : Text) (asked : Option Text) :
    m (Except ReportError Project) := do
  match ← Settings.load disk root with
  | .error error => return .error error
  | .ok found =>
    let settings := (found.map (·.2)).getD {}
    return (templatePath asked settings root).map fun template => ⟨root, settings, template⟩

/-- The text of the template of a project. -/
def readTemplate (disk : Disk m) (path : Text) : m (Except ReportError Text) := do
  match ← disk.read? path with
  | some content => return .ok content
  | none => return .error .io

/-- The template of a project, taken apart. -/
def readDeclarations (disk : Disk m) (root : Text) (asked : Option Text) :
    m (Except ReportError (Project × ParsedTemplate)) := do
  match ← findProject disk root asked with
  | .error error => return .error error
  | .ok project =>
    match ← readTemplate disk project.template with
    | .error error => return .error error
    | .ok content =>
      return (ParsedTemplate.parse content project.settings.limits).map fun parsed =>
        (project, parsed)

/-- The fixtures in a file, whose extension names its format. -/
def loadFixtures (disk : Disk m) (path : Text) : m (Except ReportError Fixtures) := do
  match ← disk.read? path with
  | none => return .error (.fixtureFile path .unreadable)
  | some content =>
    let format := Text.toAsciiLower ((FilePath.extension? path).getD [])
    return Fixtures.parse content format path

/-- Makes a report from a template file. -/
def generateFile {σ : Type} (disk : Disk m) (path : Text) (limits : DeclarationLimits)
    (engine : Engine σ) (state : σ) : m (Except ReportError (Generation σ)) := do
  match ← readTemplate disk path with
  | .error error => return .error error
  | .ok content => return generate content limits engine state

/-! ### Commands -/

/-- The line for a warning. -/
def warningLine (color : Bool) (warning : Warning) : Text :=
  Style.yellow.paint color "warning:" ++ [' '] ++ warning.message

/-- Writes a report to a directory under the name that belongs to its template and the time. -/
def writeReport (disk : Disk m) (surroundings : Surroundings) (color : Bool) (project : Project)
    (directory report : Text) (size : PageSize) : m RunResult := do
  if ← disk.provideDirectory directory then
    let destination := FilePath.join directory
      (outputName project.template surroundings.time Page.fileExtension)
    if ← disk.write destination report then
      return .printed (Style.green.paint color "Generated" ++ [' '] ++
        FilePath.relativeTo destination project.root ++ " (" ++ size.name ++ ")\n")
    else return ⟨[], [], .failed .write⟩
  else return ⟨[], [], .failed .write⟩

/-- The fixtures that answer the queries of a project: those of the file that is asked for, or
of the one in the settings, or none. -/
def projectFixtures (disk : Disk m) (project : Project) (asked : Option Text) :
    m (Except ReportError Fixtures) :=
  match (asked.map (FilePath.join project.root)).or
      (project.settings.fixturesFile? project.root) with
  | some path => loadFixtures disk path
  | none => return .ok .empty

/-- The directory that a report is written to: the one that is asked for, or the one in the
settings. -/
def outputDirectory (project : Project) (asked : Option Text) : Except ReportError Text :=
  match asked with
  | some path => .ok (FilePath.join project.root path)
  | none => project.settings.outputDirectory project.root

/-- Makes the report of a project, and prints it or writes it. -/
def runGenerate (disk : Disk m) (surroundings : Surroundings) (color : Bool) (root : Text)
    (template output fixtures : Option Text) (pageSize : Option PageSize) (stdout : Bool) :
    m RunResult := do
  match ← findProject disk root template with
  | .error error => return .ofError error
  | .ok project =>
    match ← projectFixtures disk project fixtures with
    | .error error => return .ofError error
    | .ok answers =>
      match ← generateFile disk project.template project.settings.limits Fixtures.engine
          answers with
      | .error error => return .ofError error
      | .ok generation =>
        let warnings := generation.warnings.map (warningLine color)
        let size := pageSize.getD project.settings.pageSize
        let report := Page.render generation.document.toText size
        if stdout then return (RunResult.printed report).withWarnings warnings
        else
          match outputDirectory project output with
          | .error error => return (RunResult.ofError error).withWarnings warnings
          | .ok directory =>
            let result ← writeReport disk surroundings color project directory report size
            return result.withWarnings warnings

/-- Checks what a template declares. -/
def runCheck (disk : Disk m) (verbose color : Bool) (root : Text) (template : Option Text) :
    m RunResult := do
  match ← readDeclarations disk root template with
  | .error error => return .ofError error
  | .ok (project, parsed) =>
    let checked : Text :=
      if verbose then "Checked " ++ FilePath.relativeTo project.template root ++ "\n" else []
    return .printed (checked ++ Style.green.paint color "Template is valid:" ++ " " ++
      Text.ofNat parsed.catalog.dataSources.size ++ " datasource(s) and " ++
      Text.ofNat parsed.catalog.dataSets.size ++ " dataset(s) declared.\n")

/-- The line for a datasource. -/
def sourceLine (source : DataSource) : Text :=
  "  " ++ source.name ++ " " ++ source.server ++ "/" ++ source.database ++ "\n"

/-- The line for a dataset. A dataset that cannot be run is noted. -/
def dataSetLine (color : Bool) (dataSet : DataSet) : Text :=
  let note : Text := match dataSet.type with
    | .storedProcedure => []
    | _ => " " ++ Style.yellow.paint color "(not executable)"
  "  " ++ dataSet.name ++ " " ++ dataSet.dataSource ++ "." ++ dataSet.object ++ " [" ++
    dataSet.type.name ++ "] " ++ Text.ofNat dataSet.parameters.length ++ " param(s)" ++ note ++
    "\n"

/-- The line for a loop. A loop over a dataset that is not declared is noted. -/
def loopLine (catalog : Catalog) (color : Bool) (loop : Loop) : Text :=
  let status : Text :=
    if catalog.dataSets.contains loop.dataSet then "linked"
    else Style.yellow.paint color "undeclared"
  "  " ++ loop.id.toText ++ " for " ++ loop.element ++ " in " ++ loop.dataSet ++ " (" ++
    status ++ ")\n"

/-- Lines under a heading, or nothing if there are no lines. -/
def listing (color : Bool) (heading : Text) (lines : List Text) : Text :=
  if lines = [] then [] else Style.bold.paint color heading ++ "\n" ++ lines.flatten

/-- Lists what a template declares, and its loops. -/
def runList (disk : Disk m) (color : Bool) (root : Text) (template : Option Text) :
    m RunResult := do
  match ← readDeclarations disk root template with
  | .error error => return .ofError error
  | .ok (_, parsed) =>
    let catalog := parsed.catalog
    let loops := (extractLoops parsed.body).table.loops
    let text :=
      listing color "Datasources:" (catalog.dataSources.toList.map sourceLine) ++
      listing color "Datasets:" (catalog.dataSets.toList.map (dataSetLine color)) ++
      listing color "Loops:" (loops.map (loopLine catalog color))
    return .printed (if text = [] then "No declarations or loops found.\n" else text)

/-- Runs the command of some arguments. -/
def runCommand (disk : Disk m) (surroundings : Surroundings) (arguments : Arguments) :
    m RunResult :=
  let root := arguments.path.getD surroundings.workingDirectory
  let color := surroundings.color && !arguments.noColor
  match arguments.command with
  | none => return ⟨[], [], .noCommand⟩
  | some (.generate template output fixtures pageSize stdout) =>
    runGenerate disk surroundings color root template output fixtures pageSize stdout
  | some (.check template) => runCheck disk arguments.verbose color root template
  | some (.list template) => runList disk color root template

/-- The name and version of the program. -/
def versionText : Text := "reportgen_cli 0.3.0\n"

/-- A summary of the commands and options. -/
def helpText : Text :=
  "Turn data-bound HTML templates into finished report documents.\n\n" ++
  "Usage: reportgen [OPTIONS] [COMMAND]\n\n" ++
  "Commands:\n" ++
  "  generate  Resolve the template and write the finished report\n" ++
  "  check     Validate the template declarations without running any query\n" ++
  "  list      List the datasources, datasets and loops declared in the template\n" ++
  "  help      Print this message\n\n" ++
  "Options:\n" ++
  "  -p, --path <PATH>  Path to the project root directory holding `reportgen.toml`\n" ++
  "  -v, --verbose      Enable verbose output\n" ++
  "      --no-color     Disable colored output\n" ++
  "  -h, --help         Print help\n" ++
  "  -V, --version      Print version\n"

/-- Runs the program with some arguments. -/
def runProgram (disk : Disk m) (surroundings : Surroundings) (arguments : List Text) :
    m RunResult :=
  match Arguments.parse arguments with
  | .ok arguments => runCommand disk surroundings arguments
  | .error .help => return ⟨helpText, [], .refused .help⟩
  | .error .version => return ⟨versionText, [], .refused .version⟩
  | .error .usage => return ⟨[], [], .refused .usage⟩

end

end BoundReport
