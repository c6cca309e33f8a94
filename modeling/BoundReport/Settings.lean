import BoundReport.Declarations
import BoundReport.Disk
import BoundReport.Page
import BoundReport.Toml.Reader

/-!
# Settings

The settings of a project stand in a TOML file in its root directory. Every setting may be
missing; settings that are not known do not count, as long as their numbers are within bounds.
Paths in the settings start at the root.

A group of settings may also be written as an array of its values in their order, and a page
size as a table with the size as its only key and nothing below it.
-/

namespace BoundReport

/-- The **settings** of a project. -/
structure Settings where
  /-- The directory of the templates. -/
  templatePath : Option Text := none
  /-- The template in that directory. -/
  templateFile : Option Text := none
  /-- The directory that reports are written to. -/
  outputPath : Option Text := none
  pageSize : PageSize := .letter
  limits : DeclarationLimits := {}
  /-- The file that answers queries. -/
  fixturesPath : Option Text := none

namespace Settings

/-- The places of the settings file, as seen from the root; the first one that is a file
counts. -/
def candidates : List Text := ["reportgen.toml", ".reportgen.toml", ".config/reportgen.toml"]

/-! ### Settings from a TOML document -/

/-- A setting that may be missing. -/
def optional? {α : Type} (read : Toml → Option α) : Option Toml → Option (Option α)
  | none => some none
  | some value => (read value).map some

/-- A setting that is a text. -/
def text? : Toml → Option Text
  | .string value => some value
  | _ => none

/-- The greatest number of things. -/
def maxCount : Nat := 0xffffffffffffffff

/-- A setting that is a number of things. -/
def count? : Toml → Option Nat
  | .integer n => if 0 ≤ n ∧ n ≤ maxCount then some n.toNat else none
  | _ => none

/-- A setting that is a page size. -/
def pageSize? : Toml → Option PageSize
  | .string name => PageSize.ofName? name
  | .table [(name, .table [])] => PageSize.ofName? name
  | .table [(name, .array [])] => PageSize.ofName? name
  | _ => none

/-- A group of settings, which have these names, as a table; other members are passed over. A
date or time is a group without settings. -/
def group? (names : List Text) : Toml → Option Toml
  | .table members =>
    let others := members.filter fun member => !names.contains member.1
    if Toml.membersAreBounded others then some (.table members) else none
  | .array items => some (.table (names.zip items))
  | .datetime _ => some (.table [])
  | _ => none

/-- The limits on declarations. -/
def limits? (value : Toml) : Option DeclarationLimits := do
  let group ← group? ["max_datasources", "max_datasets"] value
  let sources ← optional? count? (group.get? "max_datasources")
  let sets ← optional? count? (group.get? "max_datasets")
  let default : DeclarationLimits := {}
  return ⟨sources.getD default.maxDataSources, sets.getD default.maxDataSets⟩

/-- The path of the fixture file. -/
def fixtures? (value : Toml) : Option (Option Text) := do
  let group ← group? ["path"] value
  optional? text? (group.get? "path")

/-- The names of the settings. -/
def names : List Text :=
  ["template_path", "template_file", "output_path", "page_size", "limits", "fixtures"]

/-- The settings that a TOML document lists. -/
def ofToml? (document : Toml) : Option Settings := do
  let document ← group? names document
  let templatePath ← optional? text? (document.get? "template_path")
  let templateFile ← optional? text? (document.get? "template_file")
  let outputPath ← optional? text? (document.get? "output_path")
  let pageSize ← optional? pageSize? (document.get? "page_size")
  let limits ← optional? limits? (document.get? "limits")
  let fixtures ← optional? fixtures? (document.get? "fixtures")
  return {
    templatePath := templatePath
    templateFile := templateFile
    outputPath := outputPath
    pageSize := pageSize.getD .letter
    limits := limits.getD {}
    fixturesPath := fixtures.getD none }

/-- The settings that a text lists. -/
def parse (content : Text) : Except ReportError Settings :=
  match (Toml.parse? content).bind ofToml? with
  | some settings => .ok settings
  | none => .error .configParse

/-! ### Settings of a project -/

section

variable {m : Type → Type} [Monad m]

/-- The first of some paths that is a file. -/
def findFile? (disk : Disk m) : List Text → m (Option Text)
  | [] => return none
  | path :: rest => do
    if ← disk.isFile path then return some path else findFile? disk rest

/-- The settings of the project at a root, with the path of their file; none if there is no
settings file. -/
def load (disk : Disk m) (root : Text) : m (Except ReportError (Option (Text × Settings))) := do
  match ← findFile? disk (candidates.map (FilePath.join root)) with
  | none => return .ok none
  | some path =>
    match ← disk.read? path with
    | none => return .error .io
    | some content => return (parse content).map fun settings => some (path, settings)

end

/-- The path of the template. -/
def template (settings : Settings) (root : Text) : Except ReportError Text :=
  match settings.templateFile, settings.templatePath with
  | none, _ => .error (.missingSetting "template_file")
  | some _, none => .error (.missingSetting "template_path")
  | some file, some directory => .ok (FilePath.join (FilePath.join root directory) file)

/-- The path of the directory that reports are written to. -/
def outputDirectory (settings : Settings) (root : Text) : Except ReportError Text :=
  match settings.outputPath with
  | none => .error (.missingSetting "output_path")
  | some path => .ok (FilePath.join root path)

/-- The path of the fixture file. -/
def fixturesFile? (settings : Settings) (root : Text) : Option Text :=
  settings.fixturesPath.map (FilePath.join root)

end Settings

end BoundReport
