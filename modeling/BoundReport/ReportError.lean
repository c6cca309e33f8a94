import BoundReport.Definition.Error
import BoundReport.Template.Statement

/-!
# Errors that end a run

Each error has a message, a stable code, and for most a hint on how to mend it.
-/

namespace BoundReport

/-- What is wrong with a fixture file. -/
inductive FixtureFault
  /-- The file cannot be read, or is no text in its format. -/
  | unreadable
  /-- The file as a whole is no table. -/
  | notTable
  | sourceNotTable (source : Text)
  | rowsNotList (source object : Text)
  | rowNotTable (source object : Text)
  deriving DecidableEq, Repr

/-- Why no report is produced. -/
inductive ReportError
  /-- A file cannot be read. -/
  | io
  /-- The settings file is not understood. -/
  | configParse
  | missingSetting (name : Text)
  | malformedDeclaration (kind : DeclarationKind) (line : Nat) (reason : DefinitionError)
  | duplicateDefinition (kind : DeclarationKind) (name : Text)
  | unknownReference (dataSet dataSource : Text)
  | invalidSetting (setting value expected : Text)
  | fixtureFile (path : Text) (fault : FixtureFault)
  | unsupportedFixtureFormat (format : Text)
  deriving DecidableEq, Repr

/-- The wording of a fixture fault. -/
def FixtureFault.message : FixtureFault → Text
  | .unreadable => "the file cannot be read"
  | .notTable => "expected a table of datasources"
  | .sourceNotTable source => "datasource `" ++ source ++ "` must be a table of routines"
  | .rowsNotList source object => "`" ++ source ++ "." ++ object ++ "` must be a list of rows"
  | .rowNotTable source object => "rows of `" ++ source ++ "." ++ object ++ "` must be tables"

namespace ReportError

/-- The wording of an error. -/
def message : ReportError → Text
  | io => "a file cannot be read or written"
  | configParse => "failed to parse config file"
  | missingSetting name => "missing setting: `" ++ name ++ "`"
  | malformedDeclaration kind line reason =>
    "malformed " ++ kind.keyword ++ " declaration on line " ++ Text.ofNat line ++ ": " ++
      reason.message
  | duplicateDefinition kind name => "duplicate " ++ kind.keyword ++ " `" ++ name ++ "`"
  | unknownReference dataSet dataSource =>
    "dataset `" ++ dataSet ++ "` references undeclared datasource `" ++ dataSource ++ "`"
  | invalidSetting setting value _ =>
    "invalid value `" ++ value ++ "` for `" ++ setting ++ "`"
  | fixtureFile path fault =>
    "failed to load fixture file `" ++ path ++ "`: " ++ fault.message
  | unsupportedFixtureFormat format => "unsupported fixture file format: `" ++ format ++ "`"

/-- The stable code of an error. -/
def code : ReportError → Text
  | io => "reportgen::io_error"
  | configParse => "reportgen::config_parse"
  | missingSetting _ => "reportgen::missing_setting"
  | malformedDeclaration _ _ _ => "reportgen::malformed_declaration"
  | duplicateDefinition _ _ => "reportgen::duplicate_definition"
  | unknownReference _ _ => "reportgen::unknown_reference"
  | invalidSetting _ _ _ => "reportgen::invalid_setting"
  | fixtureFile _ _ => "reportgen::fixture_file"
  | unsupportedFixtureFormat _ => "reportgen::unsupported_format"

/-- How to mend an error. -/
def help? : ReportError → Option Text
  | io => none
  | configParse => some "check that reportgen.toml is valid TOML"
  | missingSetting name =>
    some ("set `" ++ name ++ "` in reportgen.toml or pass it on the command line")
  | malformedDeclaration _ _ _ => none
  | duplicateDefinition kind _ =>
    some ("each " ++ kind.keyword ++ " name must be unique within a template")
  | unknownReference _ dataSource =>
    some ("declare `\x7b% datasource name=\"" ++ dataSource ++
      "\" ... %\x7d` above the dataset")
  | invalidSetting _ _ expected => some ("expected one of: " ++ expected)
  | fixtureFile _ _ => none
  | unsupportedFixtureFormat _ => some "supported formats: json, toml, yaml, yml"

end ReportError

end BoundReport
