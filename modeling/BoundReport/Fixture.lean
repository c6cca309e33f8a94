import BoundReport.Answer
import BoundReport.Json.Reader
import BoundReport.Toml.Reader
import BoundReport.Yaml.Reader

/-!
# Fixtures

**Fixtures** answer queries from a table instead of a database: under the name of a datasource
and the name of a routine stands the list of rows that the routine returns. Asking leaves the
fixtures as they are.
-/

namespace BoundReport

/-- The rows of each routine, under its name. -/
abbrev Routines := List (Text × List Row)

/-- Answers under the names of datasources. -/
structure Fixtures where
  sources : List (Text × Routines)

/-- Sets the value under a key: in place of the old value, or at the end. -/
def setKey {α : Type} (key : Text) (value : α) : List (Text × α) → List (Text × α)
  | [] => [(key, value)]
  | (other, old) :: rest =>
    if other = key then (key, value) :: rest else (other, old) :: setKey key value rest

namespace Fixtures

/-- No answers. -/
def empty : Fixtures := ⟨[]⟩

/-- Sets the rows of a routine of a datasource. -/
def withRows (fixtures : Fixtures) (source object : Text) (rows : List Row) : Fixtures :=
  let routines := (fixtures.sources.lookup source).getD []
  ⟨setKey source (setKey object rows routines) fixtures.sources⟩

/-- The rows that a routine of a datasource returns. A datasource without any routine is not
known at all. -/
def answer (fixtures : Fixtures) (source object : Text) : Except QueryFailure (List Row) :=
  match fixtures.sources.lookup source with
  | none => .error (.connection source "no fixtures for this datasource")
  | some routines =>
    match routines.lookup object with
    | none => .error (.execution object ("no fixture rows in `" ++ source ++ "`"))
    | some rows => .ok rows

/-- The engine that answers from fixtures, which are its state. -/
def engine : Engine Fixtures :=
  ⟨fun source invocation fixtures =>
    (fixtures.answer source.name invocation.object, fixtures)⟩

/-! ### Fixtures from a JSON value -/

/-- The row that a JSON object gives: its members in their order. -/
def rowOfJson? : Json → Option Row
  | .object members => some ⟨members⟩
  | _ => none

/-- The rows that a JSON value gives for a routine. -/
def rowsOfJson (source object : Text) : Json → Except FixtureFault (List Row)
  | .array items =>
    match items.mapM rowOfJson? with
    | some rows => .ok rows
    | none => .error (.rowNotTable source object)
  | _ => .error (.rowsNotList source object)

/-- Adds the routines of a datasource. -/
def addRoutines (source : Text) (fixtures : Fixtures) :
    List (Text × Json) → Except FixtureFault Fixtures
  | [] => .ok fixtures
  | (object, value) :: rest => do
    let rows ← rowsOfJson source object value
    addRoutines source (fixtures.withRows source object rows) rest

/-- Adds datasources. -/
def addSources (fixtures : Fixtures) : List (Text × Json) → Except FixtureFault Fixtures
  | [] => .ok fixtures
  | (source, .object routines) :: rest => do
    let more ← addRoutines source fixtures routines
    addSources more rest
  | (source, _) :: _ => .error (.sourceNotTable source)

/-- The fixtures that a JSON value lists. The first fault, in the order of the keys, is the
error. -/
def ofJson : Json → Except FixtureFault Fixtures
  | .object sources => addSources empty sources
  | _ => .error .notTable

/-! ### Fixture files -/

/-- The value that a text in a format writes. The format is named by a file extension in small
letters. -/
def readValue (content format path : Text) : Except ReportError Json :=
  let orUnreadable : Option Json → Except ReportError Json
    | some value => .ok value
    | none => .error (.fixtureFile path .unreadable)
  if format = "json".toList then orUnreadable (Json.parse? content)
  else if format = "toml".toList then orUnreadable ((Toml.parse? content).bind Toml.toJson?)
  else if format = "yaml".toList ∨ format = "yml".toList then orUnreadable (Yaml.parse? content)
  else .error (.unsupportedFixtureFormat format)

/-- The fixtures that a text in a format lists. `path` is shown in errors. -/
def parse (content format path : Text) : Except ReportError Fixtures := do
  let value ← readValue content format path
  match ofJson value with
  | .ok fixtures => .ok fixtures
  | .error fault => .error (.fixtureFile path fault)

end Fixtures

end BoundReport
