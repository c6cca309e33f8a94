import BoundReport.Document
import BoundReport.Catalog

/-!
# The declarations of a template

A template declares its datasources and datasets on lines of their own, among the lines of its
body. Reading a template takes these lines out, in order: a dataset refers to a datasource
declared above it. The first faulty declaration ends the reading.

Of each kind, declarations are read until their number exceeds a limit: with the limit `n`, the
first `n + 1` lines of a kind are declarations, and any further one is a line of the body.
-/

namespace BoundReport

/-- How many lines of each kind may precede a line that is still read as a declaration. -/
structure DeclarationLimits where
  maxDataSources : Nat := 10
  maxDataSets : Nat := 50
  deriving DecidableEq, Repr

/-- A template taken apart: what it declares, and its remaining lines as written. -/
structure ParsedTemplate where
  catalog : Catalog
  body : Document

namespace ParsedTemplate

/-- Reports a faulty declaration together with its place. -/
def malformed {α : Type} (kind : DeclarationKind) (line : Nat) :
    Except DefinitionError α → Except ReportError α
  | .ok value => .ok value
  | .error reason => .error (.malformedDeclaration kind line reason)

/-- Adds the datasource that a definition on a line declares. -/
def declareDataSource (catalog : Catalog) (line : Nat) (definition : Text) :
    Except ReportError Catalog := do
  let source ← malformed .dataSource line (DataSource.parse definition)
  catalog.registerDataSource source

/-- Adds the dataset that a definition on a line declares. Its datasource has to be there
already. -/
def declareDataSet (catalog : Catalog) (line : Nat) (definition : Text) :
    Except ReportError Catalog := do
  let dataSet ← malformed .dataSet line (DataSet.parse definition)
  if catalog.dataSources.contains dataSet.dataSource then catalog.registerDataSet dataSet
  else .error (.unknownReference dataSet.name dataSet.dataSource)

/-- How far the reading of a template has come. -/
structure Progress where
  catalog : Catalog
  /-- The number of lines read. -/
  line : Nat
  /-- The numbers of lines with the form of a datasource and of a dataset. -/
  sourceLines : Nat
  setLines : Nat

/-- The reading of no line. -/
def Progress.start : Progress := ⟨.empty, 0, 0, 0⟩

/-- Reads one line. The line is either taken as a declaration or left to the body. -/
def step (limits : DeclarationLimits) (progress : Progress) (line : Text) :
    Except ReportError (Progress × Option Text) := do
  let lexemes := lex line
  let number := progress.line + 1
  match declaration? DeclarationKind.dataSource.keyword lexemes with
  | some definition =>
    let next := { progress with line := number, sourceLines := progress.sourceLines + 1 }
    if progress.sourceLines ≤ limits.maxDataSources then
      let catalog ← declareDataSource progress.catalog number definition
      return ({ next with catalog := catalog }, none)
    else return (next, some line)
  | none =>
    match declaration? DeclarationKind.dataSet.keyword lexemes with
    | some definition =>
      let next := { progress with line := number, setLines := progress.setLines + 1 }
      if progress.setLines ≤ limits.maxDataSets then
        let catalog ← declareDataSet progress.catalog number definition
        return ({ next with catalog := catalog }, none)
      else return (next, some line)
    | none => return ({ progress with line := number }, some line)

/-- Reads lines, and puts those left to the body in order. -/
def readLines (limits : DeclarationLimits) (progress : Progress) :
    List Text → Except ReportError ParsedTemplate
  | [] => .ok ⟨progress.catalog, []⟩
  | line :: rest => do
    let (next, left) ← step limits progress line
    let parsed ← readLines limits next rest
    match left with
    | some text => return { parsed with body := .text text :: parsed.body }
    | none => return parsed

/-- Takes a template apart. -/
def parse (template : Text) (limits : DeclarationLimits) : Except ReportError ParsedTemplate :=
  readLines limits .start (splitLines template)

end ParsedTemplate

end BoundReport
