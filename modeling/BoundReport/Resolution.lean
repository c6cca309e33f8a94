import BoundReport.Declarations
import BoundReport.Loop
import BoundReport.Answer

/-!
# Filling in a document

After its loops have been taken out, a document is filled in twice. First each placeholder is
replaced by the body of its loop, once for each row of the loop's dataset. Then each remaining
tag is replaced by a field of the first row of its dataset.

What cannot be filled in does not end the run. A loop over a dataset that is not declared is
dropped, a tag of such a dataset stays as written, and a failed query counts as one without
rows; each time a **warning** is recorded.

A `Resolution` is a computation that may ask the engine. Apart from its result it tells which
calls were made and which warnings arose, both in order.
-/

namespace BoundReport

/-- Something that did not end the run but changed the report. -/
inductive Warning
  | unresolvedLoop (loop : LoopId) (dataSet : Text)
  | unresolvedTag (tag dataSet : Text)
  | queryFailed (dataSet : Text) (failure : QueryFailure)
  | unterminatedLoop (loop : LoopId) (dataSet : Text)
  deriving DecidableEq, Repr

/-- The wording of a warning. -/
def Warning.message : Warning → Text
  | .unresolvedLoop loop dataSet =>
    "loop " ++ loop.toText ++ " iterates over undeclared dataset `" ++ dataSet ++
      "` and was dropped"
  | .unresolvedTag tag dataSet =>
    "`" ++ tag ++ "` references undeclared dataset `" ++ dataSet ++
      "` and was left as written"
  | .queryFailed dataSet failure =>
    "dataset `" ++ dataSet ++ "` returned no rows: " ++ failure.message
  | .unterminatedLoop loop dataSet =>
    "loop " ++ loop.toText ++ " over `" ++ dataSet ++
      "` has no `\x7b% endfor %\x7d`; its body runs to the end of the template"

/-- One question to the engine. -/
structure Call where
  source : DataSource
  invocation : Invocation
  deriving DecidableEq, Repr

/-- The end of a computation: its result, the engine's state, and what happened, in order. -/
structure Outcome (σ α : Type) where
  value : α
  state : σ
  calls : List Call
  warnings : List Warning

/-- A computation that may ask an engine with states of type `σ`. -/
def Resolution (σ α : Type) : Type := σ → Outcome σ α

namespace Resolution

variable {σ α β : Type}

/-- Runs a computation from a state of the engine. -/
def run (computation : Resolution σ α) (state : σ) : Outcome σ α := computation state

instance : Monad (Resolution σ) where
  pure value := fun state => ⟨value, state, [], []⟩
  bind first next := fun state =>
    let one := first state
    let two := next one.value one.state
    ⟨two.value, two.state, one.calls ++ two.calls, one.warnings ++ two.warnings⟩

/-- Records a warning. -/
def warn (warning : Warning) : Resolution σ Unit := fun state => ⟨(), state, [], [warning]⟩

/-- Asks the engine. -/
def ask (engine : Engine σ) (source : DataSource) (invocation : Invocation) :
    Resolution σ (Except QueryFailure (List Row)) := fun state =>
  let (answer, next) := engine.execute source invocation state
  ⟨answer, next, [⟨source, invocation⟩], []⟩

end Resolution

section

variable {σ : Type}

/-- The reason for which a dataset without its datasource cannot be run. -/
def undeclaredReason : Text := "datasource is not declared"

/-- Runs a dataset. -/
def runDataSet (catalog : Catalog) (engine : Engine σ) (dataSet : DataSet) :
    Resolution σ (Except QueryFailure (List Row)) :=
  match catalog.dataSourceFor? dataSet with
  | none => pure (.error (.connection dataSet.dataSource undeclaredReason))
  | some source =>
    match dataSet.invocation? with
    | none => pure (.error (.unsupported dataSet.type))
    | some invocation => Resolution.ask engine source invocation

/-- The rows of the dataset with this name, or none if no dataset has it. A failure is
recorded and yields no rows. -/
def fetch (catalog : Catalog) (engine : Engine σ) (name : Text) :
    Resolution σ (Option (List Row)) :=
  match catalog.dataSets.get? name with
  | none => pure none
  | some dataSet => do
    match ← runDataSet catalog engine dataSet with
    | .ok rows => return some rows
    | .error failure => do
      Resolution.warn (.queryFailed name failure)
      return some []

/-! ### Loops -/

/-- The body of a loop for one row: tags of the loop's element are replaced by fields of the
row, and stay as written where the row has no such column. -/
def expandRow (loop : Loop) (row : Row) : Text :=
  (fragments loop.body).flatMap fun
    | .literal text => text
    | .tag found =>
      if found.dataSet = loop.element then (row.text? found.field).getD found.raw
      else found.raw

/-- The line that a loop becomes, or none if it leaves nothing. -/
def resolveLoop (catalog : Catalog) (engine : Engine σ) (loop : Loop) :
    Resolution σ (Option Line) := do
  match ← fetch catalog engine loop.dataSet with
  | none => do
    Resolution.warn (.unresolvedLoop loop.id loop.dataSet)
    return none
  | some [] => return none
  | some rows => return some (.text (Text.trim (rows.flatMap (expandRow loop))))

/-- What a line becomes when loops are filled in. The placeholder of an unknown loop is
dropped. -/
def resolveLoopLine (catalog : Catalog) (engine : Engine σ) (table : LoopTable) :
    Line → Resolution σ (Option Line)
  | .text content => pure (some (.text content))
  | .placeholder id =>
    match table.get? id with
    | none => pure none
    | some loop => resolveLoop catalog engine loop

/-- Replaces every placeholder by the line that its loop becomes. -/
def resolveLoops (catalog : Catalog) (engine : Engine σ) (table : LoopTable) :
    Document → Resolution σ Document
  | [] => pure []
  | line :: rest => do
    let first ← resolveLoopLine catalog engine table line
    let others ← resolveLoops catalog engine table rest
    return first.toList ++ others

/-! ### Tags -/

/-- The text that a tag becomes: the field of the first row of its dataset, or the tag as
written. Every tag asks anew. -/
def resolveTag (catalog : Catalog) (engine : Engine σ) (tag : Tag) : Resolution σ Text := do
  match ← fetch catalog engine tag.dataSet with
  | none => do
    Resolution.warn (.unresolvedTag tag.raw tag.dataSet)
    return tag.raw
  | some rows => return (rows.head?.bind fun row => row.text? tag.field).getD tag.raw

/-- The text that fragments become, tags from left to right. -/
def resolveFragments (catalog : Catalog) (engine : Engine σ) :
    List Fragment → Resolution σ Text
  | [] => pure []
  | .literal text :: rest => do
    let others ← resolveFragments catalog engine rest
    return text ++ others
  | .tag found :: rest => do
    let value ← resolveTag catalog engine found
    let others ← resolveFragments catalog engine rest
    return value ++ others

/-- What a line becomes when tags are filled in. A line with a tag is trimmed, any other line
stays. -/
def resolveTagLine (catalog : Catalog) (engine : Engine σ) : Line → Resolution σ Line
  | .placeholder id => pure (.placeholder id)
  | .text content =>
    if tags content = [] then pure (.text content)
    else do
      let resolved ← resolveFragments catalog engine (fragments content)
      return .text (Text.trim resolved)

/-- Replaces every tag. -/
def resolveTags (catalog : Catalog) (engine : Engine σ) : Document → Resolution σ Document
  | [] => pure []
  | line :: rest => do
    let first ← resolveTagLine catalog engine line
    let others ← resolveTags catalog engine rest
    return first :: others

/-! ### Both -/

/-- Takes the loops out of a document and records a warning for a loop without an end. -/
def extractWithWarning (document : Document) : Resolution σ Extraction :=
  let extraction := extractLoops document
  match extraction.table.unterminated? with
  | some loop => do
    Resolution.warn (.unterminatedLoop loop.id loop.dataSet)
    return extraction
  | none => pure extraction

/-- Fills in a document. -/
def process (catalog : Catalog) (engine : Engine σ) (document : Document) :
    Resolution σ Document := do
  let extraction ← extractWithWarning document
  let withLoops ← resolveLoops catalog engine extraction.table extraction.document
  resolveTags catalog engine withLoops

end

/-- A finished run: the report, what its template declared, and what happened. -/
structure Generation (σ : Type) where
  document : Document
  catalog : Catalog
  state : σ
  calls : List Call
  warnings : List Warning

/-- Makes a report from a template: takes it apart, and fills in its body. A template that cannot
be taken apart asks nothing. -/
def makeReport {σ : Type} (template : Text) (limits : DeclarationLimits) (engine : Engine σ) :
    Resolution σ (Except ReportError (Document × Catalog)) :=
  match ParsedTemplate.parse template limits with
  | .error error => pure (.error error)
  | .ok parsed => do
    let document ← process parsed.catalog engine parsed.body
    return .ok (document, parsed.catalog)

/-- Makes a report from a template, and tells what happened. -/
def generate {σ : Type} (template : Text) (limits : DeclarationLimits) (engine : Engine σ)
    (state : σ) : Except ReportError (Generation σ) :=
  let outcome := (makeReport template limits engine).run state
  outcome.value.map fun (document, catalog) =>
    ⟨document, catalog, outcome.state, outcome.calls, outcome.warnings⟩

end BoundReport
