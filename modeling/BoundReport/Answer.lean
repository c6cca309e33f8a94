import BoundReport.Catalog
import BoundReport.Json.Printer

/-!
# Answers to queries

A dataset gets its rows from an **engine**. An engine answers one invocation at a time, and may
change its state with every answer, so asking the same twice may give two different answers. An
answer is a list of rows, each with values under column names, or a failure.
-/

namespace BoundReport

/-- Why a dataset has no rows. -/
inductive QueryFailure
  | connection (dataSource reason : Text)
  | execution (object reason : Text)
  /-- Datasets of this type cannot be run. -/
  | unsupported (type : DataSetType)
  deriving DecidableEq, Repr

/-- The wording of a query failure. -/
def QueryFailure.message : QueryFailure → Text
  | .connection dataSource reason =>
    "cannot connect to datasource `" ++ dataSource ++ "`: " ++ reason
  | .execution object reason => "executing `" ++ object ++ "` failed: " ++ reason
  | .unsupported type => type.name ++ " datasets have no execution path"

/-- The text of a cell: nothing for null, a string as it is, and JSON for all else. -/
def cellText : Json → Text
  | .null => []
  | .string text => text
  | value => value.toText

/-- A **row** of a result: values under column names, in column order. -/
structure Row where
  cells : List (Text × Json)

namespace Row

/-- The value in a column. A column with exactly this name is preferred to one that differs in
the case of ASCII letters, and of several columns the first counts. -/
def get? (row : Row) (column : Text) : Option Json :=
  match row.cells.find? (fun cell => cell.1 = column) with
  | some cell => some cell.2
  | none =>
    (row.cells.find? fun cell => Text.equalsIgnoringCase cell.1 column).map (·.2)

/-- The text of the value in a column. -/
def text? (row : Row) (column : Text) : Option Text := (row.get? column).map cellText

end Row

/-- An **engine** with states of type `σ`: the answer to an invocation, and the state that
follows. -/
structure Engine (σ : Type) where
  execute : DataSource → Invocation → σ → Except QueryFailure (List Row) × σ

end BoundReport
