import BoundReport.Template.Attributes
import BoundReport.Definition.Parameter

/-!
# Datasets

A dataset is a named query against one datasource. Only stored procedures can be run; tables,
views and functions may be declared, but have no rows.
-/

namespace BoundReport

/-- The kinds of database objects that a dataset may read. -/
inductive DataSetType
  | table
  | view
  | storedProcedure
  | function
  deriving DecidableEq, Repr

namespace DataSetType

/-- All dataset types. -/
def all : List DataSetType := [table, view, storedProcedure, function]

/-- The name of a dataset type in a declaration. -/
def name : DataSetType → Text
  | table => "table"
  | view => "view"
  | storedProcedure => "stored procedure"
  | function => "function"

/-- The dataset type with exactly this name. -/
def parse (value : Text) : Except DefinitionError DataSetType :=
  match all.find? (·.name = value) with
  | some type => .ok type
  | none => .error (.invalidDataSetType value)

/-- The name of a dataset type in data that programs exchange: without spaces. -/
def key : DataSetType → Text
  | table => "table"
  | view => "view"
  | storedProcedure => "stored_procedure"
  | function => "function"

/-- The dataset type with exactly this key. -/
def ofKey? (value : Text) : Option DataSetType := all.find? (·.key = value)

end DataSetType

/-- What is run against a datasource: a stored procedure with its parameters. -/
inductive Invocation
  | storedProcedure (object : Text) (parameters : List Parameter)
  deriving DecidableEq, Repr

namespace Invocation

/-- The name of the database object that is run. -/
def object : Invocation → Text
  | storedProcedure object _ => object

/-- The parameters that are passed. -/
def parameters : Invocation → List Parameter
  | storedProcedure _ parameters => parameters

end Invocation

/-- A **dataset**: a database object read through the datasource named `dataSource`. -/
structure DataSet where
  dataSource : Text
  type : DataSetType
  name : Text
  object : Text
  parameters : List Parameter
  deriving DecidableEq, Repr

namespace DataSet

/-- The greatest number of `param` attributes that are read. -/
def maxParameters : Nat := 100

/-- The parameters that a list of `param` values defines. The list ends before its first empty
value and after `maxParameters` values; the first faulty value before that is the error. -/
def parseParameters (values : List Text) : Except DefinitionError (List Parameter) :=
  ((values.take maxParameters).takeWhile (· ≠ [])).mapM Parameter.parse

/-- The dataset type that attributes name; an empty name is invalid, not missing. -/
def typeOfAttributes (attributes : Attributes) : Except DefinitionError DataSetType :=
  match attributes.get? "type" with
  | some value => DataSetType.parse value
  | none => .error (.missingAttribute "type")

/-- The dataset that attributes define. Four attributes are mandatory, and the first fault in
the order datasource, name, type, object, parameters is the error. -/
def ofAttributes (attributes : Attributes) : Except DefinitionError DataSet := do
  let dataSource ← attributes.require "datasource"
  let name ← attributes.require "name"
  let type ← typeOfAttributes attributes
  let object ← attributes.require "object"
  let parameters ← parseParameters attributes.params
  return ⟨dataSource, type, name, object, parameters⟩

/-- The dataset that the definition in a declaration writes. -/
def parse (definition : Text) : Except DefinitionError DataSet :=
  (Attributes.parse definition).bind ofAttributes

/-- How the dataset is run, if it can be run at all. -/
def invocation? (dataSet : DataSet) : Option Invocation :=
  match dataSet.type with
  | .storedProcedure => some (.storedProcedure dataSet.object dataSet.parameters)
  | .table | .view | .function => none

/-- The parameters with their keys `param1`, `param2` and so on. -/
def keyedParameters (dataSet : DataSet) : List (Text × Parameter) :=
  dataSet.parameters.zipIdx.map fun (parameter, index) =>
    ("param" ++ Text.ofNat (index + 1), parameter)

end DataSet

end BoundReport
