import BoundReport.Definition.Error
import BoundReport.Text.Digits

/-!
# Parameters of a dataset

A parameter is written `name,TYPE,size`. Fields are trimmed and empty fields do not count, so
stray commas are harmless; exactly three fields have to remain. The type is one of sixteen,
in any case of its letters, and the size is a number below 2³² that may carry a plus sign.
-/

namespace BoundReport

/-- The column types that a parameter may have. -/
inductive ColumnType
  | bit | tinyInt | int | bigInt | decimal | float | real | char | varChar | text | nChar
  | nVarChar | nText | date | dateTime | time
  deriving DecidableEq, Repr

namespace ColumnType

/-- All column types. -/
def all : List ColumnType :=
  [bit, tinyInt, int, bigInt, decimal, float, real, char, varChar, text, nChar, nVarChar,
   nText, date, dateTime, time]

/-- The name of a column type, in capitals. -/
def name : ColumnType → Text
  | bit => "BIT"
  | tinyInt => "TINYINT"
  | int => "INT"
  | bigInt => "BIGINT"
  | decimal => "DECIMAL"
  | float => "FLOAT"
  | real => "REAL"
  | char => "CHAR"
  | varChar => "VARCHAR"
  | text => "TEXT"
  | nChar => "NCHAR"
  | nVarChar => "NVARCHAR"
  | nText => "NTEXT"
  | date => "DATE"
  | dateTime => "DATETIME"
  | time => "TIME"

/-- The column type with exactly this name. -/
def ofName? (value : Text) : Option ColumnType := all.find? (·.name = value)

/-- The column type with this name, in any case of its ASCII letters. -/
def parse (value : Text) : Except DefinitionError ColumnType :=
  match all.find? (fun type => Text.equalsIgnoringCase type.name value) with
  | some type => .ok type
  | none => .error (.invalidParameterType value)

end ColumnType

/-- The size that a text writes: digits, at least one, after at most one plus sign, with a
value below 2³². -/
def parseSize? (value : Text) : Option UInt32 :=
  let digits := match value with
    | '+' :: rest => rest
    | _ => value
  match digits with
  | [] => none
  | _ => (Text.basedNat? 10 digits).bind fun n =>
    if n < 0x100000000 then some n.toUInt32 else none

/-- A **parameter** of a dataset. -/
structure Parameter where
  name : Text
  type : ColumnType
  size : UInt32
  deriving DecidableEq, Repr

namespace Parameter

/-- The trimmed fields of a parameter definition without the empty ones. -/
def fields (definition : Text) : List Text :=
  ((Text.splitOn ',' definition).map Text.trim).filter (· ≠ [])

/-- The parameter that a definition `name,TYPE,size` writes. -/
def parse (definition : Text) : Except DefinitionError Parameter :=
  match fields definition with
  | [name, type, size] => do
    let type ← ColumnType.parse type
    match parseSize? size with
    | some size => .ok ⟨name, type, size⟩
    | none => .error (.invalidParameterSize size)
  | other => .error (.parameterFieldCount definition other.length)

/-- The parameter written as its definition. -/
def toText (parameter : Parameter) : Text :=
  parameter.name ++ [','] ++ parameter.type.name ++ [','] ++ Text.ofNat parameter.size.toNat

end Parameter

end BoundReport
