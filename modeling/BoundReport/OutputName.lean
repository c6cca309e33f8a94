import BoundReport.Calendar
import BoundReport.FilePath

/-!
# Names of reports

The file of a report is named for its template and for the time at which it was made, as in
`sales-20240309-140507.html`.
-/

namespace BoundReport

/-- A date of the Gregorian calendar with a time of day, without a time zone. -/
structure Timestamp where
  year : Int
  month : Nat
  day : Nat
  hour : Nat
  minute : Nat
  second : Nat
  deriving DecidableEq, Repr

namespace Timestamp

/-- The years that a timestamp may have. -/
def leastYear : Int := -262143

/-- The last of the years that a timestamp may have. -/
def greatestYear : Int := 262142

/-- Whether the fields are a date and a time that exist. Leap seconds do not count. -/
def isValid (t : Timestamp) : Bool :=
  leastYear ≤ t.year && t.year ≤ greatestYear && Calendar.isDate t.year t.month t.day &&
    t.hour < 24 && t.minute < 60 && t.second < 60

/-- A year in at least four digits, with a sign if it is negative or has more digits. -/
def yearText (year : Int) : Text :=
  let digits := Text.padded 4 year.natAbs
  if year < 0 then '-' :: digits
  else if 9999 < year then '+' :: digits
  else digits

/-- The written form `YYYYMMDD-HHMMSS`. -/
def toText (t : Timestamp) : Text :=
  yearText t.year ++ Text.padded 2 t.month ++ Text.padded 2 t.day ++ ['-'] ++
    Text.padded 2 t.hour ++ Text.padded 2 t.minute ++ Text.padded 2 t.second

end Timestamp

/-- The name of the report made from a template file at a time. A path that names no file
gives `report`. -/
def outputName (template : Text) (time : Timestamp) (extension : Text) : Text :=
  (FilePath.stem? template).getD "report" ++ ['-'] ++ time.toText ++ ['.'] ++ extension

end BoundReport
