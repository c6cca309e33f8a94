import BoundReport.Json

/-!
# TOML values

Settings and fixtures may be written as TOML. A TOML document is a table; its values are
strings, integers, doubles, truth values, dates and times, arrays and tables. A table is kept in
ascending order of its keys.

A document may write numbers of any size. Which of them are too great is up to those who use the
document.
-/

namespace BoundReport

/-- A date of the calendar. -/
structure TomlDate where
  year : Nat
  month : Nat
  day : Nat
  deriving DecidableEq, Repr

/-- A time of day. Its seconds, and the fraction of a second in nanoseconds, may be missing;
a fraction that is written counts even if it is zero. -/
structure TomlTime where
  hour : Nat
  minute : Nat
  second : Option Nat
  nanosecond : Option Nat
  deriving DecidableEq, Repr

/-- How many minutes a local time is ahead of universal time; `zulu` is universal time itself. -/
inductive TomlOffset
  | zulu
  | minutes (ahead : Int)
  deriving DecidableEq, Repr

/-- A date, a time of day, or both, in the last case perhaps with an offset. -/
inductive TomlDatetime
  | date (date : TomlDate)
  | time (time : TomlTime)
  | both (date : TomlDate) (time : TomlTime) (offset : Option TomlOffset)
  deriving DecidableEq, Repr

/-- A TOML value. -/
inductive Toml
  | string (value : Text)
  | integer (value : Int)
  | float (value : Double)
  /-- A number with a fraction or an exponent that is too great for a double. -/
  | excessive
  | boolean (value : Bool)
  | datetime (value : TomlDatetime)
  | array (items : List Toml)
  | table (members : List (Text × Toml))

/-- The written form `YYYY-MM-DD`. -/
def TomlDate.toText (d : TomlDate) : Text :=
  Text.padded 4 d.year ++ ['-'] ++ Text.padded 2 d.month ++ ['-'] ++ Text.padded 2 d.day

/-- The digits of a fraction of a second: as few as write it, but at least one. -/
def fractionDigits (nanosecond : Nat) : Text :=
  if nanosecond = 0 then ['0']
  else ((Text.padded 9 nanosecond).reverse.dropWhile (· = '0')).reverse

/-- The written form `HH:MM`, with the seconds and their fraction as far as there are any. -/
def TomlTime.toText (t : TomlTime) : Text :=
  let seconds : Text := match t.second with
    | some second => ':' :: Text.padded 2 second
    | none => []
  let fraction : Text := match t.nanosecond with
    | some nanosecond => '.' :: fractionDigits nanosecond
    | none => []
  Text.padded 2 t.hour ++ [':'] ++ Text.padded 2 t.minute ++ seconds ++ fraction

/-- The written form of an offset: `Z`, or a signed number of hours and minutes. -/
def TomlOffset.toText : TomlOffset → Text
  | .zulu => ['Z']
  | .minutes ahead =>
    (if ahead < 0 then '-' else '+') ::
      Text.padded 2 (ahead.natAbs / 60) ++ [':'] ++ Text.padded 2 (ahead.natAbs % 60)

/-- The written form of a date or time; a `T` stands between a date and its time. -/
def TomlDatetime.toText : TomlDatetime → Text
  | .date d => d.toText
  | .time t => t.toText
  | .both d t offset =>
    d.toText ++ ['T'] ++ t.toText ++ (offset.map TomlOffset.toText).getD []

namespace Toml

/-- The text of a double that is not finite. -/
def nonFiniteText (x : Double) : Text :=
  if x.isInfinite then (if x.isNegative then "-inf" else "inf") else "NaN"

/-- Whether an integer fits 64 bits with a sign. -/
def isWord (n : Int) : Bool := -0x8000000000000000 ≤ n && n < 0x8000000000000000

mutual

/-- The JSON value for a TOML value. Dates and times, and doubles that are not finite, become
strings. There is none for a number that fits neither a word nor a double. -/
def toJson? : Toml → Option Json
  | .string value => some (.string value)
  | .integer value => if isWord value then some (.int value) else none
  | .float value =>
    some (if value.isFinite then .float value else .string (nonFiniteText value))
  | .excessive => none
  | .boolean value => some (.bool value)
  | .datetime value => some (.string value.toText)
  | .array items => (itemsToJson? items).map .array
  | .table members => (membersToJson? members).map .object

/-- The JSON values for the items of an array. -/
def itemsToJson? : List Toml → Option (List Json)
  | [] => some []
  | item :: rest => do
    let item ← toJson? item
    let rest ← itemsToJson? rest
    return item :: rest

/-- The JSON members for the members of a table. -/
def membersToJson? : List (Text × Toml) → Option (List (Text × Json))
  | [] => some []
  | (key, value) :: rest => do
    let value ← toJson? value
    let rest ← membersToJson? rest
    return (key, value) :: rest

end

/-- Whether an integer fits 128 bits, with a sign or without. -/
def isDoubleWord (n : Int) : Bool :=
  -0x80000000000000000000000000000000 ≤ n && n < 0x100000000000000000000000000000000

mutual

/-- Whether a value can be passed over: all its numbers are within some bounds, wide as these
are. -/
def isBounded : Toml → Bool
  | .integer value => isDoubleWord value
  | .excessive => false
  | .array items => areBounded items
  | .table members => membersAreBounded members
  | _ => true

/-- Whether the items of an array can be passed over. -/
def areBounded : List Toml → Bool
  | [] => true
  | item :: rest => isBounded item && areBounded rest

/-- Whether the values of a table can be passed over. -/
def membersAreBounded : List (Text × Toml) → Bool
  | [] => true
  | (_, value) :: rest => isBounded value && membersAreBounded rest

end

/-- The member of a table with this key. -/
def get? (value : Toml) (key : Text) : Option Toml :=
  match value with
  | .table members => members.lookup key
  | _ => none

end Toml

end BoundReport
