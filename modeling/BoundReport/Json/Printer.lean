import BoundReport.Json
import BoundReport.Decimal.Shortest

/-!
# JSON text

The compact written form of a JSON value: no space anywhere, members in the order of the object.
Of the characters of a string, only the quote, the backslash and the control characters below
U+0020 are escaped. A double is written with the fewest digits that are read as it.
-/

namespace BoundReport.Json

/-- The small letter or digit that writes a hexadecimal digit. -/
def hexDigit (n : Nat) : Char := Nat.digitChar n

/-- A character of a string as it is written. -/
def escapeChar (c : Char) : Text :=
  if c = '"' then ['\\', '"']
  else if c = '\\' then ['\\', '\\']
  else if c = '\n' then ['\\', 'n']
  else if c = '\r' then ['\\', 'r']
  else if c = '\t' then ['\\', 't']
  else if c = '\x08' then ['\\', 'b']
  else if c = '\x0c' then ['\\', 'f']
  else if c.toNat < 0x20 then
    ['\\', 'u', '0', '0', hexDigit (c.toNat / 16), hexDigit (c.toNat % 16)]
  else [c]

/-- A string between quotes. -/
def quote (t : Text) : Text := '"' :: t.flatMap escapeChar ++ ['"']

/-- The decimal exponents that are written without an exponent part are at least this one. -/
def leastPositional : Int := -5

/-- The decimal exponents that are written without an exponent part are below this one. -/
def firstScientific : Int := 16

/-- The written form of a finite double. An integral value keeps one digit after the point. -/
def doubleText (x : Double) : Text :=
  let sign : Text := if x.isNegative then ['-'] else []
  let d := Decimal.shortest x
  let digits := Text.ofNat d.digits
  let scientific := d.exponent + digits.length - 1
  let magnitude : Text :=
    if d.digits = 0 then "0.0"
    else if leastPositional ≤ scientific ∧ scientific < firstScientific then
      if 0 ≤ d.exponent then digits ++ List.replicate d.exponent.toNat '0' ++ ".0"
      else if 0 ≤ scientific then
        digits.take (scientific.toNat + 1) ++ "." ++ digits.drop (scientific.toNat + 1)
      else "0." ++ List.replicate (-scientific - 1).toNat '0' ++ digits
    else
      let fraction := match digits.drop 1 with
        | [] => []
        | rest => '.' :: rest
      let exponent : Text := if 0 ≤ scientific then "e+" else "e-"
      digits.take 1 ++ fraction ++ exponent ++ Text.ofNat scientific.natAbs
  sign ++ magnitude

mutual

/-- The written form of a JSON value. -/
def toText : Json → Text
  | .null => "null"
  | .bool true => "true"
  | .bool false => "false"
  | .int n => Text.ofInt n
  | .float x => doubleText x
  | .string t => quote t
  | .array items => "[" ++ itemsText items ++ "]"
  | .object members => "\x7b" ++ membersText members ++ "\x7d"

/-- The items of an array with commas between them. -/
def itemsText : List Json → Text
  | [] => []
  | [item] => toText item
  | item :: next :: rest => toText item ++ ',' :: itemsText (next :: rest)

/-- The members of an object with commas between them. -/
def membersText : List (Text × Json) → Text
  | [] => []
  | [(key, value)] => quote key ++ ':' :: toText value
  | (key, value) :: next :: rest =>
    quote key ++ ':' :: toText value ++ ',' :: membersText (next :: rest)

end

end BoundReport.Json
