import BoundReport.Json
import BoundReport.Text.Digits

/-!
# Reading JSON

A text is read as one JSON value with space around it (RFC 8259). Nothing else may follow, and
arrays and objects nest at most 127 deep.

Integers from -2⁶³ to 2⁶⁴ - 1 stay integers, except `-0`, which is the negative zero among the
doubles. Any other number is a double. Its leading digits make up a significand below 2⁶⁴, and
the result is this significand, rounded to a double, times or divided by a power of ten. A
number beyond the greatest double is refused.
-/

namespace BoundReport.Json

/-- The four characters that may stand between the parts of a JSON text. -/
def isBlank (c : Char) : Bool := c == ' ' || c == '\n' || c == '\r' || c == '\t'

/-- The text after its leading blanks. -/
def skipBlanks (t : Text) : Text := t.dropWhile isBlank

/-! ### Numbers -/

/-- Appends digits to a significand as long as it stays below 2⁶⁴, and counts the digits that
are left over. -/
def growSignificand (significand : Nat) : Text → Nat × Nat
  | [] => (significand, 0)
  | digit :: rest =>
    let grown := 10 * significand + (digit.toNat - 48)
    if grown < 0x10000000000000000 then growSignificand grown rest
    else (significand, rest.length + 1)

/-- `x` times `10 ^ exponent`, by one multiplication or division while the power is a double,
and by divisions by 10³⁰⁸ before that. A result beyond the greatest double is refused. -/
def scaleByPower (x : Float) (exponent : Int) : Option Float :=
  if exponent.natAbs ≤ 308 then
    let power := (Double.nearest 1 exponent.natAbs).toFloat
    if 0 ≤ exponent then
      let product := x * power
      if product.isInf then none else some product
    else some (x / power)
  else if x == 0 then some x
  else if 0 ≤ exponent then none
  else scaleByPower (x / (Double.nearest 1 308).toFloat) (exponent + 308)
termination_by exponent.natAbs
decreasing_by omega

/-- The value of a number with an exponent or a fraction, or with more digits than an integer
may have. -/
def doubleOfParts (negative : Bool) (whole fraction : Text) (exponent : Int) :
    Option Json :=
  let (significand, wholeLeft) := growSignificand 0 whole
  let (significand, fractionLeft) := growSignificand significand fraction
  let shift := (wholeLeft : Int) - (fraction.length - fractionLeft : Nat) + exponent
  (scaleByPower significand.toFloat shift).map fun x =>
    .float (Double.ofFloat (if negative then -x else x))

/-- The value of a number that is written as digits only. -/
def valueOfDigits (negative : Bool) (whole : Text) : Option Json :=
  let n := Text.decimalNat whole
  if negative then
    if n = 0 then some (.float (Double.ofFloat (-0.0)))
    else if n ≤ 0x8000000000000000 then some (.int (-n))
    else doubleOfParts true whole [] 0
  else if n < 0x10000000000000000 then some (.int n)
  else doubleOfParts false whole [] 0

/-- Reads the exponent part of a number, if there is one: its value and what follows it. -/
def readExponent? : Text → Option (Option Int × Text)
  | c :: rest =>
    if c = 'e' ∨ c = 'E' then
      let (negative, rest) := match rest with
        | '-' :: more => (true, more)
        | '+' :: more => (false, more)
        | _ => (false, rest)
      match rest.takeWhile Char.isDigit with
      | [] => none
      | digits =>
        let n : Int := Text.decimalNat digits
        some (some (if negative then -n else n), rest.dropWhile Char.isDigit)
    else some (none, c :: rest)
  | [] => some (none, [])

/-- Reads the fraction of a number, if there is one: its digits and what follows it. -/
def readFraction? : Text → Option (Option Text × Text)
  | '.' :: rest =>
    match rest.takeWhile Char.isDigit with
    | [] => none
    | digits => some (some digits, rest.dropWhile Char.isDigit)
  | rest => some (none, rest)

/-- Reads a number at the start of a text: its value and what follows it. -/
def readNumber? (t : Text) : Option (Json × Text) := do
  let (negative, t) := match t with
    | '-' :: rest => (true, rest)
    | _ => (false, t)
  let whole := t.takeWhile Char.isDigit
  if whole = [] ∨ (whole.head? = some '0' ∧ 1 < whole.length) then none
  else
    let (fraction, t) ← readFraction? (t.dropWhile Char.isDigit)
    let (exponent, t) ← readExponent? t
    let value ← match fraction, exponent with
      | none, none => valueOfDigits negative whole
      | _, _ => doubleOfParts negative whole (fraction.getD []) (exponent.getD 0)
    return (value, t)

/-! ### Strings -/

/-- A part of a string: a character, or one UTF-16 unit given by an escape. -/
inductive StringPart
  | char (c : Char)
  | unit (n : Nat)

/-- The character that an escape with one letter stands for. -/
def escapeValue? (c : Char) : Option Char :=
  match c with
  | '"' => some '"'
  | '\\' => some '\\'
  | '/' => some '/'
  | 'b' => some '\x08'
  | 'f' => some '\x0c'
  | 'n' => some '\n'
  | 'r' => some '\r'
  | 't' => some '\t'
  | _ => none

/-- Reads the rest of a string after its opening quote: its parts and what follows it. -/
def readStringParts? : Text → Option (List StringPart × Text)
  | [] => none
  | '"' :: rest => some ([], rest)
  | '\\' :: 'u' :: a :: b :: c :: d :: rest => do
    let unit ← Text.basedNat? 16 [a, b, c, d]
    let (parts, rest) ← readStringParts? rest
    return (.unit unit :: parts, rest)
  | '\\' :: e :: rest => do
    let char ← escapeValue? e
    let (parts, rest) ← readStringParts? rest
    return (.char char :: parts, rest)
  | c :: rest =>
    if c = '\\' ∨ c.toNat < 0x20 then none
    else do
      let (parts, rest) ← readStringParts? rest
      return (.char c :: parts, rest)

/-- The text of a string. A pair of surrogates is one character; a lone one is refused. -/
def joinParts? : List StringPart → Option Text
  | [] => some []
  | .char c :: rest => (joinParts? rest).map (c :: ·)
  | .unit high :: .unit low :: rest =>
    if 0xd800 ≤ high ∧ high < 0xdc00 then
      if 0xdc00 ≤ low ∧ low < 0xe000 then
        (joinParts? rest).map
          (Char.ofNat (0x10000 + (high - 0xd800) * 0x400 + (low - 0xdc00)) :: ·)
      else none
    else if 0xdc00 ≤ high ∧ high < 0xe000 then none
    else (joinParts? (.unit low :: rest)).map (Char.ofNat high :: ·)
  | .unit n :: rest =>
    if 0xd800 ≤ n ∧ n < 0xe000 then none else (joinParts? rest).map (Char.ofNat n :: ·)

/-- Reads the rest of a string after its opening quote: its text and what follows it. -/
def readString? (t : Text) : Option (Text × Text) := do
  let (parts, rest) ← readStringParts? t
  return (← joinParts? parts, rest)

/-! ### Values -/

/-- The greatest depth to which arrays and objects nest. -/
def maxDepth : Nat := 127

mutual

/-- Reads a value at the start of a text: the value and what follows it. `depth` is the number
of arrays and objects that may still be opened around each other. -/
def readValue? : (fuel depth : Nat) → Text → Option (Json × Text)
  | 0, _, _ => none
  | fuel + 1, depth, t =>
    match skipBlanks t with
    | 'n' :: 'u' :: 'l' :: 'l' :: rest => some (.null, rest)
    | 't' :: 'r' :: 'u' :: 'e' :: rest => some (.bool true, rest)
    | 'f' :: 'a' :: 'l' :: 's' :: 'e' :: rest => some (.bool false, rest)
    | '"' :: rest => (readString? rest).map fun (text, rest) => (.string text, rest)
    | '[' :: rest =>
      if depth = 0 then none
      else
        match skipBlanks rest with
        | ']' :: rest => some (.array [], rest)
        | rest =>
          (readItems? fuel (depth - 1) rest).map fun (items, rest) => (.array items, rest)
    | '{' :: rest =>
      if depth = 0 then none
      else
        match skipBlanks rest with
        | '}' :: rest => some (.object [], rest)
        | rest =>
          (readMembers? fuel (depth - 1) rest).map fun (members, rest) =>
            (.ofMembers members, rest)
    | rest => readNumber? rest

/-- Reads the items of an array up to its closing bracket. -/
def readItems? : (fuel depth : Nat) → Text → Option (List Json × Text)
  | 0, _, _ => none
  | fuel + 1, depth, t => do
    let (item, rest) ← readValue? fuel depth t
    match skipBlanks rest with
    | ',' :: rest =>
      let (items, rest) ← readItems? fuel depth rest
      return (item :: items, rest)
    | ']' :: rest => return ([item], rest)
    | _ => none

/-- Reads the members of an object up to its closing brace. -/
def readMembers? : (fuel depth : Nat) → Text → Option (List (Text × Json) × Text)
  | 0, _, _ => none
  | fuel + 1, depth, t =>
    match skipBlanks t with
    | '"' :: rest => do
      let (key, rest) ← readString? rest
      match skipBlanks rest with
      | ':' :: rest =>
        let (value, rest) ← readValue? fuel depth rest
        match skipBlanks rest with
        | ',' :: rest =>
          let (members, rest) ← readMembers? fuel depth rest
          return ((key, value) :: members, rest)
        | '}' :: rest => return ([(key, value)], rest)
        | _ => none
      | _ => none
    | _ => none

end

/-- Reads a text as one JSON value. Every step of the reader takes at least one character or
goes from an array or object into its first part, so twice the length bounds the steps. -/
def parse? (t : Text) : Option Json :=
  match readValue? (2 * t.length + 2) maxDepth t with
  | some (value, rest) => if skipBlanks rest = [] then some value else none
  | none => none

end BoundReport.Json
