import BoundReport.Toml
import BoundReport.Calendar
import BoundReport.Text.Digits

/-!
# Keys and single values of TOML

The parts of a TOML document that hold no other values: space and comments, keys, the four kinds
of strings, numbers, dates and times. A reader takes a text to what it has read and what
follows it, and refuses a text that does not begin as it should.
-/

namespace BoundReport.Toml

/-! ### Space and comments -/

/-- Whether a character separates parts of a line. -/
def isBlank (c : Char) : Bool := c == ' ' || c == '\t'

/-- The text after its leading blanks. -/
def skipBlanks (t : Text) : Text := t.dropWhile isBlank

/-- Whether a character may stand in a comment or in a string: no control but the tab. -/
def isPlain (c : Char) : Bool := c == '\t' || (0x20 ≤ c.toNat && c.toNat != 0x7f)

/-- The text after a line end, if it begins with one. -/
def lineEnd? : Text → Option Text
  | '\n' :: rest => some rest
  | '\r' :: '\n' :: rest => some rest
  | _ => none

/-- The text after a comment, if it begins with one. -/
def skipComment (t : Text) : Text :=
  match t with
  | '#' :: rest => rest.dropWhile isPlain
  | _ => t

/-- The text after blanks, comments and line ends. -/
def skipLines (fuel : Nat) (t : Text) : Text :=
  match fuel with
  | 0 => t
  | fuel + 1 =>
    let rest := skipComment (skipBlanks t)
    match lineEnd? rest with
    | some next => skipLines fuel next
    | none => rest

/-- The text of the next line, if nothing but a comment is left of this one. -/
def endLine? (t : Text) : Option Text :=
  let rest := skipComment (skipBlanks t)
  if rest = [] then some [] else lineEnd? rest

/-! ### Strings -/

/-- The character that a backslash with one letter stands for. -/
def escapeValue? (c : Char) : Option Char :=
  match c with
  | '"' => some '"'
  | '\\' => some '\\'
  | 'b' => some '\x08'
  | 'e' => some '\x1b'
  | 'f' => some '\x0c'
  | 'n' => some '\n'
  | 'r' => some '\r'
  | 't' => some '\t'
  | _ => none

/-- Puts a character in front of what has been read. -/
def consRead (c : Option Char) (read : Option (Text × Text)) : Option (Text × Text) := do
  let c ← c
  let (text, rest) ← read
  return (c :: text, rest)

/-- Reads the rest of a string on one line after its opening quote. -/
def readBasic? : Text → Option (Text × Text)
  | [] => none
  | '"' :: rest => some ([], rest)
  | '\\' :: 'u' :: a :: b :: c :: d :: rest =>
    consRead (Text.hexChar? [a, b, c, d]) (readBasic? rest)
  | '\\' :: 'U' :: a :: b :: c :: d :: e :: f :: g :: h :: rest =>
    consRead (Text.hexChar? [a, b, c, d, e, f, g, h]) (readBasic? rest)
  | '\\' :: 'x' :: a :: b :: rest => consRead (Text.hexChar? [a, b]) (readBasic? rest)
  | '\\' :: c :: rest => consRead (escapeValue? c) (readBasic? rest)
  | c :: rest => if isPlain c ∧ c ≠ '\\' then consRead (some c) (readBasic? rest) else none

/-- Reads the rest of a literal string on one line after its opening quote. -/
def readLiteral? (t : Text) : Option (Text × Text) :=
  match t.dropWhile fun c => isPlain c && c != '\'' with
  | '\'' :: rest => some (t.takeWhile fun c => isPlain c && c != '\'', rest)
  | _ => none

/-- Whether a backslash before this text ends a line: only blanks follow on the line. -/
def endsLine (t : Text) : Bool := (lineEnd? (skipBlanks t)).isSome

/-- Reads the rest of a string of several lines after its opening quotes. While `skipping`,
blanks and line ends are left out. Up to two quotes may stand before the closing ones. -/
def readMultiline? (skipping : Bool) : Text → Option (Text × Text)
  | [] => none
  | '"' :: '"' :: '"' :: '"' :: '"' :: rest => some (['"', '"'], rest)
  | '"' :: '"' :: '"' :: '"' :: rest => some (['"'], rest)
  | '"' :: '"' :: '"' :: rest => some ([], rest)
  | '\\' :: 'u' :: a :: b :: c :: d :: rest =>
    consRead (Text.hexChar? [a, b, c, d]) (readMultiline? false rest)
  | '\\' :: 'U' :: a :: b :: c :: d :: e :: f :: g :: h :: rest =>
    consRead (Text.hexChar? [a, b, c, d, e, f, g, h]) (readMultiline? false rest)
  | '\\' :: 'x' :: a :: b :: rest => consRead (Text.hexChar? [a, b]) (readMultiline? false rest)
  | '\\' :: c :: rest =>
    if endsLine (c :: rest) then readMultiline? true rest
    else consRead (escapeValue? c) (readMultiline? false rest)
  | '\r' :: '\n' :: rest =>
    if skipping then readMultiline? true rest
    else consRead (some '\r') (consRead (some '\n') (readMultiline? false rest))
  | c :: rest =>
    if skipping ∧ (isBlank c ∨ c = '\n') then readMultiline? true rest
    else if (isPlain c ∧ c ≠ '\\') ∨ c = '\n' then consRead (some c) (readMultiline? false rest)
    else none

/-- Reads the rest of a literal string of several lines after its opening quotes. -/
def readMultilineLiteral? : Text → Option (Text × Text)
  | [] => none
  | '\'' :: '\'' :: '\'' :: '\'' :: '\'' :: rest => some (['\'', '\''], rest)
  | '\'' :: '\'' :: '\'' :: '\'' :: rest => some (['\''], rest)
  | '\'' :: '\'' :: '\'' :: rest => some ([], rest)
  | '\r' :: '\n' :: rest =>
    consRead (some '\r') (consRead (some '\n') (readMultilineLiteral? rest))
  | c :: rest =>
    if isPlain c ∨ c = '\n' then consRead (some c) (readMultilineLiteral? rest) else none

/-- The text without a line end at its start: strings of several lines begin after it. -/
def dropLineEnd (t : Text) : Text := (lineEnd? t).getD t

/-! ### Keys -/

/-- Whether a character may stand in a key without quotes. -/
def isBare (c : Char) : Bool := c.isAlphanum || c == '_' || c == '-'

/-- Reads one part of a key. -/
def readSimpleKey? (t : Text) : Option (Text × Text) :=
  match t with
  | '"' :: rest => readBasic? rest
  | '\'' :: rest => readLiteral? rest
  | _ =>
    match t.takeWhile isBare with
    | [] => none
    | key => some (key, t.dropWhile isBare)

/-- Reads a key of at most so many parts, with dots between them. -/
def readParts? (limit : Nat) (t : Text) : Option (List Text × Text) :=
  match limit with
  | 0 => none
  | limit + 1 => do
    let (first, rest) ← readSimpleKey? (skipBlanks t)
    match skipBlanks rest with
    | '.' :: more =>
      let (others, rest) ← readParts? limit more
      return (first :: others, rest)
    | rest => return ([first], rest)

/-- The greatest depth to which a value nests and to which a key leads. -/
def maxDepth : Nat := 80

/-- Reads a key. -/
def readKey? (t : Text) : Option (List Text × Text) := readParts? maxDepth t

/-! ### Numbers -/

/-- The digits of a number without the underscores, each of which has to stand between two
digits. -/
def plainDigits? (isDigit : Char → Bool) (t : Text) : Option Text :=
  let pieces := Text.splitOn '_' t
  if pieces.all fun piece => piece ≠ [] && piece.all isDigit then some pieces.flatten else none

/-- Reads an integer with a prefix for its base, after the prefix. -/
def readBased? (base : Nat) (t : Text) : Option Toml := do
  let digits ← plainDigits? (Text.isDigitOf base) t
  return .integer (← Text.basedNat? base digits)

/-- The digits of the whole part of a number: zero, or digits that begin with another one. -/
def wholeDigits? (t : Text) : Option Text := do
  let digits ← plainDigits? Char.isDigit t
  if digits.head? = some '0' ∧ 1 < digits.length then none else some digits

/-- Splits a text at the first character of a class: what stands before it, and what follows
it if there is one. -/
def splitAtFirst (p : Char → Bool) (t : Text) : Text × Option Text :=
  match t.dropWhile fun c => !p c with
  | [] => (t, none)
  | _ :: rest => (t.takeWhile fun c => !p c, some rest)

/-- The value of an exponent part. -/
def exponent? (t : Text) : Option Int := do
  let (negative, t) := match t with
    | '-' :: rest => (true, rest)
    | '+' :: rest => (false, rest)
    | _ => (false, t)
  let digits ← plainDigits? Char.isDigit t
  let n : Int := Text.decimalNat digits
  return if negative then -n else n

/-- Reads a number without its sign. -/
def readUnsigned? (negative : Bool) (t : Text) : Option Toml := do
  let (mantissa, exponentText) := splitAtFirst (fun c => c == 'e' || c == 'E') t
  let (wholeText, fractionText) := splitAtFirst (· == '.') mantissa
  let whole ← wholeDigits? wholeText
  match fractionText, exponentText with
  | none, none =>
    let n : Int := Text.decimalNat whole
    return .integer (if negative then -n else n)
  | _, _ =>
    let fraction ← match fractionText with
      | some text => plainDigits? Char.isDigit text
      | none => some []
    let exponent ← match exponentText with
      | some text => exponent? text
      | none => some 0
    let x := Double.nearest (Text.decimalNat (whole ++ fraction)) (exponent - fraction.length)
    return if x.isInfinite then .excessive else .float (if negative then x.neg else x)

/-- The infinite double. -/
def infinity : Double := ⟨0x7ff0000000000000⟩

/-- The double that is no number. -/
def notANumber : Double := ⟨0x7ff8000000000000⟩

/-- Reads a number with a sign or without. -/
def readNumber? (t : Text) : Option Toml :=
  let (signed, negative, digits) := match t with
    | '-' :: rest => (true, true, rest)
    | '+' :: rest => (true, false, rest)
    | _ => (false, false, t)
  if digits = "inf".toList then some (.float (if negative then infinity.neg else infinity))
  else if digits = "nan".toList then some (.float notANumber)
  else
    match signed, digits with
    | false, '0' :: 'x' :: rest => readBased? 16 rest
    | false, '0' :: 'o' :: rest => readBased? 8 rest
    | false, '0' :: 'b' :: rest => readBased? 2 rest
    | _, _ => readUnsigned? negative digits

/-! ### Dates and times -/

/-- The number that exactly these digits write. -/
def exactDigits? (digits : Text) : Option Nat :=
  if digits.all Char.isDigit then some (Text.decimalNat digits) else none

/-- Reads a date. -/
def readDate? : Text → Option (TomlDate × Text)
  | a :: b :: c :: d :: '-' :: e :: f :: '-' :: g :: h :: rest => do
    let year ← exactDigits? [a, b, c, d]
    let month ← exactDigits? [e, f]
    let day ← exactDigits? [g, h]
    if Calendar.isDate year month day then some (⟨year, month, day⟩, rest) else none
  | _ => none

/-- Reads the fraction of a second, in nanoseconds, which may be missing; further digits are
left out. -/
def readFraction? : Text → Option (Option Nat × Text)
  | '.' :: rest =>
    match rest.takeWhile Char.isDigit with
    | [] => none
    | digits =>
      let nine := (digits ++ List.replicate 9 '0').take 9
      some (some (Text.decimalNat nine), rest.dropWhile Char.isDigit)
  | rest => some (none, rest)

/-- Reads the seconds of a time and their fraction, which may be missing. -/
def readSeconds? : Text → Option ((Option Nat × Option Nat) × Text)
  | ':' :: a :: b :: rest => do
    let second ← exactDigits? [a, b]
    let (nanosecond, rest) ← readFraction? rest
    return ((some second, nanosecond), rest)
  | ':' :: _ => none
  | rest => some ((none, none), rest)

/-- Reads a time of day. -/
def readTime? : Text → Option (TomlTime × Text)
  | a :: b :: ':' :: c :: d :: rest => do
    let hour ← exactDigits? [a, b]
    let minute ← exactDigits? [c, d]
    let ((second, nanosecond), rest) ← readSeconds? rest
    if hour < 24 ∧ minute < 60 ∧ second.getD 0 ≤ 60 then
      some (⟨hour, minute, second, nanosecond⟩, rest)
    else none
  | _ => none

/-- Reads an offset, which may be missing. -/
def readOffset? : Text → Option (Option TomlOffset × Text)
  | 'Z' :: rest | 'z' :: rest => some (some .zulu, rest)
  | sign :: a :: b :: ':' :: c :: d :: rest => do
    if sign ≠ '+' ∧ sign ≠ '-' then none
    let hours ← exactDigits? [a, b]
    let minutes ← exactDigits? [c, d]
    let ahead : Int := 60 * hours + minutes
    if hours < 24 ∧ minutes < 60 then
      some (some (.minutes (if sign = '-' then -ahead else ahead)), rest)
    else none
  | rest => some (none, rest)

/-- Reads a text as a date, a time or both. -/
def readDatetime? (t : Text) : Option Toml :=
  match readDate? t with
  | some (date, []) => some (.datetime (.date date))
  | some (date, separator :: rest) => do
    if separator ≠ 'T' ∧ separator ≠ 't' ∧ separator ≠ ' ' then none
    let (time, rest) ← readTime? rest
    let (offset, rest) ← readOffset? rest
    if rest = [] then some (.datetime (.both date time offset)) else none
  | none =>
    match readTime? t with
    | some (time, []) => some (.datetime (.time time))
    | _ => none

/-! ### Values without quotes -/

/-- Whether a character may stand in a value without quotes. -/
def isScalarChar (c : Char) : Bool :=
  c.isAlphanum || c == '_' || c == '-' || c == '+' || c == '.' || c == ':'

/-- The run of characters of a value without quotes, and what follows it. One space may stand
between a date and a time. -/
def scalarRun (t : Text) : Text × Text :=
  let run := t.takeWhile isScalarChar
  let rest := t.dropWhile isScalarChar
  match readDate? run, rest with
  | some (_, []), ' ' :: a :: more =>
    if a.isDigit then
      (run ++ ' ' :: (a :: more).takeWhile isScalarChar, (a :: more).dropWhile isScalarChar)
    else (run, rest)
  | _, _ => (run, rest)

/-- Reads a truth value, a number, a date or a time. -/
def readScalar? (t : Text) : Option (Toml × Text) :=
  let (run, rest) := scalarRun t
  let value :=
    if run = "true".toList then some (.boolean true)
    else if run = "false".toList then some (.boolean false)
    else
      match readNumber? run with
      | some value => some value
      | none => readDatetime? run
  value.map fun value => (value, rest)

end BoundReport.Toml
