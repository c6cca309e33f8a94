import BoundReport.Yaml.Cursor
import BoundReport.Json
import BoundReport.Text.Digits

/-!
# Scalars of YAML

A scalar is written plainly, between quotes, or as a block of lines. Inside a plain or quoted
scalar the gap between two lines is **folded**: a single line end becomes a space, and of several
line ends the first is dropped.
-/

namespace BoundReport.Yaml

/-! ### Gaps -/

/-- A run of blanks and line ends inside a scalar: the blanks before the first line end, and the
line ends. -/
structure Gap where
  blanks : Text
  breaks : Text

/-- What a gap stands for when text follows it. -/
def Gap.fold (gap : Gap) : Text :=
  match gap.breaks with
  | [] => gap.blanks
  | ['\n'] => [' ']
  | '\n' :: more => more
  | breaks => breaks

/-- Reads a gap of which `gap` has been read. On the lines after the first, a tab may not stand
before the column `indent`. -/
def readGap? (indent : Int) (fuel : Nat) (gap : Gap) (cursor : Cursor) : Option (Gap × Cursor) :=
  match fuel, cursor.rest with
  | fuel + 1, c :: _ =>
    if isBreak c then readGap? indent fuel { gap with breaks := gap.breaks ++ [c] } cursor.next
    else if isBlank c then
      if gap.breaks = [] then
        readGap? indent fuel { gap with blanks := gap.blanks ++ [c] } cursor.next
      else if c = '\t' ∧ (cursor.column : Int) < indent then none
      else readGap? indent fuel gap cursor.next
    else some (gap, cursor)
  | _, _ => some (gap, cursor)

/-! ### Plain scalars -/

/-- Whether a character is one of the brackets and commas of flow collections. -/
def isFlowIndicator (c : Char) : Bool :=
  c == ',' || c == '[' || c == ']' || c == '{' || c == '}'

/-- The longest run of characters of a plain scalar. Inside a flow collection a colon may not
stand right before an indicator. -/
def plainRun? (inFlow : Bool) : Text → Option Text
  | [] => some []
  | c :: rest =>
    if isBlank c ∨ isBreak c then some []
    else if c = ':' ∧ inFlow ∧ (rest.head?.map fun d => isFlowIndicator d || d == '?') = some true
    then none
    else if c = ':' ∧ beginsBlank rest then some []
    else if inFlow ∧ isFlowIndicator c then some []
    else (plainRun? inFlow rest).map (c :: ·)

/-- Reads the rest of a plain scalar, of which `text` has been read and `gap` after it. The
result tells whether the scalar ends with a line end. -/
def readPlain? (inFlow : Bool) (indent : Int) (fuel : Nat) (text : Text) (gap : Gap)
    (cursor : Cursor) : Option (Text × Bool × Cursor) :=
  let done := some (text, !gap.breaks.isEmpty, cursor)
  match fuel with
  | 0 => done
  | fuel + 1 =>
    if cursor.isAtBorder || cursor.isAt '#' then done
    else
      match plainRun? inFlow cursor.rest with
      | none => none
      | some [] => done
      | some run => do
        let text := text ++ gap.fold ++ run
        let (gap, cursor) ←
          readGap? indent (cursor.rest.length + 1) ⟨[], []⟩ (cursor.skip run.length)
        if !inFlow && cursor.column < indent then some (text, !gap.breaks.isEmpty, cursor)
        else readPlain? inFlow indent fuel text gap cursor

/-! ### Quoted scalars -/

/-- The character that a backslash with one letter stands for. -/
def escapeValue? (c : Char) : Option Char :=
  match c with
  | '0' => some '\x00'
  | 'a' => some '\x07'
  | 'b' => some '\x08'
  | 't' | '\t' => some '\t'
  | 'n' => some '\n'
  | 'v' => some '\x0b'
  | 'f' => some '\x0c'
  | 'r' => some '\r'
  | 'e' => some '\x1b'
  | ' ' => some ' '
  | '"' => some '"'
  | '/' => some '/'
  | '\\' => some '\\'
  | 'N' => some '\x85'
  | '_' => some '\xa0'
  | 'L' => some '\u2028'
  | 'P' => some '\u2029'
  | _ => none

/-- The number of hexadecimal digits after a backslash with this letter. -/
def escapeDigits? (c : Char) : Option Nat :=
  match c with
  | 'x' => some 2
  | 'u' => some 4
  | 'U' => some 8
  | _ => none

/-- How a run of characters in a quoted scalar ends: at its quote, at a gap, or at a backslash
before a line end. -/
inductive RunEnd
  | quote
  | gap
  | escapedBreak

/-- Reads a run of characters of a quoted scalar up to a gap or its closing quote. -/
def readRun? (quote : Char) (fuel : Nat) (text : Text) (cursor : Cursor) :
    Option (Text × RunEnd × Cursor) :=
  match fuel, cursor.rest with
  | fuel + 1, c :: rest =>
    if isBlank c ∨ isBreak c then some (text, .gap, cursor)
    else if c = quote then
      if quote = '\'' ∧ rest.head? = some '\'' then
        readRun? quote fuel (text ++ ['\'']) (cursor.skip 2)
      else some (text, .quote, cursor.skip 1)
    else if c = '\\' ∧ quote = '"' then
      match rest with
      | [] => none
      | e :: more =>
        if isBreak e then some (text, .escapedBreak, (cursor.skip 1).next)
        else
          match escapeDigits? e with
          | some n =>
            if more.length < n then none
            else
              match Text.hexChar? (more.take n) with
              | some d => readRun? quote fuel (text ++ [d]) (cursor.skip (n + 2))
              | none => none
          | none =>
            match escapeValue? e with
            | some d => readRun? quote fuel (text ++ [d]) (cursor.skip 2)
            | none => none
    else readRun? quote fuel (text ++ [c]) (cursor.skip 1)
  | _, _ => none

/-- Reads the rest of a quoted scalar, of which `text` has been read. No document may begin or
end inside it. -/
def readQuoted? (quote : Char) (fuel : Nat) (text : Text) (cursor : Cursor) :
    Option (Text × Cursor) :=
  match fuel with
  | 0 => none
  | fuel + 1 =>
    if cursor.isAtBorder then none
    else do
      let (text, runEnd, cursor) ← readRun? quote (cursor.rest.length + 1) text cursor
      match runEnd with
      | .quote => return (text, cursor)
      | .gap =>
        let (gap, cursor) ← readGap? 0 (cursor.rest.length + 1) ⟨[], []⟩ cursor
        readQuoted? quote fuel (text ++ gap.fold) cursor
      | .escapedBreak =>
        let (gap, cursor) ← readGap? 0 (cursor.rest.length + 1) ⟨[], []⟩ cursor
        readQuoted? quote fuel (text ++ gap.breaks) cursor

/-! ### Block scalars -/

/-- What happens to the line ends at the end of a block scalar. -/
inductive Chomping
  | strip
  | clip
  | keep
  deriving DecidableEq

/-- Reads the marks after the indicator of a block scalar: how its end is chomped, and by how
many columns it is indented. -/
def readBlockMarks? (cursor : Cursor) : Option (Chomping × Option Nat × Cursor) :=
  let chomping? : Option Char → Option Chomping
    | some '+' => some .keep
    | some '-' => some .strip
    | _ => none
  let depth? : Option Char → Option Nat
    | some c => if c.isDigit then some (c.toNat - 48) else none
    | none => none
  let valid (depth : Option Nat) (result : Chomping × Option Nat × Cursor) :=
    if depth = some 0 then none else some result
  let first := cursor.rest.head?
  let second := cursor.rest[1]?
  match chomping? first, depth? first with
  | some chomping, _ =>
    match depth? second with
    | some n => valid (some n) (chomping, some n, cursor.skip 2)
    | none => some (chomping, none, cursor.skip 1)
  | none, some n =>
    match chomping? second with
    | some chomping => valid (some n) (chomping, some n, cursor.skip 2)
    | none => valid (some n) (.clip, some n, cursor.skip 1)
  | none, none => some (.clip, none, cursor)

/-- Reads the empty lines before a line of a block scalar, whose indentation is zero as long as
it is not known. The result tells the line ends and the greatest column reached. -/
def readEmptyLines? (indent : Nat) (fuel : Nat) (breaks : Text) (deepest : Nat)
    (cursor : Cursor) : Option (Text × Nat × Cursor) :=
  match fuel with
  | 0 => some (breaks, deepest, cursor)
  | fuel + 1 =>
    let spaces := (cursor.rest.takeWhile (· == ' ')).length
    let cursor := cursor.skip (if indent = 0 then spaces else min spaces (indent - cursor.column))
    let deepest := max deepest cursor.column
    if (indent = 0 ∨ cursor.column < indent) ∧ cursor.isAt '\t' then none
    else
      match cursor.rest with
      | c :: _ =>
        if isBreak c then readEmptyLines? indent fuel (breaks ++ [c]) deepest cursor.next
        else some (breaks, deepest, cursor)
      | [] => some (breaks, deepest, cursor)

/-- The part of a block scalar that has been read: its text, the end of its last line, the empty
lines after that, and whether its last line begins with a blank. -/
structure Block where
  text : Text
  lineEnd : Text
  emptyLines : Text
  beginsBlank : Bool

/-- Reads the lines of a block scalar. A literal one keeps its line ends; in a folded one the
end between two lines that do not begin with a blank is folded. -/
def readBlockLines? (literal : Bool) (indent : Nat) (fuel : Nat) (block : Block)
    (cursor : Cursor) : Option (Block × Cursor) :=
  match fuel with
  | 0 => some (block, cursor)
  | fuel + 1 =>
    if cursor.column ≠ indent ∨ cursor.rest = [] then some (block, cursor)
    else do
      let blank := cursor.isAtBlank
      let lineEnd :=
        if !literal && block.lineEnd == ['\n'] && !block.beginsBlank && !blank then
          (if block.emptyLines = [] then [' '] else [])
        else block.lineEnd
      let line := cursor.rest.takeWhile fun c => !isBreak c
      let cursor := cursor.skip line.length
      let ending := cursor.rest.take 1
      let (emptyLines, _, cursor) ←
        readEmptyLines? indent (cursor.rest.length + 1) [] 0 cursor.next
      readBlockLines? literal indent fuel
        ⟨block.text ++ lineEnd ++ block.emptyLines ++ line, ending, emptyLines, blank⟩ cursor

/-- Reads a block scalar after its indicator; `parent` is the column of the collection around
it, or a negative number. -/
def readBlock? (literal : Bool) (parent : Int) (cursor : Cursor) : Option (Text × Cursor) := do
  let (chomping, depth, cursor) ← readBlockMarks? cursor
  let cursor := cursor.skipWhile isBlank
  let cursor := if cursor.isAt '#' then cursor.skipWhile fun c => !isBreak c else cursor
  if cursor.rest ≠ [] && !cursor.isAtBreak then none
  else
    let base := parent.toNat
    let known := match depth with
      | some n => base + n
      | none => 0
    let (emptyLines, deepest, cursor) ←
      readEmptyLines? known (cursor.rest.length + 1) [] 0 cursor.next
    let indent := if known = 0 then max deepest (max (parent + 1).toNat 1) else known
    let (block, cursor) ←
      readBlockLines? literal indent (cursor.rest.length + 1) ⟨[], [], emptyLines, false⟩ cursor
    let ending := match chomping with
      | .strip => []
      | .clip => block.lineEnd
      | .keep => block.lineEnd ++ block.emptyLines
    return (block.text ++ ending, cursor)

/-! ### The value of a plain scalar -/

/-- Whether a text is a zero followed by further digits, perhaps after a sign. Such a text is
no number. -/
def hasLeadingZero (t : Text) : Bool :=
  let digits := match t with
    | '-' :: rest => rest
    | '+' :: rest => rest
    | _ => t
  1 < digits.length && digits.head? == some '0' && digits.all Char.isDigit

/-- The number that digits of a base write; there has to be one. -/
def number? (base : Nat) (digits : Text) : Option Nat :=
  if digits = [] then none else Text.basedNat? base digits

/-- The magnitude of an integer without its sign: digits, perhaps after the prefix of a base. -/
def magnitude? (t : Text) : Option Nat :=
  match t with
  | '0' :: 'x' :: rest => number? 16 rest
  | '0' :: 'o' :: rest => number? 8 rest
  | '0' :: 'b' :: rest => number? 2 rest
  | _ => number? 10 t

/-- The integer that a text writes. -/
def integer? (t : Text) : Option Int :=
  if hasLeadingZero t then none
  else
    match t with
    | '-' :: rest => (magnitude? rest).map fun n => -(n : Int)
    | '+' :: rest => (magnitude? rest).map fun n => (n : Int)
    | _ => (magnitude? t).map fun n => (n : Int)

/-- The exponent part of a decimal, which may be missing. -/
def exponent? (t : Text) : Option Int :=
  match t with
  | [] => some 0
  | c :: rest =>
    if c = 'e' ∨ c = 'E' then
      let (negative, digits) := match rest with
        | '-' :: more => (true, more)
        | '+' :: more => (false, more)
        | _ => (false, rest)
      (number? 10 digits).map fun n => if negative then -(n : Int) else n
    else none

/-- The finite double that a decimal without its sign is nearest to. -/
def decimal? (t : Text) : Option Double := do
  let whole := t.takeWhile Char.isDigit
  let rest := t.dropWhile Char.isDigit
  let (fraction, rest) := match rest with
    | '.' :: more => (more.takeWhile Char.isDigit, more.dropWhile Char.isDigit)
    | _ => ([], rest)
  if whole = [] ∧ fraction = [] then none
  else
    let exponent ← exponent? rest
    let x := Double.nearest (Text.decimalNat (whole ++ fraction)) (exponent - fraction.length)
    if x.isFinite then some x else none

/-- The number that a text writes, if it is one that is no integer: a decimal, or the name of an
infinity or of no number, which JSON does not have. -/
def double? (t : Text) : Option Json :=
  let names := [".inf", ".Inf", ".INF", "+.inf", "+.Inf", "+.INF", "-.inf", "-.Inf", "-.INF",
    ".nan", ".NaN", ".NAN"].map String.toList
  if t ∈ names then some .null
  else
    match t with
    | '-' :: rest => (decimal? rest).map fun x => .float x.neg
    | '+' :: rest => (decimal? rest).map .float
    | _ => (decimal? t).map .float

/-- The value of a plain scalar. An integer between the range of JSON and 128 bits is refused;
a greater one is a double. -/
def plainValue? (t : Text) : Option Json :=
  if t ∈ ["", "~", "null", "Null", "NULL"].map String.toList then some .null
  else if t ∈ ["true", "True", "TRUE"].map String.toList then some (.bool true)
  else if t ∈ ["false", "False", "FALSE"].map String.toList then some (.bool false)
  else
    let other : Json :=
      if hasLeadingZero t then .string t else (double? t).getD (.string t)
    match integer? t with
    | some n =>
      if -0x8000000000000000 ≤ n ∧ n < 0x10000000000000000 then some (.int n)
      else if -0x80000000000000000000000000000000 ≤ n ∧
          n < 0x100000000000000000000000000000000 then none
      else some other
    | none => some other

end BoundReport.Yaml
