import BoundReport.Text

/-!
# Reading positions in YAML

The structure of a YAML text depends on the columns at which its parts begin, so a reader keeps
a **cursor**: the text that is left, and where in the whole text it begins. Line ends are made
uniform beforehand; the line and paragraph separators of Unicode end lines too and stay as they
are.
-/

namespace BoundReport.Yaml

/-- Whether a character may stand in a YAML text. -/
def isAllowed (c : Char) : Bool :=
  let n := c.toNat
  n == 0x09 || n == 0x0a || n == 0x0d || (0x20 ≤ n && n ≤ 0x7e) || n == 0x85 ||
    (0xa0 ≤ n && n ≤ 0xfffd) || 0x10000 ≤ n

/-- The text with every CRLF, CR and next-line character replaced by a line feed. -/
def uniformLineEnds : Text → Text
  | [] => []
  | '\r' :: '\n' :: rest => '\n' :: uniformLineEnds rest
  | c :: rest => (if c = '\r' ∨ c = '\x85' then '\n' else c) :: uniformLineEnds rest

/-- Whether a character separates parts of a line. -/
def isBlank (c : Char) : Bool := c == ' ' || c == '\t'

/-- Whether a character ends a line. -/
def isBreak (c : Char) : Bool := c == '\n' || c == '\u2028' || c == '\u2029'

/-- Whether a text is empty or begins with a blank or a line end. -/
def beginsBlank (t : Text) : Bool :=
  match t with
  | [] => true
  | c :: _ => isBlank c || isBreak c

/-- The text that is left to read, and where it begins. -/
structure Cursor where
  rest : Text
  line : Nat
  column : Nat
  /-- The number of bytes read. -/
  index : Nat

namespace Cursor

/-- The cursor at the start of a text. -/
def start (t : Text) : Cursor := ⟨t, 0, 0, 0⟩

/-- The cursor after the next character. -/
def next (cursor : Cursor) : Cursor :=
  match cursor.rest with
  | [] => cursor
  | c :: rest =>
    if isBreak c then ⟨rest, cursor.line + 1, 0, cursor.index + c.utf8Size⟩
    else ⟨rest, cursor.line, cursor.column + 1, cursor.index + c.utf8Size⟩

/-- The cursor after some characters of the same line. -/
def skip (n : Nat) (cursor : Cursor) : Cursor :=
  ⟨cursor.rest.drop n, cursor.line, cursor.column + n,
    cursor.index + Text.width (cursor.rest.take n)⟩

/-- The cursor after the leading characters of a class, which are on one line. -/
def skipWhile (p : Char → Bool) (cursor : Cursor) : Cursor :=
  cursor.skip (cursor.rest.takeWhile p).length

/-- Whether the next character is this one. -/
def isAt (c : Char) (cursor : Cursor) : Bool := cursor.rest.head? == some c

/-- Whether the next character is a blank. -/
def isAtBlank (cursor : Cursor) : Bool := (cursor.rest.head?.map isBlank).getD false

/-- Whether the next character ends a line. -/
def isAtBreak (cursor : Cursor) : Bool := (cursor.rest.head?.map isBreak).getD false

/-- Whether three characters at the start of a line mark the border of a document. -/
def isAtMarker (marker : Text) (cursor : Cursor) : Bool :=
  cursor.column == 0 && marker.isPrefixOf cursor.rest && beginsBlank (cursor.rest.drop 3)

/-- Whether a document begins or ends here. -/
def isAtBorder (cursor : Cursor) : Bool :=
  cursor.isAtMarker "---" || cursor.isAtMarker "..."

end Cursor

end BoundReport.Yaml
