import BoundReport.Text

/-!
# Documents

A **document** is the text of a template, at some stage of its way to a report, as lines.
Between finding the loops of a template and filling them in, the place of a loop is held by a
**placeholder** that carries the loop's number. A placeholder is no text: a line of text that
happens to look like a written placeholder stays text.
-/

namespace BoundReport

/-- The number of a loop within one run. It is any natural number: that such a number is kept in
thirty-two bits is left out, as no document has so many loops. -/
structure LoopId where
  index : Nat
  deriving DecidableEq, Repr

/-- The written form of a loop number: `loop0`, `loop1` and so on. -/
def LoopId.toText (id : LoopId) : Text := "loop" ++ Text.ofNat id.index

/-- One line of a document. -/
inductive Line
  | text (text : Text)
  | placeholder (id : LoopId)
  deriving DecidableEq, Repr

namespace Line

/-- The text of a line, if it is one. -/
def text? : Line → Option Text
  | .text content => some content
  | .placeholder _ => none

/-- The loop number of a line, if it is a placeholder. -/
def placeholder? : Line → Option LoopId
  | .text _ => none
  | .placeholder id => some id

/-- The written form of a line. -/
def toText : Line → Text
  | .text content => content
  | .placeholder id => "\x7b% looptag " ++ id.toText ++ " %\x7d"

end Line

/-- A template or report as lines. -/
abbrev Document := List Line

/-- The lines of a text whose lines end in CRLF, LF or CR. A line end at the very end of the
text begins no further line. -/
def splitLines : Text → List Text
  | [] => []
  | '\r' :: '\n' :: rest => [] :: splitLines rest
  | c :: rest =>
    if c = '\r' ∨ c = '\n' then [] :: splitLines rest
    else
      match splitLines rest with
      | [] => [[c]]
      | line :: lines => (c :: line) :: lines

namespace Document

/-- The document whose lines are the lines of a text. -/
def ofText (text : Text) : Document := (splitLines text).map Line.text

/-- The written form of a document: every line with a line feed after it. -/
def toText (document : Document) : Text :=
  document.flatMap fun line => line.toText ++ ['\n']

/-- The loop numbers of the placeholders, in order. -/
def placeholders (document : Document) : List LoopId := document.filterMap Line.placeholder?

end Document

end BoundReport
