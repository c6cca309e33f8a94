import BoundReport.Document
import BoundReport.Template.Construct

/-!
# Loops

A **loop** runs from a line `{% for element in dataset %}` to the next line `{% endfor %}`, or
to the end of the document. Loops do not nest: the start of a loop inside a loop is part of its
body, as is any declaration there. Extracting the loops of a document leaves a placeholder where
each loop was and trims the lines outside of loops. The loops of a document are numbered from
zero in their order.
-/

namespace BoundReport

/-- A loop taken out of a document. -/
structure Loop where
  id : LoopId
  /-- The line that starts the loop, as written. -/
  raw : Text
  /-- The dataset whose rows the loop runs over. -/
  dataSet : Text
  /-- The name of the row in the body. -/
  element : Text
  /-- The lines of the body, trimmed and put together. -/
  body : Text
  deriving DecidableEq, Repr

/-- The loops taken out of a document, in order. -/
structure LoopTable where
  loops : List Loop
  /-- The loop that the document ends in, if it ends in one. -/
  openLoop : Option LoopId
  deriving DecidableEq, Repr

namespace LoopTable

/-- The table without loops. -/
def empty : LoopTable := ⟨[], none⟩

/-- The loop with this number. -/
def get? (table : LoopTable) (id : LoopId) : Option Loop :=
  table.loops.find? fun loop => loop.id = id

/-- The loop that has no end line, if there is one. -/
def unterminated? (table : LoopTable) : Option Loop := table.openLoop.bind table.get?

end LoopTable

/-- A document whose loops have been taken out, and the loops. -/
structure Extraction where
  document : Document
  table : LoopTable
  deriving DecidableEq, Repr

namespace Extraction

/-- The extraction with one more line in front. -/
def emit (line : Line) (extraction : Extraction) : Extraction :=
  { extraction with document := line :: extraction.document }

/-- The extraction with one more loop in front. -/
def record (loop : Loop) (extraction : Extraction) : Extraction :=
  { extraction with
    table := { extraction.table with loops := loop :: extraction.table.loops } }

/-- Takes the loops out of the rest of a document, when `next` is the number of the next loop
and `current` the loop that is being read. Placeholders pass through, even inside a loop. -/
def scan (next : Nat) : Option Loop → Document → Extraction
  | none, [] => ⟨[], .empty⟩
  | some loop, [] => ⟨[], [loop], some loop.id⟩
  | current, .placeholder id :: rest => (scan next current rest).emit (.placeholder id)
  | none, .text line :: rest =>
    match classify line with
    | .loopStart header =>
      (scan (next + 1) (some ⟨⟨next⟩, line, header.collection, header.element, []⟩) rest).emit
        (.placeholder ⟨next⟩)
    | _ => (scan next none rest).emit (.text (Text.trim line))
  | some loop, .text line :: rest =>
    if classify line = .loopEnd then (scan next none rest).record loop
    else scan next (some { loop with body := loop.body ++ Text.trim line }) rest

end Extraction

/-- Takes the loops out of a document. -/
def extractLoops (document : Document) : Extraction := Extraction.scan 0 none document

end BoundReport
