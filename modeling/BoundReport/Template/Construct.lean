import BoundReport.Template.Statement
import BoundReport.Template.Substitution

/-!
# The construct on a line

A line is a declaration, the start or the end of a loop, a line with substitution tags, or
plain text.
-/

namespace BoundReport

/-- What a line is. -/
inductive Construct
  | declaration (kind : DeclarationKind) (definition : Text)
  | loopStart (header : LoopHeader)
  | loopEnd
  | substitution (tags : List Tag)
  | plain
  deriving DecidableEq, Repr

/-- Finds out what a line is. No line is two statements, so their order does not matter; tags
count only on a line that is no statement. -/
def classify (line : Text) : Construct :=
  let lexemes := lex line
  match declaration? DeclarationKind.dataSource.keyword lexemes with
  | some definition => .declaration .dataSource definition
  | none =>
    match declaration? DeclarationKind.dataSet.keyword lexemes with
    | some definition => .declaration .dataSet definition
    | none =>
      match loopStart? lexemes with
      | some header => .loopStart header
      | none =>
        if isLoopEnd lexemes then .loopEnd
        else
          match tags line with
          | [] => .plain
          | found => .substitution found

end BoundReport
