import BoundReport.Template.Lexeme

/-!
# Statements

A statement stands alone on its line, with any amount of space around it: the declaration of a
datasource or of a dataset, the start of a loop, or the end of a loop. Its parts are separated
by space, so `{%for x in y%}` is no statement but plain text.

A declaration ends at the last `%}` of its line. What stands between its keyword and that
marker, without the space around it, is its **definition**, and is read separately
(`BoundReport.Template.Attributes`).
-/

namespace BoundReport

/-- The two kinds of declarations. -/
inductive DeclarationKind
  | dataSource
  | dataSet
  deriving DecidableEq, Repr

/-- The word that introduces a declaration of a kind. -/
def DeclarationKind.keyword : DeclarationKind → Text
  | .dataSource => "datasource"
  | .dataSet => "dataset"

/-- The two names in the start of a loop: rows of `collection` are bound to `element`. -/
structure LoopHeader where
  element : Text
  collection : Text
  deriving DecidableEq, Repr

/-- The definition in a declaration that begins with `keyword`. -/
def declaration? (keyword : Text) (lexemes : List Lexeme) : Option Text :=
  match Lexeme.trim lexemes with
  | ⟨.statementOpen, _⟩ :: ⟨.space, _⟩ :: ⟨.word, word⟩ :: ⟨.space, _⟩ :: body =>
    if word = keyword then
      match body.reverse with
      | ⟨.statementClose, _⟩ :: ⟨.space, _⟩ :: last :: before =>
        some (Lexeme.unlex (last :: before).reverse)
      | _ => none
    else none
  | _ => none

/-- The names in the start of a loop. -/
def loopStart? (lexemes : List Lexeme) : Option LoopHeader :=
  match Lexeme.trim lexemes with
  | [⟨.statementOpen, _⟩, ⟨.space, _⟩, ⟨.word, first⟩, ⟨.space, _⟩, ⟨.word, element⟩,
      ⟨.space, _⟩, ⟨.word, second⟩, ⟨.space, _⟩, ⟨.word, collection⟩, ⟨.space, _⟩,
      ⟨.statementClose, _⟩] =>
    if first = "for".toList ∧ second = "in".toList then some ⟨element, collection⟩ else none
  | _ => none

/-- Whether lexemes are the end of a loop. -/
def isLoopEnd (lexemes : List Lexeme) : Bool :=
  match Lexeme.trim lexemes with
  | [⟨.statementOpen, _⟩, ⟨.space, _⟩, ⟨.word, word⟩, ⟨.space, _⟩, ⟨.statementClose, _⟩] =>
    word == "endfor".toList
  | _ => false

end BoundReport
