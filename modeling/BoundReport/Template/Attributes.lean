import BoundReport.Template.Lexeme
import BoundReport.Definition.Error

/-!
# Attributes

The definition in a declaration is a list of attributes `key="value"`. A key is a word; space
may stand anywhere around keys, equals signs and values. A value is what stands between its
quotes, trimmed, and cannot hold a quote.

Of several attributes with one key the first counts. The key `param` is different: its values
form a list of their own, and it is not found as an attribute.
-/

namespace BoundReport

/-- What the next lexemes of an attribute list have to be. -/
inductive AttributeState
  | key
  | equals (key : Text)
  | openQuote (key : Text)
  /-- Inside the value of `key`, of which `value` has been read. -/
  | value (key value : Text)
  deriving DecidableEq, Repr

/-- The attributes of a list of which a part has been read. -/
def attributeItems : AttributeState → List Lexeme →
    Except DefinitionError (List (Text × Text))
  | .key, [] => .ok []
  | .key, l :: rest =>
    if l.token = .space then attributeItems .key rest
    else if l.token = .word then attributeItems (.equals l.text) rest
    else .error (.attributeSyntax (.noName l.text))
  | .equals key, [] => .error (.attributeSyntax (.noEquals key))
  | .equals key, l :: rest =>
    if l.token = .space then attributeItems (.equals key) rest
    else if l.token = .equals then attributeItems (.openQuote key) rest
    else .error (.attributeSyntax (.noEquals key))
  | .openQuote key, [] => .error (.attributeSyntax (.noQuote key))
  | .openQuote key, l :: rest =>
    if l.token = .space then attributeItems (.openQuote key) rest
    else if l.token = .quote then attributeItems (.value key []) rest
    else .error (.attributeSyntax (.noQuote key))
  | .value key _, [] => .error (.attributeSyntax (.unterminated key))
  | .value key value, l :: rest =>
    if l.token = .quote then
      (attributeItems .key rest).map ((key, Text.trim value) :: ·)
    else attributeItems (.value key (value ++ l.text)) rest

/-- A list of attributes in the order of the text, each a key and a trimmed value. -/
structure Attributes where
  items : List (Text × Text)
  deriving DecidableEq, Repr

namespace Attributes

/-- The key whose values form a list. -/
def paramKey : Text := "param"

/-- The attributes that a definition lists. -/
def parse (definition : Text) : Except DefinitionError Attributes :=
  (attributeItems .key (lex definition)).map Attributes.mk

/-- The value of the first attribute with this key. -/
def get? (attributes : Attributes) (key : Text) : Option Text :=
  if key = paramKey then none else attributes.items.lookup key

/-- The value of the first attribute with this key; an empty value counts as none. -/
def require (attributes : Attributes) (key : Text) : Except DefinitionError Text :=
  match attributes.get? key with
  | some (c :: rest) => .ok (c :: rest)
  | _ => .error (.missingAttribute key)

/-- The values of the `param` attributes, in order. -/
def params (attributes : Attributes) : List Text :=
  (attributes.items.filter (·.1 = paramKey)).map (·.2)

end Attributes

end BoundReport
