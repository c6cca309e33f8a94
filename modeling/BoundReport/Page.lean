import BoundReport.ReportError

/-!
# Pages

A finished report is an HTML text with a rule for the size of its pages. The rule stands right
after the opening `<head>` tag; without a head, right after a leading `<!DOCTYPE>`; and at the
very start of any other text. Tags are found in any case of their ASCII letters.
-/

namespace BoundReport

/-- The sizes of a page. -/
inductive PageSize
  | letter
  | legal
  | a4
  deriving DecidableEq, Repr

namespace PageSize

/-- All page sizes. -/
def all : List PageSize := [letter, legal, a4]

/-- The name of a page size in settings and messages. -/
def name : PageSize → Text
  | letter => "letter"
  | legal => "legal"
  | a4 => "a4"

/-- The name of a page size in a style rule. -/
def cssName : PageSize → Text
  | letter => "letter"
  | legal => "legal"
  | a4 => "A4"

/-- The page size with exactly this name. -/
def ofName? (value : Text) : Option PageSize := all.find? (·.name = value)

/-- The page size with this name, in any case of its ASCII letters. -/
def parse (value : Text) : Except ReportError PageSize :=
  match ofName? (Text.toAsciiLower value) with
  | some size => .ok size
  | none => .error (.invalidSetting "page_size" value "letter, legal, a4")

end PageSize

namespace Page

/-- The style rule for a page size. -/
def rule (size : PageSize) : Text :=
  "<style>@page \x7b size: " ++ size.cssName ++ "; \x7d</style>"

/-- The characters that end the name of a tag: a closing bracket or a space of HTML. -/
def endsTagName (c : Char) : Bool :=
  c == '>' || c == ' ' || c == '\t' || c == '\n' || c == '\x0c' || c == '\r'

/-- The number of characters up to and including the first closing bracket. -/
def tagLength? (html : Text) : Option Nat := (html.findIdx? (· = '>')).map (· + 1)

/-- Whether a text begins with the opening of a head tag, in small letters. Longer tag names
such as `<header` do not count. -/
def beginsHead (html : Text) : Bool :=
  "<head".toList.isPrefixOf html && ((html.drop 5).head?.map endsTagName).getD false

/-- The number of characters before the first head tag of a text in small letters. -/
def headStart? : Text → Option Nat
  | [] => none
  | c :: rest => if beginsHead (c :: rest) then some 0 else (headStart? rest).map (· + 1)

/-- The number of characters before the place of the rule, if it has a place inside a text.
A head tag or document type that is never closed gives none. -/
def insertionPoint? (html : Text) : Option Nat :=
  let lower := Text.toAsciiLower html
  match headStart? lower with
  | some start => (tagLength? (lower.drop start)).map (start + ·)
  | none =>
    let start := lower.length - (Text.trimStart lower).length
    if "<!doctype".toList.isPrefixOf (lower.drop start) then
      (tagLength? (lower.drop start)).map (start + ·)
    else none

/-- The text of a report with the rule for its page size. -/
def render (html : Text) (size : PageSize) : Text :=
  match insertionPoint? html with
  | some place => html.take place ++ '\n' :: rule size ++ html.drop place
  | none => rule size ++ '\n' :: html

/-- The file extension of a report. -/
def fileExtension : Text := "html"

end Page

end BoundReport
