import BoundReport.Text
import BoundReport.Text.WordChar

/-!
# Lexemes of a template

A text is cut into **lexemes**: the four brace markers, the three punctuation characters, runs
of spaces, runs of word characters, and single characters that belong to no other class.
Nothing is dropped: the texts of the lexemes put together are the text again (`unlex_lex`), and
a lexeme stands in the text where the ones before it end.

The cut is made from the end of the text: two characters in front of a text that is already cut
either form a marker, or the first of them joins the run that follows it. This is the cut into
longest lexemes from the left, because only a run can be longer than two characters.
-/

namespace BoundReport

/-- The classes of lexemes. -/
inductive Token
  /-- The marker `{%`. -/
  | statementOpen
  /-- The marker `%}`. -/
  | statementClose
  /-- The marker `{{`. -/
  | expressionOpen
  /-- The marker `}}`. -/
  | expressionClose
  | equals
  | dot
  | quote
  /-- A longest run of spaces. -/
  | space
  /-- A longest run of word characters. -/
  | word
  /-- A character of no other class. -/
  | stray
  deriving DecidableEq, Repr

/-- A piece of a text with its class. -/
structure Lexeme where
  token : Token
  text : Text
  deriving DecidableEq, Repr

namespace Token

/-- The class of the marker that two characters form, if they form one. -/
def ofMarker? (c d : Char) : Option Token :=
  if c = '{' ∧ d = '%' then some .statementOpen
  else if c = '%' ∧ d = '}' then some .statementClose
  else if c = '{' ∧ d = '{' then some .expressionOpen
  else if c = '}' ∧ d = '}' then some .expressionClose
  else none

/-- The class of a character that is no part of a marker. -/
def ofChar (c : Char) : Token :=
  if c = '=' then .equals
  else if c = '.' then .dot
  else if c = '"' then .quote
  else if isSpace c then .space
  else if isWordChar c then .word
  else .stray

/-- Lexemes of these classes grow as long as their characters last. -/
def isRun : Token → Bool
  | .space | .word => true
  | _ => false

end Token

namespace Lexeme

/-- Puts one character in front of lexemes: it lengthens the first one if that is a run of
its class, and is a lexeme of its own otherwise. -/
def push (c : Char) (lexemes : List Lexeme) : List Lexeme :=
  match lexemes with
  | [] => [⟨Token.ofChar c, [c]⟩]
  | first :: rest =>
    if (Token.ofChar c).isRun ∧ first.token = Token.ofChar c then
      ⟨first.token, c :: first.text⟩ :: rest
    else ⟨Token.ofChar c, [c]⟩ :: first :: rest

/-- The text that lexemes are cut from. -/
def unlex (lexemes : List Lexeme) : Text := lexemes.flatMap Lexeme.text

end Lexeme

/-- Cuts a text into lexemes. -/
def lex : Text → List Lexeme
  | [] => []
  | [c] => Lexeme.push c []
  | c :: d :: rest =>
    match Token.ofMarker? c d with
    | some token => ⟨token, [c, d]⟩ :: lex rest
    | none => Lexeme.push c (lex (d :: rest))

/-! ### The text of lexemes -/

namespace Lexeme

@[simp] theorem unlex_nil : unlex [] = [] := rfl

@[simp] theorem unlex_cons (first : Lexeme) (rest : List Lexeme) :
    unlex (first :: rest) = first.text ++ unlex rest := rfl

@[simp] theorem unlex_push (c : Char) (lexemes : List Lexeme) :
    unlex (push c lexemes) = c :: unlex lexemes := by
  cases lexemes with
  | nil => rfl
  | cons first rest =>
    rw [push]
    split <;> simp

end Lexeme

/-- No character of a text is lost or changed. -/
theorem unlex_lex (text : Text) : Lexeme.unlex (lex text) = text := by
  fun_induction lex text with
  | case1 => rfl
  | case2 c => rfl
  | case3 c d rest token _ ih => simp [ih]
  | case4 c d rest _ ih => simp [ih]

theorem Token.ofChar_ne_expressionOpen (c : Char) : Token.ofChar c ≠ .expressionOpen := by
  unfold Token.ofChar
  repeat' split
  all_goals simp

theorem Token.eq_of_ofMarker?_expressionOpen {c d : Char}
    (h : Token.ofMarker? c d = some .expressionOpen) : c = '{' ∧ d = '{' := by
  unfold Token.ofMarker? at h
  repeat' split at h
  all_goals simp_all

/-- The marker that opens a tag is always two braces. -/
theorem text_eq_of_expressionOpen {text : Text} {lexeme : Lexeme} (hmem : lexeme ∈ lex text)
    (hopening : lexeme.token = .expressionOpen) : lexeme.text = ['{', '{'] := by
  have hpush {c : Char} {lexemes : List Lexeme}
      (ih : lexeme ∈ lexemes → lexeme.text = ['{', '{'])
      (hmem : lexeme ∈ Lexeme.push c lexemes) : lexeme.text = ['{', '{'] := by
    cases lexemes with
    | nil =>
      obtain rfl : lexeme = ⟨Token.ofChar c, [c]⟩ := by simpa [Lexeme.push] using hmem
      exact absurd hopening (Token.ofChar_ne_expressionOpen c)
    | cons first rest =>
      rw [Lexeme.push] at hmem
      split at hmem
      case isTrue hrun =>
        rcases List.mem_cons.1 hmem with rfl | hmem
        · exact absurd (hrun.2.symm.trans hopening) (Token.ofChar_ne_expressionOpen c)
        · exact ih (List.mem_cons_of_mem _ hmem)
      case isFalse =>
        rcases List.mem_cons.1 hmem with rfl | hmem
        · exact absurd hopening (Token.ofChar_ne_expressionOpen c)
        · exact ih hmem
  fun_induction lex text with
  | case1 => simp at hmem
  | case2 c => exact hpush (by simp) hmem
  | case3 c d rest token hmarker ih =>
    rcases List.mem_cons.1 hmem with rfl | hmem
    · obtain rfl : token = .expressionOpen := hopening
      obtain ⟨rfl, rfl⟩ := Token.eq_of_ofMarker?_expressionOpen hmarker
      rfl
    · exact ih hmem
  | case4 c d rest _ ih => exact hpush ih hmem

/-! ### Spaces around lexemes -/

namespace Lexeme

/-- Lexemes without the spaces in front of them. -/
def trimStart (lexemes : List Lexeme) : List Lexeme :=
  lexemes.dropWhile (·.token = .space)

/-- Lexemes without the spaces in front of them and after them. -/
def trim (lexemes : List Lexeme) : List Lexeme :=
  (trimStart (trimStart lexemes).reverse).reverse

end Lexeme

end BoundReport
