import BoundReport.Template.Lexeme

/-!
# Substitution tags

A **tag** `{{ dataset.field }}` may stand anywhere in a text. Scanning a text cuts it into
**fragments**: tags, and the text between them as written. A text is filled in by replacing
each tag and keeping all else.

A run of opening braces belongs to a tag with its last two braces. The lexemes pair the braces
of a run from the left, so for a run of odd length the last pair is moved one brace to the right
before the scan. Neither this nor the scan loses a character (`raw_fragments`).
-/

namespace BoundReport

/-- One occurrence of `{{ dataset.field }}` with its text as written, braces included. -/
structure Tag where
  dataSet : Text
  field : Text
  raw : Text
  deriving DecidableEq, Repr

/-- A part of a scanned text. -/
inductive Fragment
  | literal (text : Text)
  | tag (tag : Tag)
  deriving DecidableEq, Repr

namespace Fragment

/-- The text of a fragment as written. -/
def raw : Fragment → Text
  | .literal text => text
  | .tag found => found.raw

/-- The tag of a fragment, if it is one. -/
def tag? : Fragment → Option Tag
  | .literal _ => none
  | .tag found => some found

/-- In a run of opening braces of odd length, pairs the last two braces. -/
def alignBraces : List Lexeme → List Lexeme
  | [] => []
  | first :: rest =>
    match first.token, alignBraces rest with
    | .expressionOpen, ⟨.stray, ['{']⟩ :: more => ⟨.stray, ['{']⟩ :: first :: more
    | _, more => first :: more

/-- The fragments of lexemes whose braces are aligned, from left to right. -/
def ofLexemes : List Lexeme → List Fragment
  | ⟨.expressionOpen, opening⟩ :: ⟨.space, before⟩ :: ⟨.word, dataSet⟩ :: ⟨.dot, dot⟩ ::
      ⟨.word, field⟩ :: ⟨.space, after⟩ :: ⟨.expressionClose, closing⟩ :: rest =>
    .tag ⟨dataSet, field, opening ++ before ++ dataSet ++ dot ++ field ++ after ++ closing⟩ ::
      ofLexemes rest
  | lexeme :: rest => .literal lexeme.text :: ofLexemes rest
  | [] => []

theorem unlex_alignBraces {lexemes : List Lexeme}
    (hbraces : ∀ l ∈ lexemes, l.token = .expressionOpen → l.text = ['{', '{']) :
    Lexeme.unlex (alignBraces lexemes) = Lexeme.unlex lexemes := by
  fun_induction alignBraces lexemes with
  | case1 => rfl
  | case2 first rest more heq hopening ih =>
    rw [List.forall_mem_cons] at hbraces
    rw [Lexeme.unlex_cons first, ← ih hbraces.2, heq]
    simp [hbraces.1 hopening]
  | case3 first rest _ ih =>
    rw [Lexeme.unlex_cons, Lexeme.unlex_cons, ih (List.forall_mem_cons.1 hbraces).2]

theorem raw_ofLexemes (lexemes : List Lexeme) :
    (ofLexemes lexemes).flatMap raw = Lexeme.unlex lexemes := by
  fun_induction ofLexemes lexemes with
  | case1 => simp_all [raw]
  | case2 => simp_all [raw]
  | case3 => rfl

end Fragment

/-- The fragments of a text, from left to right. -/
def fragments (text : Text) : List Fragment :=
  Fragment.ofLexemes (Fragment.alignBraces (lex text))

/-- The fragments of a text put together are the text. -/
theorem raw_fragments (text : Text) : (fragments text).flatMap Fragment.raw = text := by
  rw [fragments, Fragment.raw_ofLexemes,
    Fragment.unlex_alignBraces fun _ => text_eq_of_expressionOpen, unlex_lex]

/-- The tags of a text, from left to right. -/
def tags (text : Text) : List Tag := (fragments text).filterMap Fragment.tag?

/-- The tags of a scanned text, each with the offset in UTF-8 bytes at which it begins when
the fragments begin at `start`. -/
def locateTags (start : Nat) : List Fragment → List (Nat × Tag)
  | [] => []
  | .literal text :: rest => locateTags (start + Text.width text) rest
  | .tag found :: rest => (start, found) :: locateTags (start + Text.width found.raw) rest

end BoundReport
