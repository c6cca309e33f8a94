import Mathlib.Data.List.Perm.Basic
import BoundReport.Proofs.Acceptance
import BoundReport.Proofs.Attributes
import BoundReport.Template.Construct

/-!
# The Forms of Statements

A statement is a line that **consists of** certain parts: they stand in order, with one or more
spaces between neighbours and any spaces around them. Statements are recognized by their lexemes,
and the lexemes of such a line are those of its parts with spaces in between. So what is recognized
is just what has the form, whatever characters the line is made of. The word behind the opening
marker tells the four forms of statements apart.

## Main results

* `Lexeme.trim_lex`: trimming a text is trimming its lexemes.
* `consistsOf_iff_lexemes`: what a line consists of can be told from its lexemes.
* `loopStart?_eq_some_iff`, `isLoopEnd_iff`, `declaration?_eq_some_iff_consistsOf`: the lines that
  are statements.
* `statements_regular`: a line has one of the four forms at most, so they may be tried in any order.
-/

namespace BoundReport

/-! ### Spaced parts -/

/-- Parts are **spaced** in a text if the text is all of them in order with one or more spaces
between neighbours. -/
inductive Spaced : List Text → Text → Prop
  | one {part : Text} : Spaced [part] part
  | cons {part gap rest : Text} {parts : List Text} (hgap : IsSpaces gap)
      (hrest : Spaced parts rest) : Spaced (part :: parts) (part ++ (gap ++ rest))

/-- A line **consists of** parts if they are spaced in it, and there are only spaces around them. -/
def ConsistsOf (parts : List Text) (line : Text) : Prop :=
  ∃ lead middle trail, (∀ c ∈ lead, isSpace c) ∧ (∀ c ∈ trail, isSpace c) ∧ Spaced parts middle ∧
    line = lead ++ middle ++ trail

theorem spaced_one {part text : Text} : Spaced [part] text ↔ text = part := by
  constructor
  · rintro (_ | ⟨-, ⟨⟩⟩)
    rfl
  · rintro rfl
    exact .one

theorem spaced_cons {part next text : Text} {parts : List Text} :
    Spaced (part :: next :: parts) text ↔
      ∃ gap rest, IsSpaces gap ∧ Spaced (next :: parts) rest ∧ text = part ++ (gap ++ rest) := by
  constructor
  · rintro (_ | ⟨hgap, hrest⟩)
    exact ⟨_, _, hgap, hrest, rfl⟩
  · rintro ⟨gap, rest, hgap, hrest, rfl⟩
    exact .cons hgap hrest

/-- What begins and ends with a field is a field. -/
theorem IsField.append {s t : Text} (hs : IsField s) (middle : Text) (ht : IsField t) :
    IsField (s ++ (middle ++ t)) := by
  refine ⟨List.append_ne_nil_of_left_ne_nil hs.ne_nil _, Text.trim_eq_self_iff.2 ⟨?_, ?_⟩⟩
  · exact hs.head_append _
  · rw [← List.append_assoc, List.getLast?_append_of_ne_nil _ ht.ne_nil]
    exact (Text.trim_eq_self_iff.1 ht.trim_eq).2

/-- Spaced fields are a field. -/
theorem Spaced.isField {parts : List Text} {text : Text} (h : Spaced parts text)
    (hparts : ∀ part ∈ parts, IsField part) : IsField text := by
  induction h with
  | one => exact hparts _ List.mem_cons_self
  | cons _ _ ih =>
    obtain ⟨hpart, hparts⟩ := List.forall_mem_cons.1 hparts
    exact hpart.append _ (ih hparts)

/-- A word is a field. -/
theorem IsWord.isField {text : Text} (h : IsWord text) : IsField text :=
  ⟨h.1, Text.trim_eq_self fun c hc => isSpace_eq_false_of_isWordChar (h.2 c hc)⟩

/-! ### The lexemes of a trimmed text -/

namespace Lexeme

theorem token_ne_of_mem_head?_trimStart {lexemes : List Lexeme} :
    ∀ l ∈ (trimStart lexemes).head?, l.token ≠ .space := by
  intro l hl
  have hnot := List.head?_dropWhile_not (·.token = .space) lexemes
  rw [trimStart] at hl
  rw [Option.mem_def.1 hl] at hnot
  simpa using hnot

/-- Trimmed lexemes begin with no space. -/
theorem token_ne_of_mem_head?_trim {lexemes : List Lexeme} :
    ∀ l ∈ (trim lexemes).head?, l.token ≠ .space := by
  intro l hl
  -- trimming at the end leaves a beginning of what trimming at the start has left
  obtain ⟨tail, htail⟩ : trim lexemes <+: trimStart lexemes := by
    rw [trim, ← List.reverse_suffix, List.reverse_reverse]
    exact List.dropWhile_suffix _
  obtain ⟨rest, hrest⟩ := List.head?_eq_some_iff.1 hl
  have hstart : l ∈ (trimStart lexemes).head? := by
    rw [← htail, hrest]
    rfl
  exact token_ne_of_mem_head?_trimStart l hstart

/-- Trimmed lexemes end with no space. -/
theorem token_ne_of_mem_getLast?_trim {lexemes : List Lexeme} :
    ∀ l ∈ (trim lexemes).getLast?, l.token ≠ .space := by
  rw [trim, List.getLast?_reverse]
  exact token_ne_of_mem_head?_trimStart

/-- **Trimming a text is trimming its lexemes.** -/
theorem trim_lex (text : Text) : trim (lex text) = lex (Text.trim text) := by
  obtain ⟨before, after, hbefore, hafter, hlexemes⟩ := exists_eq_append_trim (lex text)
  have hvalid : ∀ l ∈ lex text, l.Valid := valid_of_mem_lex
  rw [hlexemes, List.forall_mem_append, List.forall_mem_append] at hvalid
  obtain ⟨hvalidBefore, hvalid, hvalidAfter⟩ := hvalid
  have hcut : lex (unlex (trim (lex text))) = trim (lex text) :=
    (lex_unlex_of_append (lex_unlex_of_append hlexemes).2).1
  have htext : text = unlex before ++ (unlex (trim (lex text)) ++ unlex after) := by
    conv_lhs => rw [← unlex_lex text, hlexemes]
    simp [unlex]
  have htrim : Text.trim (unlex (trim (lex text))) = unlex (trim (lex text)) := by
    by_cases hnil : trim (lex text) = []
    · rw [hnil]
      rfl
    · exact (isField_unlex hnil hvalid token_ne_of_mem_head?_trim
        token_ne_of_mem_getLast?_trim).trim_eq
  have hfound : Text.trim text = unlex (trim (lex text)) := by
    refine (congrArg Text.trim htext).trans ?_
    rw [Text.trim_spaces_append (isSpace_of_mem_unlex hvalidBefore hbefore),
      Text.trim_append_spaces (isSpace_of_mem_unlex hvalidAfter hafter), htrim]
  rw [hfound, hcut]

end Lexeme

/-! ### The lexemes of spaced parts -/

/-- The lexemes of parts, with one space between neighbours. -/
inductive SpacedLexemes : List Text → List Lexeme → Prop
  | one {part : Text} : SpacedLexemes [part] (lex part)
  | cons {part gap : Text} {parts : List Text} {rest : List Lexeme}
      (hrest : SpacedLexemes parts rest) :
      SpacedLexemes (part :: parts) (lex part ++ ⟨.space, gap⟩ :: rest)

theorem spacedLexemes_one {part : Text} {lexemes : List Lexeme} :
    SpacedLexemes [part] lexemes ↔ lexemes = lex part := by
  constructor
  · rintro (_ | ⟨⟨⟩⟩)
    rfl
  · rintro rfl
    exact .one

theorem spacedLexemes_cons {part next : Text} {parts : List Text} {lexemes : List Lexeme} :
    SpacedLexemes (part :: next :: parts) lexemes ↔
      ∃ gap rest, SpacedLexemes (next :: parts) rest ∧
        lexemes = lex part ++ ⟨.space, gap⟩ :: rest := by
  constructor
  · rintro (_ | hrest)
    exact ⟨_, _, hrest, rfl⟩
  · rintro ⟨gap, rest, hrest, rfl⟩
    exact .cons hrest

/-- **Fields are spaced in a text** if and only if they are spaced in its lexemes. -/
theorem spaced_iff_lexemes {parts : List Text} (hparts : ∀ part ∈ parts, IsField part)
    {text : Text} : Spaced parts text ↔ SpacedLexemes parts (lex text) := by
  constructor
  · intro h
    induction h with
    | one => exact .one
    | cons hgap hrest ih =>
      obtain ⟨hpart, hparts⟩ := List.forall_mem_cons.1 hparts
      have hhead := (Text.trim_eq_self_iff.1 (hrest.isField hparts).trim_eq).1
      rw [hpart.lex_append hgap, hgap.lex_append hhead]
      exact .cons (ih hparts)
  · intro h
    clear hparts
    generalize hlexemes : lex text = lexemes at h
    induction h generalizing text with
    | @one part =>
      obtain rfl : text = part := by rw [← unlex_lex text, hlexemes, unlex_lex]
      exact .one
    | @cons part gap parts rest _ ih =>
      have hmem : ⟨.space, gap⟩ ∈ lex text := by simp [hlexemes]
      have hcut : lex text = (lex part ++ [⟨.space, gap⟩]) ++ rest := by simp [hlexemes]
      have hgap : IsSpaces gap := (valid_of_mem_lex _ hmem).isSpaces
      have hrest : lex (Lexeme.unlex rest) = rest := (lex_unlex_of_append hcut).2
      obtain rfl : text = part ++ (gap ++ Lexeme.unlex rest) := by
        rw [← unlex_lex text, hlexemes, Lexeme.unlex, List.flatMap_append]
        exact congrArg (· ++ _) (unlex_lex part)
      exact .cons hgap (ih hrest)

/-- **What a line consists of** can be told from its lexemes. -/
theorem consistsOf_iff_lexemes {parts : List Text} (hparts : ∀ part ∈ parts, IsField part)
    {line : Text} : ConsistsOf parts line ↔ SpacedLexemes parts (Lexeme.trim (lex line)) := by
  rw [Lexeme.trim_lex, ← spaced_iff_lexemes hparts]
  constructor
  · rintro ⟨lead, middle, trail, hlead, htrail, hspaced, rfl⟩
    rwa [Text.trim_append_spaces htrail, Text.trim_spaces_append hlead,
      (hspaced.isField hparts).trim_eq]
  · intro h
    obtain ⟨lead, trail, hlead, htrail, hline⟩ := Text.exists_eq_append_trim line
    exact ⟨lead, Text.trim line, trail, hlead, htrail, h, hline⟩

/-! ### The lines that are statements -/

theorem isField_openMarker : IsField "\x7b%" := ⟨by decide, by decide⟩

theorem isField_closeMarker : IsField "%\x7d" := ⟨by decide, by decide⟩

theorem lex_openMarker : lex "\x7b%" = [⟨.statementOpen, ['{', '%']⟩] := rfl

theorem lex_closeMarker : lex "%\x7d" = [⟨.statementClose, ['%', '}']⟩] := rfl

theorem Lexeme.valid_of_mem_trim_lex {line : Text} : ∀ l ∈ trim (lex line), l.Valid := by
  rw [trim_lex]
  exact valid_of_mem_lex

/-- The lines that are declarations consist of the markers, the keyword and a field. -/
theorem declaration?_eq_some_iff_consistsOf {keyword line definition : Text}
    (hword : IsWord keyword) : declaration? keyword (lex line) = some definition ↔
      IsField definition ∧ ConsistsOf ["\x7b%", keyword, definition, "%\x7d"] line := by
  rw [declaration?_eq_some_iff hword]
  refine and_congr_right fun _ => ?_
  constructor
  · rintro ⟨envelope, rfl⟩
    refine ⟨envelope.lead, _, envelope.trail, envelope.isSpace_lead, envelope.isSpace_trail,
      .cons envelope.isSpaces_opening (.cons envelope.isSpaces_gap
        (.cons envelope.isSpaces_closing .one)), ?_⟩
    simp [Envelope.line]
  · rintro ⟨lead, middle, trail, hlead, htrail, hspaced, rfl⟩
    simp only [spaced_cons, spaced_one] at hspaced
    obtain ⟨_, _, hopening, ⟨_, _, hgap, ⟨_, _, hclosing, rfl, rfl⟩, rfl⟩, rfl⟩ := hspaced
    refine ⟨⟨lead, _, _, _, trail, hlead, hopening, hgap, hclosing, htrail⟩, ?_⟩
    simp [Envelope.line]

theorem isWord_for : IsWord "for" := by decide +kernel

theorem isWord_in : IsWord "in" := by decide +kernel

theorem isWord_endfor : IsWord "endfor" := by decide +kernel

/-- The lexemes of a line that consists of the parts of a loop start. -/
theorem consistsOf_loopStart_iff {line : Text} {header : LoopHeader}
    (helement : IsWord header.element) (hcollection : IsWord header.collection) :
    ConsistsOf ["\x7b%", "for", header.element, "in", header.collection, "%\x7d"] line ↔
      ∃ gap₁ gap₂ gap₃ gap₄ gap₅, Lexeme.trim (lex line) =
        [⟨.statementOpen, ['{', '%']⟩, ⟨.space, gap₁⟩, ⟨.word, "for"⟩, ⟨.space, gap₂⟩,
          ⟨.word, header.element⟩, ⟨.space, gap₃⟩, ⟨.word, "in"⟩, ⟨.space, gap₄⟩,
          ⟨.word, header.collection⟩, ⟨.space, gap₅⟩, ⟨.statementClose, ['%', '}']⟩] := by
  have hparts : ∀ part ∈ (["\x7b%", "for", header.element, "in", header.collection, "%\x7d"] :
      List Text), IsField part := by
    simp only [List.forall_mem_cons]
    exact ⟨isField_openMarker, isWord_for.isField, helement.isField, isWord_in.isField,
      hcollection.isField, isField_closeMarker, List.forall_mem_nil _⟩
  simp only [consistsOf_iff_lexemes hparts, spacedLexemes_cons, spacedLexemes_one,
    lex_openMarker, lex_closeMarker, isWord_for.lex_eq, isWord_in.lex_eq, helement.lex_eq,
    hcollection.lex_eq]
  constructor
  · rintro ⟨_, _, ⟨_, _, ⟨_, _, ⟨_, _, ⟨_, _, rfl, rfl⟩, rfl⟩, rfl⟩, rfl⟩, h⟩
    exact ⟨_, _, _, _, _, h⟩
  · rintro ⟨_, _, _, _, _, h⟩
    exact ⟨_, _, ⟨_, _, ⟨_, _, ⟨_, _, ⟨_, _, rfl, rfl⟩, rfl⟩, rfl⟩, rfl⟩, h⟩

/-- **The lines that start a loop.** -/
theorem loopStart?_eq_some_iff {line : Text} {header : LoopHeader} :
    loopStart? (lex line) = some header ↔ IsWord header.element ∧ IsWord header.collection ∧
      ConsistsOf ["\x7b%", "for", header.element, "in", header.collection, "%\x7d"] line := by
  constructor
  · intro h
    rw [loopStart?] at h
    split at h
    · rename_i heq
      split at h
      · rename_i hwords
        obtain rfl := Option.some.inj h
        obtain ⟨rfl, rfl⟩ := hwords
        have hvalid := @Lexeme.valid_of_mem_trim_lex line
        simp only [heq, List.forall_mem_cons] at hvalid
        obtain ⟨hopening, -, -, -, helement, -, -, -, hcollection, -, hclosing, -⟩ := hvalid
        refine ⟨helement.isWord, hcollection.isWord, ?_⟩
        rw [consistsOf_loopStart_iff helement.isWord hcollection.isWord, heq,
          ← hopening.text_of_marker rfl, ← hclosing.text_of_marker rfl]
        exact ⟨_, _, _, _, _, rfl⟩
      · cases h
    · cases h
  · rintro ⟨helement, hcollection, hconsists⟩
    obtain ⟨_, _, _, _, _, hlexemes⟩ :=
      (consistsOf_loopStart_iff helement hcollection).1 hconsists
    rw [loopStart?, hlexemes]
    exact if_pos ⟨rfl, rfl⟩

/-- The lexemes of a line that consists of the parts of a loop end. -/
theorem consistsOf_loopEnd_iff {line : Text} :
    ConsistsOf ["\x7b%", "endfor", "%\x7d"] line ↔
      ∃ gap₁ gap₂, Lexeme.trim (lex line) =
        [⟨.statementOpen, ['{', '%']⟩, ⟨.space, gap₁⟩, ⟨.word, "endfor"⟩, ⟨.space, gap₂⟩,
          ⟨.statementClose, ['%', '}']⟩] := by
  have hparts : ∀ part ∈ (["\x7b%", "endfor", "%\x7d"] : List Text), IsField part := by
    simp only [List.forall_mem_cons]
    exact ⟨isField_openMarker, isWord_endfor.isField, isField_closeMarker, List.forall_mem_nil _⟩
  simp only [consistsOf_iff_lexemes hparts, spacedLexemes_cons, spacedLexemes_one,
    lex_openMarker, lex_closeMarker, isWord_endfor.lex_eq]
  constructor
  · rintro ⟨_, _, ⟨_, _, rfl, rfl⟩, h⟩
    exact ⟨_, _, h⟩
  · rintro ⟨_, _, h⟩
    exact ⟨_, _, ⟨_, _, rfl, rfl⟩, h⟩

/-- **The lines that end a loop.** -/
theorem isLoopEnd_iff {line : Text} :
    isLoopEnd (lex line) ↔ ConsistsOf ["\x7b%", "endfor", "%\x7d"] line := by
  rw [consistsOf_loopEnd_iff]
  constructor
  · intro h
    rw [isLoopEnd] at h
    split at h
    · rename_i heq
      have hvalid := @Lexeme.valid_of_mem_trim_lex line
      simp only [heq, List.forall_mem_cons] at hvalid
      obtain ⟨hopening, -, -, -, hclosing, -⟩ := hvalid
      rw [heq, ← hopening.text_of_marker rfl, ← hclosing.text_of_marker rfl, eq_of_beq h]
      exact ⟨_, _, rfl⟩
    · cases h
  · rintro ⟨_, _, hlexemes⟩
    rw [isLoopEnd, hlexemes]
    exact beq_self_eq_true _

/-! ### The forms of statements -/

/-- The forms that a statement may have. -/
inductive StatementForm
  | declaration (kind : DeclarationKind)
  | loopStart
  | loopEnd
  deriving DecidableEq, Repr

namespace StatementForm

/-- All forms, in the order in which a line is tried. -/
def all : List StatementForm :=
  [.declaration .dataSource, .declaration .dataSet, .loopStart, .loopEnd]

/-- The word that introduces a statement of a form. -/
def keyword : StatementForm → Text
  | .declaration kind => kind.keyword
  | .loopStart => "for"
  | .loopEnd => "endfor"

/-- The statement that a line is, if it has the form. -/
def read? (line : Text) : StatementForm → Option Construct
  | .declaration kind => (declaration? kind.keyword (lex line)).map (.declaration kind)
  | .loopStart => (loopStart? (lex line)).map .loopStart
  | .loopEnd => if isLoopEnd (lex line) then some .loopEnd else none

theorem keyword_injective {one two : StatementForm} (h : one.keyword = two.keyword) :
    one = two := by
  have hall : ∀ one ∈ all, ∀ two ∈ all, one.keyword = two.keyword → one = two := by decide
  have hmem (form : StatementForm) : form ∈ all := by
    rcases form with ⟨_ | _⟩ | _ | _ <;> decide
  exact hall one (hmem one) two (hmem two) h

/-- **The leading word of a line tells its form.** -/
theorem leadingWord?_of_read? {form : StatementForm} {line : Text} {construct : Construct}
    (h : form.read? line = some construct) : leadingWord? (lex line) = some form.keyword := by
  cases form with
  | declaration kind =>
    obtain ⟨definition, hdefinition, -⟩ := Option.map_eq_some_iff.1 h
    exact leadingWord?_of_declaration? hdefinition
  | loopStart =>
    obtain ⟨header, hheader, -⟩ := Option.map_eq_some_iff.1 h
    rw [loopStart?] at hheader
    split at hheader
    · rename_i heq
      split at hheader
      · rename_i hwords
        rw [leadingWord?, heq, hwords.1]
        rfl
      · cases hheader
    · cases hheader
  | loopEnd =>
    rw [read?] at h
    split at h
    · rename_i hend
      rw [isLoopEnd] at hend
      split at hend
      · rename_i heq
        rw [leadingWord?, heq, eq_of_beq hend]
        rfl
      · cases hend
    · cases h

/-- A line has one form at most. -/
theorem eq_of_isSome_read? {one two : StatementForm} {line : Text}
    (h₁ : (one.read? line).isSome) (h₂ : (two.read? line).isSome) : one = two := by
  obtain ⟨construct₁, h₁⟩ := Option.isSome_iff_exists.1 h₁
  obtain ⟨construct₂, h₂⟩ := Option.isSome_iff_exists.1 h₂
  exact keyword_injective
    (Option.some.inj ((leadingWord?_of_read? h₁).symm.trans (leadingWord?_of_read? h₂)))

/-- If one form at most can be read, forms may be tried in any order. -/
theorem findSome?_read?_perm {line : Text} {order order' : List StatementForm}
    (h : order.Perm order') : order.findSome? (read? line) = order'.findSome? (read? line) := by
  induction h with
  | nil => rfl
  | cons form _ ih => rw [List.findSome?_cons, List.findSome?_cons, ih]
  | swap one two _ =>
    simp only [List.findSome?_cons]
    cases hone : one.read? line with
    | none => rfl
    | some construct =>
      cases htwo : two.read? line with
      | none => rfl
      | some construct' =>
        have hone' : (one.read? line).isSome := Option.isSome_of_eq_some hone
        have htwo' : (two.read? line).isSome := Option.isSome_of_eq_some htwo
        obtain rfl : one = two := eq_of_isSome_read? hone' htwo'
        exact htwo.symm.trans hone
  | trans _ _ ih₁ ih₂ => exact ih₁.trans ih₂

end StatementForm

/-- What a line is if the forms of statements are tried in some order, and tags after them. -/
def classifyIn (order : List StatementForm) (line : Text) : Construct :=
  match order.findSome? (StatementForm.read? line) with
  | some construct => construct
  | none =>
    match tags line with
    | [] => .plain
    | found => .substitution found

/-- A line is classified in the order of the list of all forms. -/
theorem classifyIn_all (line : Text) : classifyIn StatementForm.all line = classify line := by
  simp only [classifyIn, StatementForm.all, List.findSome?_cons, StatementForm.read?, classify]
  cases declaration? DeclarationKind.dataSource.keyword (lex line) with
  | some definition => rfl
  | none =>
    cases declaration? DeclarationKind.dataSet.keyword (lex line) with
    | some definition => rfl
    | none =>
      cases loopStart? (lex line) with
      | some header => rfl
      | none => cases isLoopEnd (lex line) <;> rfl

/-- **The lines that are statements are those that consist of the parts of one**, and each part that
is not fixed is read from them: the definition of a declaration is any field, and the two names of a
loop are words. No line has two of the four forms, so a line is classified the same in whatever
order they are tried. -/
theorem statements_regular (line : Text) :
    (∀ kind definition, declaration? (DeclarationKind.keyword kind) (lex line) = some definition ↔
        IsField definition ∧
          ConsistsOf ["\x7b%", kind.keyword, definition, "%\x7d"] line) ∧
      (∀ header, loopStart? (lex line) = some header ↔
        IsWord header.element ∧ IsWord header.collection ∧
          ConsistsOf ["\x7b%", "for", header.element, "in", header.collection, "%\x7d"] line) ∧
      (isLoopEnd (lex line) ↔ ConsistsOf ["\x7b%", "endfor", "%\x7d"] line) ∧
      (∀ one two : StatementForm, (one.read? line).isSome → (two.read? line).isSome → one = two) ∧
      ∀ order, order.Perm StatementForm.all → classifyIn order line = classify line := by
  refine ⟨fun kind definition => declaration?_eq_some_iff_consistsOf kind.isWord_keyword,
    fun header => loopStart?_eq_some_iff, isLoopEnd_iff,
    fun one two => StatementForm.eq_of_isSome_read?, fun order hperm => ?_⟩
  rw [← classifyIn_all, classifyIn, classifyIn, StatementForm.findSome?_read?_perm hperm]

-- a declaration closes with the last marker of its line
example : declaration? "dataset" (lex "\x7b% dataset a %\x7d b\n%\x7d ") = some "a %\x7d b" := by
  decide +kernel

end BoundReport
