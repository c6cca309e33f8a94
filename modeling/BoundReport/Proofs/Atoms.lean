import BoundReport.Proofs.Lexing
import BoundReport.Template.Substitution

/-!
# Reading a Text from the Left

Tags are found on the lexemes of a text, whose braces are paired from the left and then
realigned. This module shows that none of this can be seen from outside: a tag is found
exactly where its written form stands, whatever is before and behind it.

A text is read as **atoms**: a tag, or a character that belongs to no tag.

## Main results

* `atoms_tag_append`: a written tag in front of a text is read as this tag.
* `atoms_cons`: a character at which no written tag begins is read as itself.
* `atoms_three_braces`: in a run of opening braces the last two belong to the tag.
* `reads_iff`: the atoms of a text are its only reading from the left.
-/

namespace BoundReport

/-- A part of a text that is read: a tag, or a character outside of all tags. -/
inductive Atom
  | char (c : Char)
  | tag (tag : Tag)
  deriving DecidableEq, Repr

namespace Atom

/-- The tag of an atom, if it is one. -/
def tag? : Atom → Option Tag
  | .char _ => none
  | .tag found => some found

/-- The atoms of a fragment. -/
def ofFragment : Fragment → List Atom
  | .literal text => text.map .char
  | .tag found => [.tag found]

/-- The atoms of lexemes whose braces are aligned. -/
def ofLexemes (lexemes : List Lexeme) : List Atom :=
  (Fragment.ofLexemes lexemes).flatMap ofFragment

end Atom

/-- The atoms of a text, from left to right. -/
def atoms (text : Text) : List Atom := Atom.ofLexemes (Fragment.alignBraces (lex text))

/-- The tags of a text are the tags among its atoms. -/
theorem tags_eq_filterMap_atoms (text : Text) : tags text = (atoms text).filterMap Atom.tag? := by
  have hfragment (fragment : Fragment) :
      (Atom.ofFragment fragment).filterMap Atom.tag? = fragment.tag?.toList := by
    cases fragment with
    | literal text =>
      simp [Atom.ofFragment, Atom.tag?, Fragment.tag?, List.filterMap_map, Function.comp_def]
    | tag found => rfl
  rw [atoms, Atom.ofLexemes, List.filterMap_flatMap, tags, fragments]
  simp only [hfragment]
  generalize Fragment.ofLexemes _ = found
  induction found with
  | nil => rfl
  | cons first rest ih =>
    rw [List.filterMap_cons, List.flatMap_cons, ← ih]
    cases first.tag? <;> rfl

/-! ### Written tags -/

/-- A text of one or more spaces. -/
def IsSpaces (text : Text) : Prop := text ≠ [] ∧ ∀ c ∈ text, isSpace c

/-- A text of one or more word characters. -/
def IsWord (text : Text) : Prop := text ≠ [] ∧ ∀ c ∈ text, isWordChar c

instance (text : Text) : Decidable (IsSpaces text) :=
  decidable_of_iff (text ≠ [] ∧ text.all isSpace) (by simp [IsSpaces])

instance (text : Text) : Decidable (IsWord text) :=
  decidable_of_iff (text ≠ [] ∧ text.all isWordChar) (by simp [IsWord])

/-- A tag is **written** if its text is two braces, spaces, the dataset, a dot, the field, spaces
and two braces. -/
def Tag.Written (tag : Tag) : Prop :=
  IsWord tag.dataSet ∧ IsWord tag.field ∧ ∃ before after, IsSpaces before ∧ IsSpaces after ∧
    tag.raw = '{' :: '{' :: (before ++ tag.dataSet ++ '.' :: (tag.field ++ after ++ ['}', '}']))

/-- A text of spaces is one lexeme. -/
theorem IsSpaces.lex_eq {text : Text} (h : IsSpaces text) : lex text = [⟨.space, text⟩] :=
  lex_run rfl h.1 fun c hc => Token.ofChar_eq_space_iff.2 (h.2 c hc)

/-- A word is one lexeme. -/
theorem IsWord.lex_eq {text : Text} (h : IsWord text) : lex text = [⟨.word, text⟩] :=
  lex_run rfl h.1 fun c hc => Token.ofChar_eq_word_iff.2 (h.2 c hc)

/-- Spaces before a text that begins with no space are a lexeme of their own. -/
theorem IsSpaces.lex_append {s t : Text} (h : IsSpaces s) (ht : ∀ d ∈ t.head?, isSpace d = false) :
    lex (s ++ t) = ⟨.space, s⟩ :: lex t := by
  rw [BoundReport.lex_append fun c hc d hd => ?_, h.lex_eq]
  · rfl
  · have hspace : Token.ofChar c = .space :=
      Token.ofChar_eq_space_iff.2 (h.2 c (List.mem_of_getLast? hc))
    refine .of_isRun_left (hspace ▸ rfl) fun heq => ?_
    rw [hspace, eq_comm, Token.ofChar_eq_space_iff, ht d hd] at heq
    exact absurd heq (by decide)

/-- A word before a text that begins with no word character is a lexeme of its own. -/
theorem IsWord.lex_append {s t : Text} (h : IsWord s)
    (ht : ∀ d ∈ t.head?, isWordChar d = false) : lex (s ++ t) = ⟨.word, s⟩ :: lex t := by
  rw [BoundReport.lex_append fun c hc d hd => ?_, h.lex_eq]
  · rfl
  · have hword : Token.ofChar c = .word :=
      Token.ofChar_eq_word_iff.2 (h.2 c (List.mem_of_getLast? hc))
    refine .of_isRun_left (hword ▸ rfl) fun heq => ?_
    rw [hword, eq_comm, Token.ofChar_eq_word_iff, ht d hd] at heq
    exact absurd heq (by decide)

/-- A dot before a word is a lexeme of its own. -/
theorem IsWord.lex_dot {s t : Text} (h : IsWord s) :
    lex ('.' :: (s ++ t)) = ⟨.dot, ['.']⟩ :: lex (s ++ t) := by
  obtain ⟨hne, hword⟩ := h
  cases s with
  | nil => exact absurd rfl hne
  | cons c s =>
    have hc : Token.ofChar c = .word := Token.ofChar_eq_word_iff.2 (hword c List.mem_cons_self)
    exact lex_cons_of_parts (.of_isRun_right (hc ▸ rfl) (hc ▸ by decide))

/-- A word begins with a character that is no space. -/
theorem IsWord.head_append {s t : Text} (h : IsWord s) :
    ∀ d ∈ (s ++ t).head?, isSpace d = false := by
  obtain ⟨hne, hword⟩ := h
  cases s with
  | nil => exact absurd rfl hne
  | cons c s =>
    intro d hd
    obtain rfl : c = d := by simpa using hd
    exact isSpace_eq_false_of_isWordChar (hword c List.mem_cons_self)

/-- Spaces begin with a character that is no word character. -/
theorem IsSpaces.head_append {s t : Text} (h : IsSpaces s) :
    ∀ d ∈ (s ++ t).head?, isWordChar d = false := by
  obtain ⟨hne, hspace⟩ := h
  cases s with
  | nil => exact absurd rfl hne
  | cons c s =>
    intro d hd
    obtain rfl : c = d := by simpa using hd
    rw [Bool.eq_false_iff]
    intro hword
    have := isSpace_eq_false_of_isWordChar hword
    rw [hspace c List.mem_cons_self] at this
    exact absurd this (by decide)

/-- The lexemes of a text that begins with a written tag. -/
theorem Tag.Written.exists_lex_append {tag : Tag} (h : tag.Written) (rest : Text) :
    ∃ before after, tag.raw = ['{', '{'] ++ before ++ tag.dataSet ++ ['.'] ++ tag.field ++ after ++
        ['}', '}'] ∧
      lex (tag.raw ++ rest) = ⟨.expressionOpen, ['{', '{']⟩ :: ⟨.space, before⟩ ::
        ⟨.word, tag.dataSet⟩ :: ⟨.dot, ['.']⟩ :: ⟨.word, tag.field⟩ :: ⟨.space, after⟩ ::
        ⟨.expressionClose, ['}', '}']⟩ :: lex rest := by
  obtain ⟨hdata, hfield, before, after, hbefore, hafter, hraw⟩ := h
  refine ⟨before, after, by simp [hraw], ?_⟩
  have htext : tag.raw ++ rest = '{' :: '{' :: (before ++ (tag.dataSet ++
      '.' :: (tag.field ++ (after ++ '}' :: '}' :: rest)))) := by simp [hraw]
  rw [htext, lex_of_marker rfl, hbefore.lex_append hdata.head_append,
    hdata.lex_append (by simp; decide), hfield.lex_dot, hfield.lex_append hafter.head_append,
    hafter.lex_append (by simp; decide), lex_of_marker rfl]

/-! ### Lexemes that are read literally -/

/-- Two opening braces as a lexeme. -/
def openBraces : Lexeme := ⟨.expressionOpen, ['{', '{']⟩

/-- An opening brace that is no part of a marker, as a lexeme. -/
def strayBrace : Lexeme := ⟨.stray, ['{']⟩

namespace Fragment

/-- Only opening braces are realigned. -/
theorem alignBraces_cons {first : Lexeme} (h : first.token ≠ .expressionOpen)
    (rest : List Lexeme) : alignBraces (first :: rest) = first :: alignBraces rest := by
  rw [alignBraces]
  split
  · rename_i heq _
    exact absurd heq h
  · rfl

/-- Opening braces in front of a stray brace change places with it. -/
theorem alignBraces_open_of_stray {rest more : List Lexeme}
    (h : alignBraces rest = strayBrace :: more) :
    alignBraces (openBraces :: rest) = strayBrace :: openBraces :: more := by
  rw [alignBraces, h]
  rfl

/-- Opening braces in front of anything else stay. -/
theorem alignBraces_open_of_ne {rest : List Lexeme}
    (h : ∀ more, alignBraces rest ≠ strayBrace :: more) :
    alignBraces (openBraces :: rest) = openBraces :: alignBraces rest := by
  rw [alignBraces]
  split
  · rename_i heq
    exact absurd heq (h _)
  · rfl

/-- A lexeme that is not stray begins the aligned lexemes only if it begins the lexemes. -/
theorem exists_of_alignBraces_eq_cons {lexemes more : List Lexeme} {token : Token} {text : Text}
    (h : alignBraces lexemes = ⟨token, text⟩ :: more) (hstray : token ≠ .stray) :
    ∃ rest, lexemes = ⟨token, text⟩ :: rest ∧ alignBraces rest = more := by
  cases lexemes with
  | nil => simp [alignBraces] at h
  | cons l rest =>
    rw [alignBraces] at h
    split at h
    · obtain ⟨hfirst, -⟩ := List.cons.inj h
      exact absurd (congrArg Lexeme.token hfirst).symm hstray
    · obtain ⟨rfl, rfl⟩ := List.cons.inj h
      exact ⟨rest, rfl, rfl⟩

/-- The text of aligned lexemes is the text that they are cut from. -/
theorem unlex_alignBraces_lex (text : Text) : Lexeme.unlex (alignBraces (lex text)) = text := by
  rw [unlex_alignBraces fun _ => text_eq_of_expressionOpen, unlex_lex]

/-- A text that begins with no opening brace has no stray one in front. -/
theorem alignBraces_lex_ne {text : Text} (h : text.head? ≠ some '{') (more : List Lexeme) :
    alignBraces (lex text) ≠ strayBrace :: more := by
  intro heq
  have htext := unlex_alignBraces_lex text
  rw [heq] at htext
  exact h (by rw [← htext]; rfl)

end Fragment

namespace Atom

/-- A lexeme other than opening braces is read character by character. -/
theorem ofLexemes_cons {first : Lexeme} (h : first.token ≠ .expressionOpen)
    (rest : List Lexeme) : ofLexemes (first :: rest) = first.text.map .char ++ ofLexemes rest := by
  rw [ofLexemes, Fragment.ofLexemes.eq_2 _ _ (by rintro _ _ _ _ _ _ _ _ rfl; exact absurd rfl h)]
  rfl

/-- Opening braces that begin no tag are read character by character. -/
theorem ofLexemes_open {rest : List Lexeme}
    (h : ∀ before dataSet dot field after closing more, rest ≠ ⟨.space, before⟩ ::
      ⟨.word, dataSet⟩ :: ⟨.dot, dot⟩ :: ⟨.word, field⟩ :: ⟨.space, after⟩ ::
      ⟨.expressionClose, closing⟩ :: more) :
    ofLexemes (openBraces :: rest) = .char '{' :: .char '{' :: ofLexemes rest := by
  rw [ofLexemes, Fragment.ofLexemes.eq_2 _ _ (by rintro _ _ _ _ _ _ _ _ _; exact h _ _ _ _ _ _ _)]
  rfl

/-- A character in front of lexemes is read as itself, whether or not it joins a run. -/
theorem ofLexemes_alignBraces_push (c : Char) (lexemes : List Lexeme) :
    ofLexemes (Fragment.alignBraces (Lexeme.push c lexemes)) =
      .char c :: ofLexemes (Fragment.alignBraces lexemes) := by
  have hc : Token.ofChar c ≠ .expressionOpen := Token.ofChar_ne_expressionOpen c
  cases lexemes with
  | nil =>
    rw [Lexeme.push, Fragment.alignBraces_cons hc, ofLexemes_cons hc]
    rfl
  | cons first rest =>
    rw [Lexeme.push]
    split
    · rename_i hjoin
      have hfirst : first.token ≠ .expressionOpen := hjoin.2 ▸ hc
      have hlonger : (Lexeme.mk first.token (c :: first.text)).token ≠ .expressionOpen := hfirst
      rw [Fragment.alignBraces_cons hlonger, ofLexemes_cons hlonger,
        Fragment.alignBraces_cons hfirst, ofLexemes_cons hfirst]
      rfl
    · rw [Fragment.alignBraces_cons hc, ofLexemes_cons hc]
      rfl

end Atom

/-! ### Reading character by character -/

/-- A character that is not the first of two opening braces is read as itself. -/
theorem atoms_cons_of_no_braces {c : Char} {rest : Text}
    (h : c = '{' → rest.head? ≠ some '{') : atoms (c :: rest) = .char c :: atoms rest := by
  induction rest generalizing c with
  | nil => exact Atom.ofLexemes_alignBraces_push c []
  | cons d rest ih =>
    cases hm : Token.ofMarker? c d with
    | none =>
      rw [atoms, lex_of_no_marker hm]
      exact Atom.ofLexemes_alignBraces_push c (lex (d :: rest))
    | some token =>
      have hd : d ≠ '{' := by
        rintro rfl
        have hc : c = '{' := by
          by_cases hc : c = '{'
          · exact hc
          · simp [Token.ofMarker?, hc] at hm
        exact h hc rfl
      have htoken : token ≠ .expressionOpen := by
        rintro rfl
        exact hd (Token.eq_of_ofMarker?_expressionOpen hm).2
      -- the marker is read as two characters, and so is the text without its first one
      rw [atoms, lex_of_marker hm, Fragment.alignBraces_cons htoken, Atom.ofLexemes_cons htoken,
        ih fun heq => absurd heq hd]
      rfl

/-- The atoms of lexemes with opening braces in front. -/
def atomsAfterBraces (lexemes : List Lexeme) : List Atom :=
  Atom.ofLexemes (Fragment.alignBraces (openBraces :: lexemes))

theorem atoms_braces (rest : Text) : atoms ('{' :: '{' :: rest) = atomsAfterBraces (lex rest) := by
  rw [atoms, lex_of_marker rfl]
  rfl

/-- Opening braces in front of others are read as themselves. -/
theorem atomsAfterBraces_open (lexemes : List Lexeme) :
    atomsAfterBraces (openBraces :: lexemes) =
      .char '{' :: .char '{' :: atomsAfterBraces lexemes := by
  have hnot (rest : List Lexeme) : Atom.ofLexemes (openBraces :: openBraces :: rest) =
      .char '{' :: .char '{' :: Atom.ofLexemes (openBraces :: rest) :=
    Atom.ofLexemes_open (by simp [openBraces])
  have hstray : strayBrace.token ≠ .expressionOpen := by decide
  rw [atomsAfterBraces, atomsAfterBraces]
  by_cases h : ∃ more, Fragment.alignBraces lexemes = strayBrace :: more
  · obtain ⟨more, heq⟩ := h
    rw [Fragment.alignBraces_open_of_stray (Fragment.alignBraces_open_of_stray heq),
      Fragment.alignBraces_open_of_stray heq, Atom.ofLexemes_cons hstray,
      Atom.ofLexemes_cons hstray, hnot]
    rfl
  · have hne : ∀ more, Fragment.alignBraces lexemes ≠ strayBrace :: more :=
      fun more heq => h ⟨more, heq⟩
    have hne' : ∀ more, Fragment.alignBraces (openBraces :: lexemes) ≠ strayBrace :: more := by
      intro more heq
      rw [Fragment.alignBraces_open_of_ne hne] at heq
      exact absurd (List.cons.inj heq).1 (by decide)
    rw [Fragment.alignBraces_open_of_ne hne', Fragment.alignBraces_open_of_ne hne, hnot]

/-! ### Tags that begin somewhere -/

/-- The text of a space lexeme consists of spaces. -/
theorem Lexeme.Valid.isSpaces {text : Text} (h : Lexeme.Valid ⟨.space, text⟩) : IsSpaces text :=
  have hrun := h.run_text rfl
  ⟨hrun.1, fun c hc => Token.ofChar_eq_space_iff.1 (hrun.2 c hc)⟩

/-- The text of a word lexeme is a word. -/
theorem Lexeme.Valid.isWord {text : Text} (h : Lexeme.Valid ⟨.word, text⟩) : IsWord text :=
  have hrun := h.run_text rfl
  ⟨hrun.1, fun c hc => Token.ofChar_eq_word_iff.1 (hrun.2 c hc)⟩

/-- Lexemes that are read as a tag after opening braces are the rest of a written tag. -/
theorem exists_written_of_alignBraces {text before dataSet dot field after closing : Text}
    {more : List Lexeme}
    (h : Fragment.alignBraces (lex text) = ⟨.space, before⟩ :: ⟨.word, dataSet⟩ ::
      ⟨.dot, dot⟩ :: ⟨.word, field⟩ :: ⟨.space, after⟩ :: ⟨.expressionClose, closing⟩ :: more) :
    ∃ tag rest, Tag.Written tag ∧ '{' :: '{' :: text = tag.raw ++ rest := by
  obtain ⟨r₁, hlex, h₁⟩ := Fragment.exists_of_alignBraces_eq_cons h (by decide)
  obtain ⟨r₂, rfl, h₂⟩ := Fragment.exists_of_alignBraces_eq_cons h₁ (by decide)
  obtain ⟨r₃, rfl, h₃⟩ := Fragment.exists_of_alignBraces_eq_cons h₂ (by decide)
  obtain ⟨r₄, rfl, h₄⟩ := Fragment.exists_of_alignBraces_eq_cons h₃ (by decide)
  obtain ⟨r₅, rfl, h₅⟩ := Fragment.exists_of_alignBraces_eq_cons h₄ (by decide)
  obtain ⟨r₆, rfl, -⟩ := Fragment.exists_of_alignBraces_eq_cons h₅ (by decide)
  have hvalid : ∀ l ∈ lex text, l.Valid := valid_of_mem_lex
  simp only [hlex, List.forall_mem_cons] at hvalid
  obtain ⟨hbefore, hdata, hdot, hfield, hafter, hclosing, -⟩ := hvalid
  have hdot : dot = ['.'] := hdot.text_of_punctuation rfl
  have hclosing : closing = ['}', '}'] := hclosing.text_of_marker rfl
  refine ⟨⟨dataSet, field,
      '{' :: '{' :: (before ++ dataSet ++ '.' :: (field ++ after ++ ['}', '}']))⟩, Lexeme.unlex r₆,
    ⟨hdata.isWord, hfield.isWord, before, after, hbefore.isSpaces, hafter.isSpaces, rfl⟩, ?_⟩
  have htext := unlex_lex text
  rw [hlex] at htext
  rw [← htext, hdot, hclosing]
  simp

/-- **A written tag in front of a text is read as this tag.** -/
theorem atoms_tag_append {tag : Tag} (h : tag.Written) (rest : Text) :
    atoms (tag.raw ++ rest) = .tag tag :: atoms rest := by
  obtain ⟨before, after, hraw, hlex⟩ := h.exists_lex_append rest
  have halign : Fragment.alignBraces (lex (tag.raw ++ rest)) = openBraces :: ⟨.space, before⟩ ::
      ⟨.word, tag.dataSet⟩ :: ⟨.dot, ['.']⟩ :: ⟨.word, tag.field⟩ :: ⟨.space, after⟩ ::
      ⟨.expressionClose, ['}', '}']⟩ :: Fragment.alignBraces (lex rest) := by
    rw [hlex]
    rfl
  rw [atoms, halign, Atom.ofLexemes, openBraces, Fragment.ofLexemes, ← hraw]
  rfl

/-- Behind its two braces a written tag goes on with a space. -/
theorem Tag.Written.exists_raw_eq {tag : Tag} (h : tag.Written) :
    ∃ c rest, isSpace c ∧ tag.raw = '{' :: '{' :: c :: rest := by
  obtain ⟨-, -, before, after, ⟨hne, hspace⟩, -, hraw⟩ := h
  cases before with
  | nil => exact absurd rfl hne
  | cons c before => exact ⟨c, _, hspace c List.mem_cons_self, hraw⟩

/-- Opening braces in front of a text that begins with no brace are read as themselves, unless
they begin a tag. -/
theorem atoms_braces_of_not_written {text : Text} (hhead : text.head? ≠ some '{')
    (h : ∀ tag rest, Tag.Written tag → '{' :: '{' :: text ≠ tag.raw ++ rest) :
    atoms ('{' :: '{' :: text) = .char '{' :: .char '{' :: atoms text := by
  rw [atoms_braces, atomsAfterBraces,
    Fragment.alignBraces_open_of_ne (Fragment.alignBraces_lex_ne hhead), Atom.ofLexemes_open]
  · rfl
  · intro before dataSet dot field after closing more heq
    obtain ⟨tag, rest, hwritten, htext⟩ := exists_written_of_alignBraces heq
    exact h tag rest hwritten htext

/-- **In a run of three braces or more the first one is read as itself**: the braces of a tag are
the last two of a run. -/
theorem atoms_three_braces (text : Text) :
    atoms ('{' :: '{' :: '{' :: text) = .char '{' :: atoms ('{' :: '{' :: text) := by
  rw [atoms_braces, atoms_braces]
  induction text with
  | nil => rfl
  | cons c text ih =>
    by_cases hbrace : c = '{'
    · subst hbrace
      have hlex : lex ('{' :: '{' :: text) = openBraces :: lex text := lex_of_marker rfl text
      rw [hlex, atomsAfterBraces_open, ih]
    · have hhead : (c :: text).head? ≠ some '{' := by simpa using hbrace
      by_cases hpercent : c = '%'
      · subst hpercent
        have hnot : atoms ('{' :: '{' :: '%' :: text) =
            .char '{' :: .char '{' :: atoms ('%' :: text) := by
          refine atoms_braces_of_not_written hhead fun tag rest hwritten heq => ?_
          obtain ⟨d, more, hspace, hraw⟩ := hwritten.exists_raw_eq
          rw [hraw] at heq
          obtain ⟨rfl, -⟩ := List.cons.inj (List.cons.inj (List.cons.inj heq).2).2
          exact absurd hspace (by decide)
        have hopen : (Lexeme.mk .statementOpen ['{', '%']).token ≠ .expressionOpen := by decide
        have halign := Fragment.alignBraces_cons hopen (lex text)
        rw [← atoms_braces ('%' :: text), hnot, atoms_cons_of_no_braces (by simp),
          atomsAfterBraces, lex_of_marker rfl, Fragment.alignBraces_open_of_ne, halign,
          Atom.ofLexemes_open (by simp), Atom.ofLexemes_cons hopen]
        · rfl
        · rw [halign]
          simp [strayBrace]
      · have hlex : lex ('{' :: c :: text) = strayBrace :: lex (c :: text) := by
          refine lex_cons_of_parts ⟨?_, fun hrun => absurd hrun (by decide)⟩
          simp [Token.ofMarker?, hbrace, hpercent]
        have halign : Fragment.alignBraces (strayBrace :: lex (c :: text)) =
            strayBrace :: Fragment.alignBraces (lex (c :: text)) :=
          Fragment.alignBraces_cons (by decide) _
        have hstray : strayBrace.token ≠ .expressionOpen := by decide
        rw [hlex, atomsAfterBraces, Fragment.alignBraces_open_of_stray halign,
          Atom.ofLexemes_cons hstray, atomsAfterBraces,
          Fragment.alignBraces_open_of_ne (Fragment.alignBraces_lex_ne hhead)]
        rfl

/-- **A character at which no written tag begins is read as itself.** -/
theorem atoms_cons {c : Char} {rest : Text}
    (h : ∀ tag after, Tag.Written tag → c :: rest ≠ tag.raw ++ after) :
    atoms (c :: rest) = .char c :: atoms rest := by
  by_cases hbraces : c = '{' ∧ rest.head? = some '{'
  · obtain ⟨rfl, hrest⟩ := hbraces
    obtain ⟨rest, rfl⟩ := List.head?_eq_some_iff.1 hrest
    by_cases hthree : rest.head? = some '{'
    · obtain ⟨rest, rfl⟩ := List.head?_eq_some_iff.1 hthree
      exact atoms_three_braces rest
    · rw [atoms_braces_of_not_written hthree h, atoms_cons_of_no_braces fun _ => hthree]
  · exact atoms_cons_of_no_braces fun hc hrest => hbraces ⟨hc, hrest⟩

/-! ### Readings -/

/-- The **reading** of a text from the left, character by character. Where a written tag begins it
is read as a whole, and where none begins one character is read. -/
inductive Reads : Text → List Atom → Prop
  | nil : Reads [] []
  | tag {tag : Tag} {rest : Text} {found : List Atom} (hwritten : tag.Written)
      (hrest : Reads rest found) : Reads (tag.raw ++ rest) (.tag tag :: found)
  | char {c : Char} {rest : Text} {found : List Atom}
      (hnone : ∀ tag after, Tag.Written tag → c :: rest ≠ tag.raw ++ after)
      (hrest : Reads rest found) : Reads (c :: rest) (.char c :: found)

/-- Every text is read as its atoms. -/
theorem reads_atoms (text : Text) : Reads text (atoms text) := by
  induction hn : text.length using Nat.strongRecOn generalizing text with
  | ind n ih =>
    cases text with
    | nil => exact .nil
    | cons c rest =>
      by_cases hfirst : ∃ tag after, Tag.Written tag ∧ c :: rest = tag.raw ++ after
      · obtain ⟨tag, after, hwritten, htext⟩ := hfirst
        have hlt : after.length < n := by
          obtain ⟨d, more, -, hraw⟩ := hwritten.exists_raw_eq
          rw [← hn, htext, hraw]
          simp
          omega
        rw [htext, atoms_tag_append hwritten]
        exact .tag hwritten (ih after.length hlt after rfl)
      · have hnone : ∀ tag after, Tag.Written tag → c :: rest ≠ tag.raw ++ after :=
          fun tag after hwritten htext => hfirst ⟨tag, after, hwritten, htext⟩
        rw [atoms_cons hnone]
        exact .char hnone (ih rest.length (by simp [← hn]) rest rfl)

/-- **A text has one reading**, and that is its atoms. -/
theorem reads_iff {text : Text} {found : List Atom} : Reads text found ↔ atoms text = found := by
  constructor
  · intro h
    induction h with
    | nil => rfl
    | tag hwritten _ ih => rw [atoms_tag_append hwritten, ih]
    | char hnone _ ih => rw [atoms_cons hnone, ih]
  · rintro rfl
    exact reads_atoms text

end BoundReport
