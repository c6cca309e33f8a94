import BoundReport.Proofs.Atoms
import BoundReport.Proofs.Parameters
import BoundReport.Template.Statement

/-!
# The Form of a Declaration

A line is a declaration if and only if it is spaces, the opening marker, spaces, a keyword, spaces,
a definition, spaces, the closing marker, and spaces. All of it but the definition is the
**envelope**. The definition is any text without space at its ends, so it may hold markers of its
own, and its envelope closes with the last marker of the line.

## Main results

* `not_neighbours_of_isRun`: neighbours among lexemes are not of one run.
* `Envelope.lex_line`: what is in an envelope is cut on its own.
* `declaration?_eq_some_iff`: the lines that are declarations.
-/

namespace BoundReport

/-! ### Spaces in lexemes -/

namespace Lexeme

/-- A lexeme that is no space has no space in it. -/
theorem Valid.isSpace_eq_false {l : Lexeme} (h : l.Valid) (hne : l.token ≠ .space) :
    ∀ c ∈ l.text, isSpace c = false := by
  intro c hc
  rw [Bool.eq_false_iff, ne_eq, ← Token.ofChar_eq_space_iff]
  intro hspace
  cases h with
  | @marker d e token hm =>
    obtain ⟨hd, he⟩ := Token.isRun_ofChar_of_ofMarker? hm
    rcases List.mem_cons.1 hc with rfl | hc
    · rw [hspace] at hd; cases hd
    · obtain rfl := List.mem_singleton.1 hc
      rw [hspace] at he; cases he
  | char d =>
    obtain rfl := List.mem_singleton.1 hc
    exact hne hspace
  | run _ _ hall => exact hne ((hall c hc).symm.trans hspace)

/-- The text of a lexeme is not empty. -/
theorem Valid.text_ne_nil {l : Lexeme} (h : l.Valid) : l.text ≠ [] := by
  cases h with
  | marker => exact List.cons_ne_nil _ _
  | char => exact List.cons_ne_nil _ _
  | run _ hne => exact hne

end Lexeme

/-! ### Spaces between lexemes -/

/-- The lexemes of a text of spaces, if there are any, are spaces. -/
theorem token_eq_space_of_isSpace {text : Text} (h : ∀ c ∈ text, isSpace c) :
    ∀ l ∈ lex text, l.token = .space := by
  intro l hl
  by_cases hne : text = []
  · subst hne
    cases hl
  · have hspaces : IsSpaces text := ⟨hne, h⟩
    rw [hspaces.lex_eq] at hl
    obtain rfl := List.mem_singleton.1 hl
    rfl

/-- Spaces in front of a text that begins with none are cut on their own. -/
theorem lex_append_of_isSpace {s t : Text} (hs : ∀ c ∈ s, isSpace c)
    (ht : ∀ d ∈ t.head?, isSpace d = false) : lex (s ++ t) = lex s ++ lex t := by
  by_cases hne : s = []
  · subst hne
    rfl
  · have hspaces : IsSpaces s := ⟨hne, hs⟩
    rw [hspaces.lex_append ht, hspaces.lex_eq]
    rfl

/-- A field begins with no space, whatever stands behind it. -/
theorem IsField.head_append {s : Text} (h : IsField s) (rest : Text) :
    ∀ d ∈ (s ++ rest).head?, isSpace d = false := by
  rw [List.head?_append_of_ne_nil _ h.ne_nil]
  exact (Text.trim_eq_self_iff.1 h.trim_eq).1

/-- A field and the spaces behind it are cut on their own. -/
theorem IsField.lex_append {s spaces : Text} (h : IsField s) (hspaces : IsSpaces spaces)
    (rest : Text) : lex (s ++ (spaces ++ rest)) = lex s ++ lex (spaces ++ rest) := by
  refine BoundReport.lex_append fun c hc d hd => ?_
  obtain ⟨hne, hspace⟩ := hspaces
  rw [List.head?_append_of_ne_nil _ hne] at hd
  have hd' : Token.ofChar d = .space :=
    Token.ofChar_eq_space_iff.2 (hspace d (List.mem_of_mem_head? hd))
  refine .of_isRun_right (hd' ▸ rfl) fun heq => ?_
  have hc' := Token.ofChar_eq_space_iff.1 (heq.trans hd')
  rw [(Text.trim_eq_self_iff.1 h.trim_eq).2 c hc] at hc'
  exact absurd hc' (by decide)

/-- **Neighbours among lexemes are not of one run.** -/
theorem not_neighbours_of_isRun {text : Text} {before after : List Lexeme} {l next : Lexeme}
    (h : lex text = before ++ l :: next :: after) (hrun : l.token.isRun) :
    next.token ≠ l.token := by
  intro heq
  -- a cut before the two and a cut behind them leave a text with two lexemes that is one run
  have hcut : lex (Lexeme.unlex [l, next]) = [l, next] := by
    have hfrom := (lex_unlex_of_append h).2
    rw [show l :: next :: after = [l, next] ++ after from rfl] at hfrom
    exact (lex_unlex_of_append hfrom).1
  have hvalid : ∀ found ∈ [l, next], found.Valid := hcut ▸ valid_of_mem_lex
  simp only [List.forall_mem_cons] at hvalid
  obtain ⟨hne, hfirst⟩ := hvalid.1.run_text hrun
  obtain ⟨-, hsecond⟩ := hvalid.2.1.run_text (heq ▸ hrun)
  have hone : lex (Lexeme.unlex [l, next]) = [⟨l.token, Lexeme.unlex [l, next]⟩] := by
    refine lex_run hrun (by simp [hne]) fun c hc => ?_
    rw [Lexeme.unlex_cons, Lexeme.unlex_cons, Lexeme.unlex_nil, List.append_nil] at hc
    rcases List.mem_append.1 hc with hc | hc
    · exact hfirst c hc
    · rw [hsecond c hc, heq]
  rw [hcut] at hone
  exact absurd (congrArg List.length hone) (by simp)

namespace Lexeme

/-- Trimming takes the spaces around lexemes away. -/
theorem trim_append {before after : List Lexeme} {first last : Lexeme}
    (hbefore : ∀ l ∈ before, l.token = .space) (hafter : ∀ l ∈ after, l.token = .space)
    (hfirst : first.token ≠ .space) (hlast : last.token ≠ .space) (middle : List Lexeme) :
    trim (before ++ (first :: (middle ++ [last]) ++ after)) = first :: (middle ++ [last]) := by
  have hreverse : (first :: (middle ++ [last]) ++ after).reverse =
      after.reverse ++ (last :: (middle.reverse ++ [first])) := by simp
  rw [trim, trimStart, trimStart, List.dropWhile_append_of_pos (by simpa using hbefore),
    List.cons_append, List.dropWhile_cons_of_neg (by simpa using hfirst), ← List.cons_append,
    hreverse, List.dropWhile_append_of_pos (by simpa using hafter),
    List.dropWhile_cons_of_neg (by simpa using hlast)]
  simp

/-- What trimming takes away: spaces in front and spaces behind. -/
theorem exists_eq_append_trim (lexemes : List Lexeme) :
    ∃ before after, (∀ l ∈ before, l.token = .space) ∧ (∀ l ∈ after, l.token = .space) ∧
      lexemes = before ++ (trim lexemes ++ after) := by
  have hspaces {l : Lexeme} {found : List Lexeme}
      (h : l ∈ found.takeWhile (·.token = .space)) : l.token = .space := by
    simpa using List.mem_takeWhile_imp h
  refine ⟨lexemes.takeWhile (·.token = .space),
    ((trimStart lexemes).reverse.takeWhile (·.token = .space)).reverse,
    fun l hl => hspaces hl, fun l hl => hspaces (List.mem_reverse.1 hl), ?_⟩
  rw [trim, ← List.reverse_append, trimStart, trimStart, List.takeWhile_append_dropWhile,
    List.reverse_reverse, List.takeWhile_append_dropWhile]

/-- The text of lexemes without space at their ends is a field. -/
theorem isField_unlex {lexemes : List Lexeme} (hne : lexemes ≠ [])
    (hvalid : ∀ l ∈ lexemes, l.Valid) (hfirst : ∀ l ∈ lexemes.head?, l.token ≠ .space)
    (hlast : ∀ l ∈ lexemes.getLast?, l.token ≠ .space) : IsField (unlex lexemes) := by
  obtain ⟨first, rest, rfl⟩ := List.exists_cons_of_ne_nil hne
  have hvalidFirst : first.Valid := hvalid first List.mem_cons_self
  refine ⟨?_, Text.trim_eq_self_iff.2 ⟨fun c hc => ?_, fun c hc => ?_⟩⟩
  · rw [unlex_cons]
    exact List.append_ne_nil_of_left_ne_nil hvalidFirst.text_ne_nil _
  · rw [unlex_cons, List.head?_append_of_ne_nil _ hvalidFirst.text_ne_nil] at hc
    exact hvalidFirst.isSpace_eq_false (hfirst first rfl) c (List.mem_of_mem_head? hc)
  · obtain ⟨before, last, heq⟩ := (List.eq_nil_or_concat (first :: rest)).resolve_left hne
    rw [List.concat_eq_append] at heq
    have hvalidLast : last.Valid := hvalid last (by simp [heq])
    have htext : unlex (first :: rest) = unlex before ++ last.text := by
      rw [heq, unlex, List.flatMap_append]
      simp [unlex]
    rw [htext, List.getLast?_append_of_ne_nil _ hvalidLast.text_ne_nil] at hc
    exact hvalidLast.isSpace_eq_false (hlast last (by simp [heq])) c (List.mem_of_getLast? hc)

/-- The text of spaces consists of spaces. -/
theorem isSpace_of_mem_unlex {lexemes : List Lexeme} (hvalid : ∀ l ∈ lexemes, l.Valid)
    (h : ∀ l ∈ lexemes, l.token = .space) : ∀ c ∈ unlex lexemes, isSpace c := by
  intro c hc
  obtain ⟨l, hl, hc⟩ := List.mem_flatMap.1 hc
  obtain ⟨token, text⟩ := l
  obtain rfl : token = .space := h _ hl
  exact (hvalid _ hl).isSpaces.2 c hc

end Lexeme

/-! ### Envelopes -/

/-- The **envelope** of a declaration: the spaces around its markers, its keyword and its
definition. Only those outside of the markers may be missing. -/
structure Envelope where
  lead : Text
  opening : Text
  gap : Text
  closing : Text
  trail : Text
  isSpace_lead : ∀ c ∈ lead, isSpace c
  isSpaces_opening : IsSpaces opening
  isSpaces_gap : IsSpaces gap
  isSpaces_closing : IsSpaces closing
  isSpace_trail : ∀ c ∈ trail, isSpace c

namespace Envelope

variable {keyword definition : Text}

/-- The line with a keyword and a definition in the envelope. -/
def line (envelope : Envelope) (keyword definition : Text) : Text :=
  envelope.lead ++ '{' :: '%' :: (envelope.opening ++ (keyword ++ (envelope.gap ++
    (definition ++ (envelope.closing ++ '%' :: '}' :: envelope.trail)))))

/-- **What is in an envelope is cut on its own.** -/
theorem lex_line (envelope : Envelope) (hkeyword : IsWord keyword) (h : IsField definition) :
    lex (envelope.line keyword definition) = lex envelope.lead ++
      ⟨.statementOpen, ['{', '%']⟩ :: ⟨.space, envelope.opening⟩ :: ⟨.word, keyword⟩ ::
        ⟨.space, envelope.gap⟩ :: (lex definition ++
          ⟨.space, envelope.closing⟩ :: ⟨.statementClose, ['%', '}']⟩ :: lex envelope.trail) := by
  rw [line, lex_append_of_isSpace envelope.isSpace_lead (by simp; decide), lex_of_marker rfl,
    envelope.isSpaces_opening.lex_append hkeyword.head_append,
    hkeyword.lex_append envelope.isSpaces_gap.head_append,
    envelope.isSpaces_gap.lex_append (h.head_append _), h.lex_append envelope.isSpaces_closing,
    envelope.isSpaces_closing.lex_append (by simp; decide), lex_of_marker rfl]

/-- A definition in an envelope is the definition of the line. -/
theorem declaration?_line (envelope : Envelope) (hkeyword : IsWord keyword)
    (h : IsField definition) (other : Text) :
    declaration? other (lex (envelope.line keyword definition)) =
      if keyword = other then some definition else none := by
  obtain ⟨before, last, hlex⟩ : ∃ before last, lex definition = before ++ [last] := by
    rcases List.eq_nil_or_concat (lex definition) with hnil | ⟨before, last, hlex⟩
    · exact absurd hnil (lex_ne_nil h.ne_nil)
    · exact ⟨before, last, by rw [hlex, List.concat_eq_append]⟩
  have hlexemes : lex (envelope.line keyword definition) = lex envelope.lead ++
      (⟨.statementOpen, ['{', '%']⟩ :: ((⟨.space, envelope.opening⟩ :: ⟨.word, keyword⟩ ::
        ⟨.space, envelope.gap⟩ :: (before ++ [last, ⟨.space, envelope.closing⟩])) ++
          [⟨.statementClose, ['%', '}']⟩]) ++ lex envelope.trail) := by
    rw [envelope.lex_line hkeyword h, hlex]
    simp
  have hreverse (space close : Lexeme) : (before ++ [last, space] ++ [close]).reverse =
      close :: space :: last :: before.reverse := by simp
  have hunlex : Lexeme.unlex (last :: before.reverse).reverse = definition := by
    rw [List.reverse_cons, List.reverse_reverse, ← hlex, unlex_lex]
  rw [declaration?, hlexemes, Lexeme.trim_append (token_eq_space_of_isSpace envelope.isSpace_lead)
    (token_eq_space_of_isSpace envelope.isSpace_trail) (by decide) (by decide)]
  simp only [List.cons_append, hreverse, hunlex]

end Envelope

/-- A line with the lexemes of a declaration is a definition in an envelope. -/
theorem exists_envelope_of_lex {line open' opening word gap closing close : Text}
    {before body after : List Lexeme} (hne : body ≠ [])
    (hbefore : ∀ l ∈ before, l.token = .space) (hafter : ∀ l ∈ after, l.token = .space)
    (h : lex line = before ++ ⟨.statementOpen, open'⟩ :: ⟨.space, opening⟩ :: ⟨.word, word⟩ ::
      ⟨.space, gap⟩ :: (body ++ ⟨.space, closing⟩ :: ⟨.statementClose, close⟩ :: after)) :
    IsField (Lexeme.unlex body) ∧
      ∃ envelope : Envelope, line = envelope.line word (Lexeme.unlex body) := by
  have hvalid : ∀ l ∈ lex line, l.Valid := valid_of_mem_lex
  simp only [h, List.forall_mem_append, List.forall_mem_cons] at hvalid
  obtain ⟨hvbefore, hopen, hopening, hword, hgap, hvbody, hclosing, hclose, hvafter⟩ := hvalid
  have hopen : open' = ['{', '%'] := hopen.text_of_marker rfl
  have hclose : close = ['%', '}'] := hclose.text_of_marker rfl
  -- the definition has no space at its ends, for it would be of one run with the space there
  have hfirst : ∀ l ∈ body.head?, l.token ≠ .space := by
    intro l hl
    obtain ⟨rest, rfl⟩ := List.head?_eq_some_iff.1 hl
    have hsplit : lex line = (before ++ [⟨.statementOpen, open'⟩, ⟨.space, opening⟩,
        ⟨.word, word⟩]) ++ ⟨.space, gap⟩ :: l ::
          (rest ++ ⟨.space, closing⟩ :: ⟨.statementClose, close⟩ :: after) := by
      rw [h]
      simp
    exact not_neighbours_of_isRun hsplit rfl
  have hlast : ∀ l ∈ body.getLast?, l.token ≠ .space := by
    intro l hl heq
    obtain ⟨rest, rfl⟩ := List.getLast?_eq_some_iff.1 hl
    have hsplit : lex line = (before ++ [⟨.statementOpen, open'⟩, ⟨.space, opening⟩,
        ⟨.word, word⟩, ⟨.space, gap⟩] ++ rest) ++ l :: ⟨.space, closing⟩ ::
          (⟨.statementClose, close⟩ :: after) := by
      rw [h]
      simp
    exact not_neighbours_of_isRun hsplit (heq ▸ rfl) heq.symm
  refine ⟨Lexeme.isField_unlex hne hvbody hfirst hlast,
    ⟨Lexeme.unlex before, opening, gap, closing, Lexeme.unlex after,
      Lexeme.isSpace_of_mem_unlex hvbefore hbefore, hopening.isSpaces, hgap.isSpaces,
      hclosing.isSpaces, Lexeme.isSpace_of_mem_unlex hvafter hafter⟩, ?_⟩
  have hline := unlex_lex line
  rw [h, hopen, hclose] at hline
  rw [← hline]
  simp [Lexeme.unlex, Envelope.line]

/-- A line that is a declaration is a definition in an envelope. -/
theorem exists_envelope_of_declaration? {keyword line definition : Text}
    (h : declaration? keyword (lex line) = some definition) :
    IsField definition ∧ ∃ envelope : Envelope, line = envelope.line keyword definition := by
  obtain ⟨before, after, hbefore, hafter, hlexemes⟩ := Lexeme.exists_eq_append_trim (lex line)
  rw [declaration?] at h
  split at h
  · rename_i open' opening word gap body hbody
    split at h
    · rename_i hkeyword
      split at h
      · rename_i close closing last reversed hreverse
        cases h
        subst hkeyword
        have hbody' : body = (last :: reversed).reverse ++
            [⟨.space, closing⟩, ⟨.statementClose, close⟩] := by
          rw [← List.reverse_reverse body, hreverse]
          simp
        rw [hbody'] at hbody
        rw [hbody] at hlexemes
        exact exists_envelope_of_lex (by simp) hbefore hafter (by simpa using hlexemes)
      · cases h
    · cases h
  · cases h

/-- **The lines that are declarations** are the definitions in an envelope. -/
theorem declaration?_eq_some_iff {keyword line definition : Text} (hword : IsWord keyword) :
    declaration? keyword (lex line) = some definition ↔
      IsField definition ∧ ∃ envelope : Envelope, line = envelope.line keyword definition := by
  constructor
  · exact exists_envelope_of_declaration?
  · rintro ⟨hfield, envelope, rfl⟩
    rw [envelope.declaration?_line hword hfield, if_pos rfl]

end BoundReport
