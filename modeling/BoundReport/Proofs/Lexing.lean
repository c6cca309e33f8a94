import Mathlib.Tactic.SplitIfs
import BoundReport.Template.Lexeme

/-!
# Where Lexemes End

The lexemes of a text are cut from its end, so what follows a place decides nothing about the
lexemes before it unless a lexeme reaches across the place. This module says when none does.

## Main results

* `lex_append`: texts whose neighbouring characters part are cut separately.
* `lex_run`: a run of one class is one lexeme.
* `Lexeme.Valid` and `valid_of_mem_lex`: what the text of a lexeme of each class looks like.
* `lex_unlex_of_append`: a cut between two lexemes cuts neither.
-/

namespace BoundReport

/-! ### Classes of characters -/

/-- No space is a word character. -/
theorem isSpace_eq_false_of_isWordChar {c : Char} (h : isWordChar c) : isSpace c = false := by
  have hall : ∀ n ∈ spaceCodePoints, isWordChar (Char.ofNat n) = false := by decide +kernel
  rw [Bool.eq_false_iff]
  intro hc
  have hmem : c.toNat ∈ spaceCodePoints := List.contains_iff_mem.1 hc
  have := hall c.toNat hmem
  rw [Char.ofNat_toNat, h] at this
  exact absurd this (by decide)

namespace Token

/-- The spaces are the characters of the class of spaces. -/
theorem ofChar_eq_space_iff {c : Char} : ofChar c = .space ↔ isSpace c := by
  constructor
  · intro h
    unfold ofChar at h
    split_ifs at h with _ _ _ hs
    exact hs
  · intro h
    have he : c ≠ '=' := by rintro rfl; exact absurd h (by decide)
    have hd : c ≠ '.' := by rintro rfl; exact absurd h (by decide)
    have hq : c ≠ '"' := by rintro rfl; exact absurd h (by decide)
    rw [ofChar, if_neg he, if_neg hd, if_neg hq, if_pos h]

/-- The word characters are the characters of the class of words. -/
theorem ofChar_eq_word_iff {c : Char} : ofChar c = .word ↔ isWordChar c := by
  constructor
  · intro h
    unfold ofChar at h
    split_ifs at h with _ _ _ _ hw
    exact hw
  · intro h
    have he : c ≠ '=' := by rintro rfl; exact absurd h (by decide)
    have hd : c ≠ '.' := by rintro rfl; exact absurd h (by decide)
    have hq : c ≠ '"' := by rintro rfl; exact absurd h (by decide)
    have hs := isSpace_eq_false_of_isWordChar h
    rw [ofChar, if_neg he, if_neg hd, if_neg hq, hs, if_neg Bool.false_ne_true, if_pos h]

/-- The three characters of markers belong to no run. -/
theorem isRun_ofChar_of_ofMarker? {c d : Char} {token : Token}
    (h : ofMarker? c d = some token) :
    (ofChar c).isRun = false ∧ (ofChar d).isRun = false := by
  unfold ofMarker? at h
  split_ifs at h with h₁ h₂ h₃ h₄
  · obtain ⟨rfl, rfl⟩ := h₁; decide
  · obtain ⟨rfl, rfl⟩ := h₂; decide
  · obtain ⟨rfl, rfl⟩ := h₃; decide
  · obtain ⟨rfl, rfl⟩ := h₄; decide

/-- A marker is no run. -/
theorem isRun_of_ofMarker? {c d : Char} {token : Token} (h : ofMarker? c d = some token) :
    token.isRun = false := by
  unfold ofMarker? at h
  split_ifs at h <;> cases h <;> rfl

theorem ofMarker?_eq_none_of_isRun_left {c d : Char} (h : (ofChar c).isRun) :
    ofMarker? c d = none := by
  cases hm : ofMarker? c d with
  | none => rfl
  | some token => rw [(isRun_ofChar_of_ofMarker? hm).1] at h; exact absurd h (by decide)

theorem ofMarker?_eq_none_of_isRun_right {c d : Char} (h : (ofChar d).isRun) :
    ofMarker? c d = none := by
  cases hm : ofMarker? c d with
  | none => rfl
  | some token => rw [(isRun_ofChar_of_ofMarker? hm).2] at h; exact absurd h (by decide)

/-- The text of a class of markers. -/
def markerText? : Token → Option Text
  | .statementOpen => some ['{', '%']
  | .statementClose => some ['%', '}']
  | .expressionOpen => some ['{', '{']
  | .expressionClose => some ['}', '}']
  | _ => none

theorem markerText?_ofMarker? {c d : Char} {token : Token}
    (h : ofMarker? c d = some token) : token.markerText? = some [c, d] := by
  unfold ofMarker? at h
  split_ifs at h with h₁ h₂ h₃ h₄
  · obtain ⟨rfl, rfl⟩ := h₁; cases h; rfl
  · obtain ⟨rfl, rfl⟩ := h₂; cases h; rfl
  · obtain ⟨rfl, rfl⟩ := h₃; cases h; rfl
  · obtain ⟨rfl, rfl⟩ := h₄; cases h; rfl

/-- A character that is no part of a marker has the class of no marker. -/
theorem markerText?_ofChar (c : Char) : (ofChar c).markerText? = none := by
  unfold ofChar
  split_ifs <;> rfl

end Token

/-! ### The first lexeme -/

theorem lex_of_marker {c d : Char} {token : Token} (h : Token.ofMarker? c d = some token)
    (rest : Text) : lex (c :: d :: rest) = ⟨token, [c, d]⟩ :: lex rest := by
  rw [lex, h]

theorem lex_of_no_marker {c d : Char} (h : Token.ofMarker? c d = none) (rest : Text) :
    lex (c :: d :: rest) = Lexeme.push c (lex (d :: rest)) := by
  rw [lex, h]

/-- A character of a run is no part of a marker, so it is pushed in front of what follows. -/
theorem lex_cons_of_isRun {c : Char} (h : (Token.ofChar c).isRun) (rest : Text) :
    lex (c :: rest) = Lexeme.push c (lex rest) := by
  cases rest with
  | nil => rw [lex, lex]
  | cons d rest => exact lex_of_no_marker (Token.ofMarker?_eq_none_of_isRun_left h) rest

namespace Lexeme

/-- What follows the first lexeme does not matter to a pushed character. -/
theorem push_append {c : Char} {lexemes : List Lexeme} (h : lexemes ≠ []) (more : List Lexeme) :
    push c (lexemes ++ more) = push c lexemes ++ more := by
  cases lexemes with
  | nil => exact absurd rfl h
  | cons first rest =>
    rw [List.cons_append, push, push]
    split <;> rfl

/-- A character stands alone before lexemes that begin with no run of its class. -/
theorem push_of_ne {c : Char} {lexemes : List Lexeme}
    (h : ∀ first ∈ lexemes.head?, (Token.ofChar c).isRun → Token.ofChar c ≠ first.token) :
    push c lexemes = ⟨Token.ofChar c, [c]⟩ :: lexemes := by
  cases lexemes with
  | nil => rfl
  | cons first rest =>
    rw [push, if_neg]
    rintro ⟨hrun, heq⟩
    exact h first rfl hrun heq.symm

end Lexeme

/-- A text that is not empty has lexemes. -/
theorem lex_ne_nil {text : Text} (h : text ≠ []) : lex text ≠ [] := by
  intro hlex
  have := unlex_lex text
  rw [hlex] at this
  exact h this.symm

/-- A run at the beginning of a text has the class of the first character. -/
theorem token_eq_of_isRun {d : Char} {rest : Text} {first : Lexeme} {more : List Lexeme}
    (h : lex (d :: rest) = first :: more) (hrun : first.token.isRun) :
    first.token = Token.ofChar d := by
  have hpush (lexemes : List Lexeme) (h : Lexeme.push d lexemes = first :: more) :
      first.token = Token.ofChar d := by
    cases lexemes with
    | nil =>
      obtain ⟨rfl, -⟩ := List.cons.inj h
      rfl
    | cons f r =>
      rw [Lexeme.push] at h
      split at h
      · rename_i hf
        obtain ⟨rfl, -⟩ := List.cons.inj h
        exact hf.2
      · obtain ⟨rfl, -⟩ := List.cons.inj h
        rfl
  cases rest with
  | nil => exact hpush [] h
  | cons e rest =>
    cases hm : Token.ofMarker? d e with
    | none => exact hpush _ (by rw [← lex_of_no_marker hm, h])
    | some token =>
      rw [lex_of_marker hm] at h
      obtain ⟨rfl, -⟩ := List.cons.inj h
      rw [Token.isRun_of_ofMarker? hm] at hrun
      exact absurd hrun (by decide)

/-! ### Texts side by side -/

/-- Two neighbouring characters **part** if no lexeme holds both: they form no marker and are
not of one run. -/
def Parts (c d : Char) : Prop :=
  Token.ofMarker? c d = none ∧ ((Token.ofChar c).isRun → Token.ofChar c ≠ Token.ofChar d)

instance (c d : Char) : Decidable (Parts c d) :=
  inferInstanceAs (Decidable (_ ∧ _))

/-- A character of a run parts from every character of another class. -/
theorem Parts.of_isRun_left {c d : Char} (hc : (Token.ofChar c).isRun)
    (h : Token.ofChar c ≠ Token.ofChar d) : Parts c d :=
  ⟨Token.ofMarker?_eq_none_of_isRun_left hc, fun _ => h⟩

/-- Every character of another class parts from a character of a run. -/
theorem Parts.of_isRun_right {c d : Char} (hd : (Token.ofChar d).isRun)
    (h : Token.ofChar c ≠ Token.ofChar d) : Parts c d :=
  ⟨Token.ofMarker?_eq_none_of_isRun_right hd, fun _ => h⟩

/-- A character alone before a text from which it parts. -/
theorem lex_cons_of_parts {c d : Char} {rest : Text} (h : Parts c d) :
    lex (c :: d :: rest) = ⟨Token.ofChar c, [c]⟩ :: lex (d :: rest) := by
  rw [lex_of_no_marker h.1, Lexeme.push_of_ne]
  intro first hfirst hrun heq
  obtain ⟨more, hlex⟩ : ∃ more, lex (d :: rest) = first :: more :=
    List.head?_eq_some_iff.1 hfirst
  exact h.2 hrun (heq.trans (token_eq_of_isRun hlex (heq ▸ hrun)))

/-- **Texts are cut separately** if the last character of the one parts from the first
character of the other. -/
theorem lex_append {s t : Text} (h : ∀ c ∈ s.getLast?, ∀ d ∈ t.head?, Parts c d) :
    lex (s ++ t) = lex s ++ lex t := by
  cases t with
  | nil => simp [lex]
  | cons e t =>
    fun_induction lex s with
    | case1 => rfl
    | case2 c => exact lex_cons_of_parts (h c rfl e rfl)
    | case3 c d rest token hm ih =>
      rw [List.cons_append, List.cons_append, lex_of_marker hm, List.cons_append]
      cases rest with
      | nil => rfl
      | cons f rest => rw [ih (by simpa using h)]
    | case4 c d rest hm ih =>
      rw [List.cons_append, List.cons_append, lex_of_no_marker hm,
        ← Lexeme.push_append (lex_ne_nil (List.cons_ne_nil d rest)),
        ← ih (by simpa using h), List.cons_append]

/-- A quote is a lexeme of its own wherever it stands. -/
theorem lex_append_quote (s t : Text) :
    lex (s ++ '"' :: t) = lex s ++ ⟨.quote, ['"']⟩ :: lex t := by
  have hmarker_right (c : Char) : Token.ofMarker? c '"' = none := by simp [Token.ofMarker?]
  have hmarker_left (d : Char) : Token.ofMarker? '"' d = none := by simp [Token.ofMarker?]
  have hquote : Token.ofChar '"' = .quote := by decide
  have hne {c : Char} (hrun : (Token.ofChar c).isRun) : Token.ofChar c ≠ .quote := by
    intro heq
    rw [heq] at hrun
    exact absurd hrun (by decide)
  rw [lex_append fun c _ d hd => ?_]
  · cases t with
    | nil => rfl
    | cons d t =>
      rw [lex_cons_of_parts ⟨hmarker_left d, fun hrun => absurd hrun (by decide)⟩, hquote]
  · obtain rfl : '"' = d := by simpa using hd
    exact ⟨hmarker_right c, fun hrun => hquote.symm ▸ hne hrun⟩

/-- **A run is one lexeme.** -/
theorem lex_run {token : Token} (hrun : token.isRun) {text : Text} (hne : text ≠ [])
    (h : ∀ c ∈ text, Token.ofChar c = token) : lex text = [⟨token, text⟩] := by
  induction text with
  | nil => exact absurd rfl hne
  | cons c rest ih =>
    have hc : Token.ofChar c = token := h c List.mem_cons_self
    rw [lex_cons_of_isRun (hc ▸ hrun)]
    cases rest with
    | nil => rw [← hc]; rfl
    | cons d rest =>
      rw [ih (List.cons_ne_nil d rest) fun e he => h e (List.mem_cons_of_mem c he),
        Lexeme.push, if_pos ⟨hc ▸ hrun, hc.symm⟩]

/-! ### Lexemes of a text -/

namespace Lexeme

/-- What a lexeme of each class consists of. -/
inductive Valid : Lexeme → Prop
  | marker {c d : Char} {token : Token} (h : Token.ofMarker? c d = some token) :
      Valid ⟨token, [c, d]⟩
  | char (c : Char) : Valid ⟨Token.ofChar c, [c]⟩
  | run {token : Token} {text : Text} (hrun : token.isRun) (hne : text ≠ [])
      (h : ∀ c ∈ text, Token.ofChar c = token) : Valid ⟨token, text⟩

/-- The text of a run consists of characters of its class. -/
theorem Valid.run_text {l : Lexeme} (h : l.Valid) (hrun : l.token.isRun) :
    l.text ≠ [] ∧ ∀ c ∈ l.text, Token.ofChar c = l.token := by
  cases h with
  | marker hm => rw [Token.isRun_of_ofMarker? hm] at hrun; exact absurd hrun (by decide)
  | char c => exact ⟨List.cons_ne_nil c [], by simp⟩
  | run _ hne h => exact ⟨hne, h⟩

/-- A marker has the text of its class. -/
theorem Valid.text_of_marker {l : Lexeme} (h : l.Valid) {text : Text}
    (hmarker : l.token.markerText? = some text) : l.text = text := by
  cases h with
  | marker hm => exact Option.some.inj ((Token.markerText?_ofMarker? hm).symm.trans hmarker)
  | char c => rw [Token.markerText?_ofChar] at hmarker; cases hmarker
  | @run token found hrun =>
    cases token with
    | space => cases hmarker
    | word => cases hmarker
    | _ => exact absurd hrun (by decide)

/-- The character of a class of single characters that has only one. -/
def punctuation? : Token → Option Char
  | .equals => some '='
  | .dot => some '.'
  | .quote => some '"'
  | _ => none

/-- The text of a punctuation lexeme is its character. -/
theorem Valid.text_of_punctuation {l : Lexeme} (h : l.Valid) {c : Char}
    (hc : punctuation? l.token = some c) : l.text = [c] := by
  cases h with
  | marker hm =>
    unfold Token.ofMarker? at hm
    split_ifs at hm <;> cases hm <;> cases hc
  | char d =>
    have hd : punctuation? (Token.ofChar d) = some c := hc
    unfold Token.ofChar at hd
    split_ifs at hd with h₁ h₂ h₃ <;> cases hd
    · exact congrArg (fun c => [c]) h₁
    · exact congrArg (fun c => [c]) h₂
    · exact congrArg (fun c => [c]) h₃
  | @run token text hrun =>
    cases token with
    | space => cases hc
    | word => cases hc
    | _ => exact absurd hrun (by decide)

/-- Pushing a character keeps lexemes valid. -/
theorem valid_push {c : Char} {lexemes : List Lexeme} (h : ∀ l ∈ lexemes, l.Valid) :
    ∀ l ∈ push c lexemes, l.Valid := by
  cases lexemes with
  | nil => simpa [push] using Valid.char c
  | cons first rest =>
    obtain ⟨hfirst, hrest⟩ := List.forall_mem_cons.1 h
    rw [push]
    split
    · rename_i hc
      have hrun : first.token.isRun := hc.2 ▸ hc.1
      refine List.forall_mem_cons.2 ⟨.run hrun (List.cons_ne_nil _ _) ?_, hrest⟩
      exact List.forall_mem_cons.2 ⟨hc.2.symm, (hfirst.run_text hrun).2⟩
    · exact List.forall_mem_cons.2 ⟨.char c, h⟩

end Lexeme

/-- **Every lexeme of a text is valid.** -/
theorem valid_of_mem_lex {text : Text} : ∀ l ∈ lex text, l.Valid := by
  fun_induction lex text with
  | case1 => simp
  | case2 c => exact Lexeme.valid_push (by simp)
  | case3 c d rest token hm ih => exact List.forall_mem_cons.2 ⟨.marker hm, ih⟩
  | case4 c d rest _ ih => exact Lexeme.valid_push ih

/-! ### Cutting between lexemes -/

/-- A character is pushed in front of the lexemes before a cut. -/
theorem Lexeme.exists_of_push_eq_append {c : Char} {lexemes before after : List Lexeme}
    (hne : before ≠ []) (h : push c lexemes = before ++ after) :
    ∃ rest, lexemes = rest ++ after ∧ push c rest = before := by
  obtain ⟨x, before, rfl⟩ := List.exists_cons_of_ne_nil hne
  cases lexemes with
  | nil =>
    obtain ⟨hx, hnil⟩ := List.cons.inj h
    obtain ⟨rfl, rfl⟩ := List.append_eq_nil_iff.1 hnil.symm
    exact ⟨[], rfl, congrArg (· :: []) hx⟩
  | cons first more =>
    rw [push] at h
    split at h
    · rename_i hjoin
      obtain ⟨hx, rfl⟩ := List.cons.inj h
      refine ⟨first :: before, rfl, ?_⟩
      rw [push, if_pos hjoin, hx]
    · rename_i hjoin
      obtain ⟨hx, hmore⟩ := List.cons.inj h
      refine ⟨before, hmore, ?_⟩
      rw [← hx]
      refine push_of_ne fun found hfound hrun heq => hjoin ?_
      obtain ⟨others, rfl⟩ := List.head?_eq_some_iff.1 hfound
      obtain ⟨rfl, -⟩ := List.cons.inj hmore
      exact ⟨hrun, heq.symm⟩

/-- A character that begins no marker with the next one is pushed in front of the lexemes of any
beginning of what follows. -/
theorem lex_cons_of_append_eq {c d : Char} (h : Token.ofMarker? c d = none) {s t rest : Text}
    (htext : s ++ t = d :: rest) : lex (c :: s) = Lexeme.push c (lex s) := by
  cases s with
  | nil => rfl
  | cons e s =>
    obtain ⟨rfl, -⟩ := List.cons.inj htext
    exact lex_of_no_marker h s

/-- **A cut between two lexemes of a text cuts neither**: the texts on its two sides have the
lexemes on its two sides. -/
theorem lex_unlex_of_append {text : Text} {before after : List Lexeme}
    (h : lex text = before ++ after) :
    lex (Lexeme.unlex before) = before ∧ lex (Lexeme.unlex after) = after := by
  have hstart {text : Text} (h : lex text = after) : lex (Lexeme.unlex after) = after := by
    rw [← h, unlex_lex]
  fun_induction lex text generalizing before with
  | case1 =>
    obtain ⟨rfl, rfl⟩ := List.append_eq_nil_iff.1 h.symm
    exact ⟨rfl, rfl⟩
  | case2 c =>
    cases before with
    | nil => exact ⟨rfl, hstart (show lex [c] = after from h)⟩
    | cons x before =>
      obtain ⟨rest, hrest, hpush⟩ :=
        Lexeme.exists_of_push_eq_append (List.cons_ne_nil x before) h
      obtain ⟨rfl, rfl⟩ := List.append_eq_nil_iff.1 hrest.symm
      rw [← hpush]
      exact ⟨rfl, rfl⟩
  | case3 c d rest token hm ih =>
    cases before with
    | nil => exact ⟨rfl, hstart ((lex_of_marker hm rest).trans h)⟩
    | cons x before =>
      obtain ⟨rfl, hrest⟩ := List.cons.inj h
      obtain ⟨hbefore, hafter⟩ := ih hrest
      refine ⟨?_, hafter⟩
      rw [Lexeme.unlex_cons, List.cons_append, List.cons_append, List.nil_append,
        lex_of_marker hm, hbefore]
  | case4 c d rest hm ih =>
    cases before with
    | nil => exact ⟨rfl, hstart ((lex_of_no_marker hm rest).trans h)⟩
    | cons x before =>
      obtain ⟨left, hleft, hpush⟩ :=
        Lexeme.exists_of_push_eq_append (List.cons_ne_nil x before) h
      obtain ⟨hlex, hafter⟩ := ih hleft
      have htext : Lexeme.unlex left ++ Lexeme.unlex after = d :: rest := by
        rw [← unlex_lex (d :: rest), hleft]
        exact List.flatMap_append.symm
      refine ⟨?_, hafter⟩
      rw [← hpush, Lexeme.unlex_push, lex_cons_of_append_eq hm htext, hlex]

end BoundReport
