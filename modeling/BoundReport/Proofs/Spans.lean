import BoundReport.Proofs.Bytes
import BoundReport.Proofs.Envelope

/-!
# The Spans of Lexemes

A lexeme stands in its text where the ones in front of it end. The bytes from there up to its own
end are its **span**. Lexemes are cut from the end of the text, but they are the ones that a reading
from the left finds when it takes the longest lexeme at each place. What is found depends on nothing
in front of a place where a lexeme begins, and on nothing behind a place where one ends. So a text
may be cut at such a place, and at no other, and its two parts be read on their own.

## Main results

* `Lexeme.isLongest_of_lex_eq_cons`: the first lexeme of a text is the longest at its beginning.
* `munches_iff`: reading a text from the left finds its lexemes.
* `isCutFrom_of_mem_pieces`: a lexeme stands at its span.
* `pieces_append_iff`: the places at which a cut leaves all lexemes as they are.
* `lex_partition`: the lexemes of a text are a partition of it, and they are stable under cuts.
-/

namespace BoundReport

/-! ### Longest lexemes -/

namespace Lexeme

/-- A lexeme is the **longest** at the beginning of a text if it is valid and stands there, and no
valid lexeme that stands there is longer. -/
def IsLongest (l : Lexeme) (text : Text) : Prop :=
  l.Valid ∧ l.text <+: text ∧
    ∀ other : Lexeme, other.Valid → other.text <+: text → other.text.length ≤ l.text.length

variable {l l₁ l₂ first : Lexeme} {text rest : Text}

/-- The text of a valid lexeme is cut into it alone. -/
theorem Valid.lex_text (h : l.Valid) : lex l.text = [l] := by
  cases h with
  | marker hm => rw [lex_of_marker hm, lex]
  | char c => rw [lex, push]
  | run hrun hne h => exact lex_run hrun hne h

/-- A lexeme of no other class is one character. -/
theorem Valid.text_of_stray (h : l.Valid) (hstray : l.token = .stray) : ∃ c, l.text = [c] := by
  cases h with
  | marker hm =>
    obtain rfl := hstray
    exact absurd (Token.markerText?_ofMarker? hm) (by simp [Token.markerText?])
  | char c => exact ⟨c, rfl⟩
  | run hrun =>
    obtain rfl := hstray
    exact absurd hrun (by decide)

/-- A valid lexeme is determined by its text. -/
theorem Valid.eq_of_text_eq (h₁ : l₁.Valid) (h₂ : l₂.Valid) (h : l₁.text = l₂.text) : l₁ = l₂ := by
  have hlex : [l₁] = [l₂] := by rw [← h₁.lex_text, ← h₂.lex_text, h]
  exact List.singleton_inj.1 hlex

/-- A text has one longest lexeme at most. -/
theorem IsLongest.unique (h₁ : l₁.IsLongest text) (h₂ : l₂.IsLongest text) : l₁ = l₂ := by
  obtain ⟨hvalid₁, hbegins₁, hlongest₁⟩ := h₁
  obtain ⟨hvalid₂, hbegins₂, hlongest₂⟩ := h₂
  have hlength : l₁.text.length = l₂.text.length :=
    Nat.le_antisymm (hlongest₂ l₁ hvalid₁ hbegins₁) (hlongest₁ l₂ hvalid₂ hbegins₂)
  have hbegins : l₁.text <+: l₂.text :=
    List.prefix_of_prefix_length_le hbegins₁ hbegins₂ hlength.le
  exact hvalid₁.eq_of_text_eq hvalid₂ (hbegins.eq_of_length hlength)

/-- The first lexeme begins with the character that is pushed. -/
theorem exists_push_eq (c : Char) (lexemes : List Lexeme) :
    ∃ more rest, push c lexemes = ⟨Token.ofChar c, c :: more⟩ :: rest := by
  cases lexemes with
  | nil => exact ⟨[], [], rfl⟩
  | cons first rest =>
    rw [push]
    split_ifs with hjoin
    · exact ⟨first.text, rest, by rw [hjoin.2]⟩
    · exact ⟨[], first :: rest, rfl⟩

/-- The first lexeme of a text that begins with a run holds the whole run. -/
theorem exists_lex_append_of_isRun {token : Token} (hrun : token.isRun) {run : Text}
    (hne : run ≠ []) (h : ∀ c ∈ run, Token.ofChar c = token) (rest : Text) :
    ∃ more lexemes, lex (run ++ rest) = ⟨token, run ++ more⟩ :: lexemes := by
  induction run with
  | nil => exact absurd rfl hne
  | cons c run ih =>
    obtain ⟨rfl, hrest⟩ := List.forall_mem_cons.1 h
    have hpush : lex (c :: run ++ rest) = push c (lex (run ++ rest)) :=
      lex_cons_of_isRun hrun (run ++ rest)
    cases run with
    | nil =>
      rw [hpush]
      exact exists_push_eq c (lex rest)
    | cons d run =>
      obtain ⟨more, lexemes, hlex⟩ := ih (List.cons_ne_nil d run) hrest
      refine ⟨more, lexemes, ?_⟩
      rw [hpush, hlex, push, if_pos ⟨hrun, rfl⟩]
      rfl

/-- **The first lexeme of a text is the longest at its beginning.** -/
theorem isLongest_of_lex_eq_cons {more : List Lexeme} (h : lex text = first :: more) :
    first.IsLongest text := by
  have hvalid : first.Valid := valid_of_mem_lex first (h ▸ List.mem_cons_self)
  have htext : first.text ++ unlex more = text := by rw [← unlex_cons, ← h, unlex_lex]
  refine ⟨hvalid, ⟨_, htext⟩, ?_⟩
  rintro other hother ⟨rest, rfl⟩
  cases hother with
  | marker hm =>
    rw [List.cons_append, List.cons_append, lex_of_marker hm] at h
    obtain ⟨rfl, -⟩ := List.cons.inj h
    exact le_rfl
  | char c => exact List.length_pos_of_ne_nil hvalid.text_ne_nil
  | run hrun hne hall =>
    obtain ⟨more, lexemes, hlex⟩ := exists_lex_append_of_isRun hrun hne hall rest
    rw [hlex] at h
    obtain ⟨rfl, -⟩ := List.cons.inj h
    simp

/-- The longest lexeme at the beginning of a text is cut off. -/
theorem IsLongest.lex_append (h : l.IsLongest (l.text ++ rest)) :
    lex (l.text ++ rest) = l :: lex rest := by
  have hne : l.text ++ rest ≠ [] := List.append_ne_nil_of_left_ne_nil h.1.text_ne_nil rest
  obtain ⟨first, more, hlex⟩ := List.exists_cons_of_ne_nil (lex_ne_nil hne)
  obtain rfl := h.unique (isLongest_of_lex_eq_cons hlex)
  have htext : l.text ++ unlex more = l.text ++ rest := by rw [← unlex_cons, ← hlex, unlex_lex]
  obtain rfl := List.append_cancel_left htext
  have hcut : lex (l.text ++ unlex more) = [l] ++ more := hlex
  rw [hlex, (lex_unlex_of_append hcut).2]

end Lexeme

/-! ### Spans -/

/-- A lexeme with its **span**: the bytes from `start` up to `stop`. -/
structure Piece where
  lexeme : Lexeme
  start : Nat
  stop : Nat
  deriving DecidableEq, Repr

/-- Lexemes with their spans, the first of which begins at `start`. -/
def pieces (start : Nat) : List Lexeme → List Piece
  | [] => []
  | first :: rest =>
    ⟨first, start, start + Text.width first.text⟩ :: pieces (start + Text.width first.text) rest

namespace Piece

/-- A piece with a number of bytes put in front of its text. -/
def shift (offset : Nat) (piece : Piece) : Piece :=
  ⟨piece.lexeme, offset + piece.start, offset + piece.stop⟩

/-- A piece is **cut from** a text if its lexeme stands there at its span. So a span begins and ends
between two characters. -/
def IsCutFrom (piece : Piece) (text : Text) : Prop :=
  ∃ before after, text = before ++ piece.lexeme.text ++ after ∧
    Text.width before = piece.start ∧ Text.width (before ++ piece.lexeme.text) = piece.stop

/-- Pieces are **contiguous** from one place to another if each begins where the one in front of it
ends. -/
inductive Contiguous : Nat → List Piece → Nat → Prop
  | nil {place : Nat} : Contiguous place [] place
  | cons {lexeme : Lexeme} {start next stop : Nat} {rest : List Piece}
      (h : Contiguous next rest stop) : Contiguous start (⟨lexeme, start, next⟩ :: rest) stop

end Piece

section Pieces

variable {start : Nat} {text : Text} {lexemes : List Lexeme}

theorem map_lexeme_pieces (start : Nat) (lexemes : List Lexeme) :
    (pieces start lexemes).map Piece.lexeme = lexemes := by
  induction lexemes generalizing start with
  | nil => rfl
  | cons first rest ih => rw [pieces, List.map_cons, ih]

/-- Spans move with the place at which the first one begins. -/
theorem pieces_add (offset start : Nat) (lexemes : List Lexeme) :
    pieces (offset + start) lexemes = (pieces start lexemes).map (Piece.shift offset) := by
  induction lexemes generalizing start with
  | nil => rfl
  | cons first rest ih => rw [pieces, pieces, List.map_cons, Nat.add_assoc, ih, Piece.shift]

/-- Lexemes behind others begin where those end. -/
theorem pieces_append (start : Nat) (before after : List Lexeme) :
    pieces start (before ++ after) =
      pieces start before ++ pieces (start + Text.width (Lexeme.unlex before)) after := by
  induction before generalizing start with
  | nil => rfl
  | cons first rest ih =>
    rw [List.cons_append, pieces, pieces, ih, Lexeme.unlex_cons, Text.width_append,
      Nat.add_assoc, List.cons_append]

/-- Spans are contiguous, from the place of the first one to the end of the text. -/
theorem contiguous_pieces (start : Nat) (lexemes : List Lexeme) :
    Piece.Contiguous start (pieces start lexemes)
      (start + Text.width (Lexeme.unlex lexemes)) := by
  induction lexemes generalizing start with
  | nil => exact .nil
  | cons first rest ih =>
    rw [pieces, Lexeme.unlex_cons, Text.width_append, ← Nat.add_assoc]
    exact .cons (ih _)

/-- **A lexeme stands at its span.** -/
theorem isCutFrom_of_mem_pieces {piece : Piece} (front : Text)
    (h : piece ∈ pieces (Text.width front) lexemes) :
    piece.IsCutFrom (front ++ Lexeme.unlex lexemes) := by
  induction lexemes generalizing front with
  | nil => cases h
  | cons first rest ih =>
    rw [pieces, List.mem_cons, ← Text.width_append] at h
    rw [Lexeme.unlex_cons, ← List.append_assoc]
    rcases h with rfl | h
    · exact ⟨front, Lexeme.unlex rest, rfl, rfl, rfl⟩
    · exact ih (front ++ first.text) h

/-- The places where lexemes begin or end are those that have some of the lexemes in front. -/
theorem mem_stops_iff {place : Nat} :
    place ∈ start :: (pieces start lexemes).map Piece.stop ↔
      ∃ before after, lexemes = before ++ after ∧
        place = start + Text.width (Lexeme.unlex before) := by
  induction lexemes generalizing start with
  | nil =>
    rw [pieces, List.map_nil, List.mem_singleton]
    constructor
    · rintro rfl
      exact ⟨[], [], rfl, rfl⟩
    · rintro ⟨before, after, h, rfl⟩
      obtain ⟨rfl, -⟩ := List.append_eq_nil_iff.1 h.symm
      rfl
  | cons first rest ih =>
    rw [pieces, List.map_cons, List.mem_cons, ih]
    constructor
    · rintro (rfl | ⟨before, after, rfl, rfl⟩)
      · exact ⟨[], first :: rest, rfl, rfl⟩
      · refine ⟨first :: before, after, rfl, ?_⟩
        rw [Lexeme.unlex_cons, Text.width_append, Nat.add_assoc]
    · rintro ⟨before, after, h, rfl⟩
      cases before with
      | nil => exact .inl rfl
      | cons l before =>
        obtain ⟨rfl, rfl⟩ := List.cons.inj h
        refine .inr ⟨before, after, rfl, ?_⟩
        rw [Lexeme.unlex_cons, Text.width_append, Nat.add_assoc]

/-- **A cut leaves all lexemes as they are just if it is made where a lexeme begins or ends.** -/
theorem pieces_append_iff (front rest : Text) :
    pieces 0 (lex (front ++ rest)) =
        pieces 0 (lex front) ++ (pieces 0 (lex rest)).map (Piece.shift (Text.width front)) ↔
      Text.width front ∈ 0 :: (pieces 0 (lex (front ++ rest))).map Piece.stop := by
  have hpieces : pieces 0 (lex front) ++
      (pieces 0 (lex rest)).map (Piece.shift (Text.width front)) =
        pieces 0 (lex front ++ lex rest) := by
    rw [pieces_append, unlex_lex, Nat.zero_add, ← pieces_add, Nat.add_zero]
  rw [hpieces, mem_stops_iff]
  constructor
  · intro h
    have hlex := congrArg (List.map Piece.lexeme) h
    rw [map_lexeme_pieces, map_lexeme_pieces] at hlex
    exact ⟨lex front, lex rest, hlex, by rw [unlex_lex, Nat.zero_add]⟩
  · rintro ⟨before, after, hlex, hwidth⟩
    have htext : Lexeme.unlex before ++ Lexeme.unlex after = front ++ rest := by
      rw [← unlex_lex (front ++ rest), hlex]
      exact List.flatMap_append.symm
    rw [Nat.zero_add] at hwidth
    obtain ⟨rfl, rfl⟩ := Text.append_inj_of_width htext hwidth.symm
    obtain ⟨hbefore, hafter⟩ := lex_unlex_of_append hlex
    rw [hbefore, hafter, hlex]

end Pieces

/-! ### Reading from the left -/

/-- **Reading a text from the left**, from a place on: the longest lexeme is taken, and the reading
goes on behind it, until the text ends. -/
inductive Munches : Nat → Text → List Piece → Prop
  | nil {start : Nat} : Munches start [] []
  | cons {start : Nat} {l : Lexeme} {rest : Text} {more : List Piece}
      (hlongest : l.IsLongest (l.text ++ rest))
      (hrest : Munches (start + Text.width l.text) rest more) :
      Munches start (l.text ++ rest) (⟨l, start, start + Text.width l.text⟩ :: more)

/-- The lexemes of a text are read from the left. -/
theorem munches_pieces {lexemes : List Lexeme} (h : lex (Lexeme.unlex lexemes) = lexemes)
    (start : Nat) : Munches start (Lexeme.unlex lexemes) (pieces start lexemes) := by
  induction lexemes generalizing start with
  | nil => exact .nil
  | cons first rest ih =>
    have hcut : lex (Lexeme.unlex (first :: rest)) = [first] ++ rest := h
    exact .cons (Lexeme.isLongest_of_lex_eq_cons h) (ih (lex_unlex_of_append hcut).2 _)

/-- **Reading a text from the left finds its lexemes**, and nothing else. -/
theorem munches_iff {start : Nat} {text : Text} {found : List Piece} :
    Munches start text found ↔ found = pieces start (lex text) := by
  constructor
  · intro h
    induction h with
    | nil => rfl
    | cons hlongest _ ih => rw [hlongest.lex_append, pieces, ih]
  · rintro rfl
    have hlex : lex (Lexeme.unlex (lex text)) = lex text := by rw [unlex_lex]
    have h := munches_pieces hlex start
    rwa [unlex_lex] at h

/-! ### The partition of a text -/

/-- Lexemes with their pieces are a **partition** of a text. -/
structure IsPartition (text : Text) (lexemes : List Lexeme) (found : List Piece) : Prop where
  /-- The pieces are what reading the text from the left finds, and nothing else is. -/
  munches_iff : ∀ other, Munches 0 text other ↔ other = found
  map_lexeme : found.map Piece.lexeme = lexemes
  /-- The spans are contiguous, from the beginning of the text to its end. -/
  contiguous : Piece.Contiguous 0 found (Text.width text)
  text_ne_nil : ∀ piece ∈ found, piece.lexeme.text ≠ []
  start_lt_stop : ∀ piece ∈ found, piece.start < piece.stop
  isCutFrom : ∀ piece ∈ found, piece.IsCutFrom text
  /-- The bytes of the text at a span are those of the lexeme. -/
  extract_eq : ∀ piece ∈ found,
    (Text.utf8 text).extract piece.start piece.stop = Text.utf8 piece.lexeme.text
  flatMap_text : lexemes.flatMap Lexeme.text = text
  /-- Neighbours are never both spaces or both words. -/
  neighbours : ∀ before l next after, lexemes = before ++ l :: next :: after →
    ¬ (l.token = .space ∧ next.token = .space) ∧ ¬ (l.token = .word ∧ next.token = .word)
  /-- A character of no class is a lexeme of its own. -/
  stray : ∀ l ∈ lexemes, l.token = .stray → ∃ c, l.text = [c]
  /-- A cut leaves in front the lexemes up to it, and behind it the others with their spans moved
  to the beginning, just if it is made where a lexeme begins or ends. -/
  cut_iff : ∀ front rest, text = front ++ rest →
    (found = pieces 0 (lex front) ++ (pieces 0 (lex rest)).map (Piece.shift (Text.width front)) ↔
      Text.width front ∈ 0 :: found.map Piece.stop)

/-- **The lexemes of a text are a partition of it**, found by reading it from the left. Their spans
are contiguous from its beginning to its end, none is empty, and each lexeme is cut out of the bytes
of the text at its span. Neighbours are never of one run, and a character of no class is a lexeme of
its own. **A cut of the text** at a place where a lexeme begins or ends leaves in front the lexemes
up to there, and behind it the others with their spans moved to the beginning; no other cut does. -/
theorem lex_partition (text : Text) : IsPartition text (lex text) (pieces 0 (lex text)) := by
  have hcut {piece : Piece} (h : piece ∈ pieces 0 (lex text)) : piece.IsCutFrom text := by
    have hplace := isCutFrom_of_mem_pieces [] h
    rwa [List.nil_append, unlex_lex] at hplace
  have hne {piece : Piece} (h : piece ∈ pieces 0 (lex text)) : piece.lexeme.text ≠ [] := by
    have hmem : piece.lexeme ∈ lex text := by
      rw [← map_lexeme_pieces 0 (lex text)]
      exact List.mem_map_of_mem h
    exact (valid_of_mem_lex _ hmem).text_ne_nil
  refine ⟨fun other => munches_iff, map_lexeme_pieces 0 _, ?_, fun _ => hne, fun piece h => ?_,
    fun _ => hcut, fun piece h => ?_, unlex_lex text, fun before l next after h => ⟨?_, ?_⟩,
    fun l hl hstray => (valid_of_mem_lex l hl).text_of_stray hstray, ?_⟩
  · have hcontiguous := contiguous_pieces 0 (lex text)
    rwa [unlex_lex, Nat.zero_add] at hcontiguous
  · obtain ⟨before, after, -, hstart, hstop⟩ := hcut h
    rw [← hstart, ← hstop, Text.width_append]
    exact Nat.lt_add_of_pos_right (Text.width_pos (hne h))
  · obtain ⟨before, after, htext, hstart, hstop⟩ := hcut h
    rw [htext, ← hstart, ← hstop, Text.width_append]
    exact Text.extract_utf8 before piece.lexeme.text after
  · rintro ⟨hl, hnext⟩
    exact not_neighbours_of_isRun h (hl ▸ rfl) (hnext.trans hl.symm)
  · rintro ⟨hl, hnext⟩
    exact not_neighbours_of_isRun h (hl ▸ rfl) (hnext.trans hl.symm)
  · rintro front rest rfl
    exact pieces_append_iff front rest

/-- Three braces of which the last one opens a marker with the percent sign behind it, between words
whose characters have two bytes each. -/
example : (pieces 0 (lex "é \x7b\x7b\x7b%ß")).map
      (fun piece => (piece.lexeme.token, piece.start, piece.stop)) =
    [(.word, 0, 2), (.space, 2, 3), (.expressionOpen, 3, 5), (.statementOpen, 5, 7),
      (.word, 7, 9)] := by
  decide +kernel

end BoundReport
