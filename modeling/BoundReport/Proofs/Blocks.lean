import BoundReport.Loop
import BoundReport.Proofs.Attributes

/-!
# Blocks of a Document

The lines of a document fall into **sections**: lines outside of loops, and blocks, each from
the start of a loop to the next loop end or to the end of the document. Extracting the loops
is this decomposition read off: an outside line leaves its trimmed text, and a block leaves a
placeholder and a loop.

## Main results

* `exists_decomposes`, `Decomposes.unique`: every list of lines has exactly one decomposition.
* `extractLoops_eq_of_decomposes`: what extraction makes of a decomposition.
* `extractLoops_blocks`: the two together.
-/

namespace BoundReport

/-! ### Sections -/

/-- A line outside of loops, or a loop with its lines: the start with its header, the body, and
the end unless the document ends before. -/
inductive Section
  | outside (line : Text)
  | block (start : Text) (header : LoopHeader) (body : List Text) (stop : Option Text)
  deriving DecidableEq, Repr

namespace Section

/-- The lines of a section. -/
def lines : Section → List Text
  | .outside line => [line]
  | .block start _ body stop => start :: (body ++ stop.toList)

/-- Whether a section is a loop without an end. -/
def isOpen : Section → Bool
  | .outside _ => false
  | .block _ _ _ stop => stop.isNone

end Section

/-- The **decomposition** of lines from the left. A line that starts no loop is outside. A line
that starts one is followed by all lines up to the next loop end, or by all lines there are. -/
inductive Decomposes : List Text → List Section → Prop
  | nil : Decomposes [] []
  | outside {line : Text} {rest : List Text} {sections : List Section}
      (hline : ∀ header, classify line ≠ .loopStart header) (hrest : Decomposes rest sections) :
      Decomposes (line :: rest) (.outside line :: sections)
  | closed {start stop : Text} {header : LoopHeader} {body rest : List Text}
      {sections : List Section} (hstart : classify start = .loopStart header)
      (hbody : ∀ line ∈ body, classify line ≠ .loopEnd) (hstop : classify stop = .loopEnd)
      (hrest : Decomposes rest sections) :
      Decomposes (start :: (body ++ stop :: rest))
        (.block start header body (some stop) :: sections)
  | unclosed {start : Text} {header : LoopHeader} {body : List Text}
      (hstart : classify start = .loopStart header)
      (hbody : ∀ line ∈ body, classify line ≠ .loopEnd) :
      Decomposes (start :: body) [.block start header body none]

namespace Decomposes

/-- The sections together have the lines, each once and in order. -/
theorem flatMap_lines {lines : List Text} {sections : List Section}
    (h : Decomposes lines sections) : sections.flatMap Section.lines = lines := by
  induction h with
  | nil => rfl
  | outside _ _ ih => rw [List.flatMap_cons, ih]; rfl
  | closed _ _ _ _ ih => rw [List.flatMap_cons, ih]; simp [Section.lines]
  | unclosed _ _ => simp [Section.lines]

/-- Lines are told apart at the first one with a property in one way only. -/
theorem append_cons_inj {p : Text → Prop} {body₁ body₂ rest₁ rest₂ : List Text}
    {stop₁ stop₂ : Text} (hbody₁ : ∀ line ∈ body₁, ¬ p line) (hbody₂ : ∀ line ∈ body₂, ¬ p line)
    (hstop₁ : p stop₁) (hstop₂ : p stop₂)
    (h : body₁ ++ stop₁ :: rest₁ = body₂ ++ stop₂ :: rest₂) :
    body₁ = body₂ ∧ stop₁ = stop₂ ∧ rest₁ = rest₂ := by
  rcases List.append_eq_append_iff.1 h with ⟨more, hbody, hrest⟩ | ⟨more, hbody, hrest⟩
  · cases more with
    | nil =>
      obtain ⟨hstop, hrest⟩ := List.cons.inj hrest
      exact ⟨by simpa using hbody.symm, hstop, hrest⟩
    | cons line more =>
      obtain ⟨rfl, -⟩ := List.cons.inj hrest
      exact absurd hstop₁ (hbody₂ _ (by simp [hbody]))
  · cases more with
    | nil =>
      obtain ⟨hstop, hrest⟩ := List.cons.inj hrest
      exact ⟨by simpa using hbody, hstop.symm, hrest.symm⟩
    | cons line more =>
      obtain ⟨rfl, -⟩ := List.cons.inj hrest
      exact absurd hstop₂ (hbody₁ _ (by simp [hbody]))

/-- **Lines have one decomposition at most.** -/
theorem unique {lines : List Text} {sections₁ sections₂ : List Section}
    (h₁ : Decomposes lines sections₁) (h₂ : Decomposes lines sections₂) :
    sections₁ = sections₂ := by
  induction h₁ generalizing sections₂ with
  | nil => cases h₂; rfl
  | outside hline _ ih =>
    cases h₂ with
    | outside _ hrest => rw [ih hrest]
    | closed hstart => exact absurd hstart (hline _)
    | unclosed hstart => exact absurd hstart (hline _)
  | @closed start stop header body rest sections hstart hbody hstop _ ih =>
    generalize hlines : start :: (body ++ stop :: rest) = lines at h₂
    cases h₂ with
    | nil => cases hlines
    | outside hline =>
      obtain ⟨rfl, -⟩ := List.cons.inj hlines
      exact absurd hstart (hline _)
    | closed hstart₂ hbody₂ hstop₂ hrest₂ =>
      obtain ⟨rfl, htail⟩ := List.cons.inj hlines
      obtain ⟨rfl, rfl, rfl⟩ := append_cons_inj hbody hbody₂ hstop hstop₂ htail
      obtain rfl : header = _ := by simpa [hstart] using hstart₂
      rw [ih hrest₂]
    | unclosed hstart₂ hbody₂ =>
      obtain ⟨rfl, htail⟩ := List.cons.inj hlines
      exact absurd hstop (hbody₂ stop (by simp [← htail]))
  | @unclosed start header body hstart hbody =>
    generalize hlines : start :: body = lines at h₂
    cases h₂ with
    | nil => cases hlines
    | outside hline =>
      obtain ⟨rfl, -⟩ := List.cons.inj hlines
      exact absurd hstart (hline _)
    | @closed _ stop _ _ _ _ _ _ hstop₂ =>
      obtain ⟨rfl, htail⟩ := List.cons.inj hlines
      exact absurd hstop₂ (hbody stop (by simp [htail]))
    | unclosed hstart₂ =>
      obtain ⟨rfl, rfl⟩ := List.cons.inj hlines
      obtain rfl : header = _ := by simpa [hstart] using hstart₂
      rfl

end Decomposes

/-- Lines have a first loop end, or none at all. -/
theorem exists_loopEnd_or_forall (lines : List Text) :
    (∃ body stop rest, lines = body ++ stop :: rest ∧ (∀ line ∈ body, classify line ≠ .loopEnd) ∧
      classify stop = .loopEnd) ∨ ∀ line ∈ lines, classify line ≠ .loopEnd := by
  induction lines with
  | nil => exact .inr (by simp)
  | cons line lines ih =>
    by_cases hline : classify line = .loopEnd
    · exact .inl ⟨[], line, lines, rfl, by simp, hline⟩
    · rcases ih with ⟨body, stop, rest, rfl, hbody, hstop⟩ | hall
      · exact .inl ⟨line :: body, stop, rest, rfl, List.forall_mem_cons.2 ⟨hline, hbody⟩, hstop⟩
      · exact .inr (List.forall_mem_cons.2 ⟨hline, hall⟩)

/-- **All lines have a decomposition.** -/
theorem exists_decomposes (lines : List Text) : ∃ sections, Decomposes lines sections := by
  induction hn : lines.length using Nat.strong_induction_on generalizing lines with
  | h n ih =>
    cases lines with
    | nil => exact ⟨[], .nil⟩
    | cons line lines =>
      by_cases hstart : ∃ header, classify line = .loopStart header
      · obtain ⟨header, hstart⟩ := hstart
        rcases exists_loopEnd_or_forall lines with ⟨body, stop, rest, rfl, hbody, hstop⟩ | hall
        · have hlt : rest.length < n := by
            rw [← hn]
            simp only [List.length_cons, List.length_append]
            omega
          obtain ⟨sections, hrest⟩ := ih rest.length hlt rest rfl
          exact ⟨_, .closed hstart hbody hstop hrest⟩
        · exact ⟨_, .unclosed hstart hall⟩
      · obtain ⟨sections, hrest⟩ := ih lines.length (by rw [← hn]; simp) lines rfl
        exact ⟨_, .outside (fun header heq => hstart ⟨header, heq⟩) hrest⟩

/-! ### What sections leave -/

/-- The lines that sections leave, when the next loop has the number `next`. -/
def documentOf : Nat → List Section → Document
  | _, [] => []
  | next, .outside line :: rest => .text (Text.trim line) :: documentOf next rest
  | next, .block _ _ _ _ :: rest => .placeholder ⟨next⟩ :: documentOf (next + 1) rest

/-- The loops that sections leave, when the next loop has the number `next`. -/
def loopsOf : Nat → List Section → List Loop
  | _, [] => []
  | next, .outside _ :: rest => loopsOf next rest
  | next, .block start header body _ :: rest =>
    ⟨⟨next⟩, start, header.collection, header.element, body.flatMap Text.trim⟩ ::
      loopsOf (next + 1) rest

/-- The last loop, if the last section is a loop without an end. -/
def openLoopOf (next : Nat) (sections : List Section) : Option Loop :=
  if sections.getLast?.any Section.isOpen then (loopsOf next sections).getLast? else none

/-- The body of a loop is read up to the loop end. -/
theorem scan_body {body : List Text} (h : ∀ line ∈ body, classify line ≠ .loopEnd) (next : Nat)
    (loop : Loop) (rest : Document) :
    Extraction.scan next (some loop) (body.map Line.text ++ rest) =
      Extraction.scan next
        (some { loop with body := loop.body ++ body.flatMap Text.trim }) rest := by
  induction body generalizing loop with
  | nil => simp
  | cons line body ih =>
    obtain ⟨hline, hbody⟩ := List.forall_mem_cons.1 h
    rw [List.map_cons, List.cons_append, Extraction.scan, if_neg hline, ih hbody]
    simp

/-- A loop start opens a loop and leaves its placeholder. -/
theorem scan_start {start : Text} {header : LoopHeader}
    (h : classify start = .loopStart header) (next : Nat) (rest : Document) :
    Extraction.scan next none (.text start :: rest) =
      (Extraction.scan (next + 1)
        (some ⟨⟨next⟩, start, header.collection, header.element, []⟩) rest).emit
          (.placeholder ⟨next⟩) := by
  rw [Extraction.scan, h]

/-- A line that starts no loop leaves its trimmed text. -/
theorem scan_outside {line : Text} (h : ∀ header, classify line ≠ .loopStart header)
    (next : Nat) (rest : Document) :
    Extraction.scan next none (.text line :: rest) =
      (Extraction.scan next none rest).emit (.text (Text.trim line)) := by
  rw [Extraction.scan]
  split
  · rename_i header heq
    exact absurd heq (h header)
  · rfl

/-- A block as the last section but open leaves a loop. -/
theorem loopsOf_ne_nil {sections : List Section} (h : sections.getLast?.any Section.isOpen)
    (next : Nat) : loopsOf next sections ≠ [] := by
  induction sections generalizing next with
  | nil => simp at h
  | cons first rest ih =>
    cases first with
    | block => simp [loopsOf]
    | outside line =>
      cases rest with
      | nil => simp [Section.isOpen] at h
      | cons second rest => exact ih (by simpa using h) next

/-- The loops of a section come before those of the sections behind it. -/
theorem loopsOf_cons (next : Nat) (first : Section) (rest : List Section) :
    loopsOf next (first :: rest) =
      loopsOf next [first] ++ loopsOf (next + (loopsOf next [first]).length) rest := by
  cases first <;> rfl

/-- In front of a section without an open loop nothing changes about the open loop. -/
theorem openLoopOf_cons {first : Section} (h : first.isOpen = false) (next : Nat)
    (rest : List Section) :
    openLoopOf next (first :: rest) = openLoopOf (next + (loopsOf next [first]).length) rest := by
  cases rest with
  | nil => simp [openLoopOf, h]
  | cons second rest =>
    rw [openLoopOf, openLoopOf, List.getLast?_cons_cons]
    split
    · rename_i hopen
      rw [loopsOf_cons, List.getLast?_append_of_ne_nil _ (loopsOf_ne_nil hopen _)]
    · rfl

/-- **What extraction makes of a decomposition.** -/
theorem scan_eq_of_decomposes {lines : List Text} {sections : List Section}
    (h : Decomposes lines sections) (next : Nat) :
    Extraction.scan next none (lines.map Line.text) = ⟨documentOf next sections,
      ⟨loopsOf next sections, (openLoopOf next sections).map Loop.id⟩⟩ := by
  induction h generalizing next with
  | nil => rfl
  | outside hline hrest ih =>
    rw [List.map_cons, scan_outside hline, ih, openLoopOf_cons rfl]
    rfl
  | @closed start stop header body rest sections hstart hbody hstop hrest ih =>
    rw [List.map_cons, List.map_append, List.map_cons, scan_start hstart, scan_body hbody,
      Extraction.scan, if_pos hstop, ih, openLoopOf_cons rfl]
    rfl
  | @unclosed start header body hstart hbody =>
    have hbody' := scan_body hbody (next + 1)
      ⟨⟨next⟩, start, header.collection, header.element, []⟩ []
    rw [List.append_nil] at hbody'
    rw [List.map_cons, scan_start hstart, hbody']
    rfl

/-! ### Numbers of loops -/

/-- Loops are numbered in order. -/
theorem map_id_loopsOf (next : Nat) (sections : List Section) :
    (loopsOf next sections).map Loop.id =
      (List.range' next (loopsOf next sections).length).map LoopId.mk := by
  induction sections generalizing next with
  | nil => rfl
  | cons first rest ih =>
    cases first with
    | outside line => exact ih next
    | block start header body stop =>
      rw [loopsOf, List.map_cons, ih, List.length_cons, List.range'_succ, List.map_cons]

/-- The placeholders that sections leave are those of their loops. -/
theorem placeholders_documentOf (next : Nat) (sections : List Section) :
    (documentOf next sections).placeholders = (loopsOf next sections).map Loop.id := by
  induction sections generalizing next with
  | nil => rfl
  | cons first rest ih =>
    cases first with
    | outside line => exact ih next
    | block start header body stop => exact congrArg (LoopId.mk next :: ·) (ih (next + 1))

/-- A loop is found under its number. -/
theorem find?_loopsOf (next i : Nat) (sections : List Section) :
    (loopsOf next sections).find? (fun loop => loop.id = ⟨next + i⟩) =
      (loopsOf next sections)[i]? := by
  induction sections generalizing next i with
  | nil => rfl
  | cons first rest ih =>
    cases first with
    | outside line => exact ih next i
    | block start header body stop =>
      cases i with
      | zero => simp [loopsOf]
      | succ i =>
        have hne : next ≠ next + (i + 1) := by omega
        have hnumber : next + (i + 1) = next + 1 + i := by omega
        rw [loopsOf, List.find?_cons_of_neg (by simp), hnumber, ih,
          List.getElem?_cons_succ]

/-- The last loop is found under its own number. -/
theorem find?_id_of_getLast? {sections : List Section} {loop : Loop}
    (h : (loopsOf 0 sections).getLast? = some loop) :
    (loopsOf 0 sections).find? (fun other => other.id = loop.id) = some loop := by
  rw [List.getLast?_eq_getElem?] at h
  have hfind := find?_loopsOf 0 ((loopsOf 0 sections).length - 1) sections
  rw [h] at hfind
  have hid : loop.id = ⟨0 + ((loopsOf 0 sections).length - 1)⟩ := by
    simpa using List.find?_some hfind
  rw [hid]
  exact hfind

/-- A document has an open loop just if its last section is one. -/
theorem isSome_openLoopOf (next : Nat) (sections : List Section) :
    (openLoopOf next sections).isSome = sections.getLast?.any Section.isOpen := by
  rw [openLoopOf]
  split
  · rename_i hopen
    rw [hopen, List.getLast?_isSome]
    exact loopsOf_ne_nil hopen next
  · rename_i hopen
    simpa using hopen

/-- The unterminated loop is the last one, if the last section is a loop without an end. -/
theorem unterminated?_of_decomposes {lines : List Text} {sections : List Section}
    (h : Decomposes lines sections) :
    (extractLoops (lines.map Line.text)).table.unterminated? = openLoopOf 0 sections := by
  have hextract : extractLoops (lines.map Line.text) = _ := scan_eq_of_decomposes h 0
  rw [hextract, LoopTable.unterminated?]
  cases hopen : openLoopOf 0 sections with
  | none => rfl
  | some loop =>
    have hlast : (loopsOf 0 sections).getLast? = some loop := by
      rw [openLoopOf] at hopen
      split at hopen
      · exact hopen
      · cases hopen
    exact find?_id_of_getLast? hlast

/-! ### Written placeholders -/

/-- A decimal digit is a word character. -/
theorem isWordChar_of_isDigit {c : Char} (h : c.isDigit) : isWordChar c := by
  simp [isWordChar, Char.isAlphanum, h]

/-- A written loop number is a word. -/
theorem LoopId.isWord_toText (id : LoopId) : IsWord id.toText := by
  refine ⟨by simp [LoopId.toText], fun c hc => ?_⟩
  rcases List.mem_append.1 hc with hloop | hdigit
  · have hword : IsWord "loop" := by decide
    exact hword.2 c hloop
  · exact isWordChar_of_isDigit (Text.isDigit_of_mem_ofNat hdigit)

/-- **A line that looks like a placeholder is plain text.** -/
theorem classify_toText_placeholder (id : LoopId) :
    classify (Line.placeholder id).toText = .plain := by
  have hlooptag : IsWord "looptag" := by decide
  have hwritten (number : Text) : "\x7b% looptag ".toList ++ number ++ " %\x7d".toList =
      '{' :: '%' :: ' ' :: ("looptag".toList ++ ' ' :: (number ++ ' ' :: ['%', '}'])) := by simp
  have htext : (Line.placeholder id).toText =
      '{' :: '%' :: ' ' :: ("looptag".toList ++ ' ' :: (id.toText ++ ' ' :: ['%', '}'])) :=
    hwritten id.toText
  have hlex : lex (Line.placeholder id).toText = [⟨.statementOpen, ['{', '%']⟩,
      ⟨.space, [' ']⟩, ⟨.word, "looptag".toList⟩, ⟨.space, [' ']⟩, ⟨.word, id.toText⟩,
      ⟨.space, [' ']⟩, ⟨.statementClose, ['%', '}']⟩] := by
    rw [htext, lex_of_marker rfl, hlooptag.lex_space_append,
      hlooptag.lex_append (by simp; decide), id.isWord_toText.lex_space_append,
      id.isWord_toText.lex_append (by simp; decide)]
    rfl
  have htags : tags (Line.placeholder id).toText = [] := by
    rw [tags, fragments, hlex]
    rfl
  rw [classify]
  simp only [hlex, htags]
  rfl

/-! ### Extraction -/

/-- **Extraction is decomposition.** The lines of a document have one decomposition; each is in
one section. Outside lines leave their trimmed text and blocks their placeholders, which are
numbered from zero; the table has the loop of every block under its number, and the last one as
unterminated if it has no end. Only blocks leave placeholders: a line that looks like one starts
no loop. -/
theorem extractLoops_blocks (lines : List Text) :
    ∃ sections, Decomposes lines sections ∧
      (∀ others, Decomposes lines others → others = sections) ∧
      sections.flatMap Section.lines = lines ∧
      (extractLoops (lines.map Line.text)).document = documentOf 0 sections ∧
      (extractLoops (lines.map Line.text)).table.loops = loopsOf 0 sections ∧
      (extractLoops (lines.map Line.text)).document.placeholders =
        (List.range (extractLoops (lines.map Line.text)).table.loops.length).map LoopId.mk ∧
      (∀ i, (extractLoops (lines.map Line.text)).table.get? ⟨i⟩ =
        (extractLoops (lines.map Line.text)).table.loops[i]?) ∧
      (extractLoops (lines.map Line.text)).table.unterminated? =
        (if sections.getLast?.any Section.isOpen then
          (extractLoops (lines.map Line.text)).table.loops.getLast? else none) ∧
      ∀ id : LoopId, classify (Line.placeholder id).toText = .plain := by
  obtain ⟨sections, h⟩ := exists_decomposes lines
  have hextract : extractLoops (lines.map Line.text) = ⟨documentOf 0 sections,
      ⟨loopsOf 0 sections, (openLoopOf 0 sections).map Loop.id⟩⟩ := scan_eq_of_decomposes h 0
  rw [hextract]
  refine ⟨sections, h, fun others hothers => hothers.unique h, h.flatMap_lines, rfl, rfl, ?_,
    fun i => ?_, ?_, classify_toText_placeholder⟩
  · rw [placeholders_documentOf, map_id_loopsOf, List.range_eq_range']
  · have hfind := find?_loopsOf 0 i sections
    rw [Nat.zero_add] at hfind
    exact hfind
  · rw [LoopTable.unterminated?]
    cases hopen : openLoopOf 0 sections with
    | none =>
      rw [openLoopOf] at hopen
      rw [hopen]
      rfl
    | some loop =>
      have hlast : (loopsOf 0 sections).getLast? = some loop := by
        rw [openLoopOf] at hopen
        split at hopen
        · exact hopen
        · exact absurd hopen (by simp)
      rw [openLoopOf] at hopen
      rw [hopen]
      exact find?_id_of_getLast? hlast

/-- A loop start inside a loop is text of its body, and the end of the document ends the loop. -/
example : extractLoops (["\x7b% for a in X %\x7d", " \x7b% for b in Y %\x7d", "z "].map
      fun line => .text (String.toList line)) =
    ⟨[.placeholder ⟨0⟩], [⟨⟨0⟩, "\x7b% for a in X %\x7d", "X", "a", "\x7b% for b in Y %\x7dz"⟩],
      some ⟨0⟩⟩ := by
  decide +kernel

end BoundReport
