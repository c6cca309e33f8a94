import BoundReport.Document

/-!
# Lines of a Text

A text that is written line by line, with a line feed after each, has these lines again. A line
of a text is found again in it, behind as many line ends as there are lines before it.

## Main results

* `splitLines_append_lineFeed`: the first line of a text ends at its first line feed.
* `splitLines_flatMap`: written lines are read as themselves.
* `splitLines_prefix`: what is added behind a line feed leaves the lines before as they are.
* `exists_head_of_splitLines`: a line stands in its text behind whole lines.
* `splitLines_append`, `splitLines_line_append`: the lines of a text that is put together.
-/

namespace BoundReport

/-- A text can stand on one **line** if it has neither line feeds nor carriage returns. -/
structure IsLine (text : Text) : Prop where
  lineFeed : '\n' ∉ text
  carriageReturn : '\r' ∉ text

instance (text : Text) : Decidable (IsLine text) :=
  decidable_of_iff ('\n' ∉ text ∧ '\r' ∉ text)
    ⟨fun ⟨hlf, hcr⟩ => ⟨hlf, hcr⟩, fun h => ⟨h.lineFeed, h.carriageReturn⟩⟩

/-- Texts that can stand on one line can stand there together. -/
theorem IsLine.append {s t : Text} (hs : IsLine s) (ht : IsLine t) : IsLine (s ++ t) :=
  ⟨fun h => (List.mem_append.1 h).elim hs.lineFeed ht.lineFeed,
    fun h => (List.mem_append.1 h).elim hs.carriageReturn ht.carriageReturn⟩

/-- One more character can stand on the line of a text. -/
theorem IsLine.cons {c : Char} {t : Text} (hlf : c ≠ '\n') (hcr : c ≠ '\r') (ht : IsLine t) :
    IsLine (c :: t) :=
  ⟨fun h => (List.mem_cons.1 h).elim (Ne.symm hlf) ht.lineFeed,
    fun h => (List.mem_cons.1 h).elim (Ne.symm hcr) ht.carriageReturn⟩

/-- A text that can stand on one line can stand there without its first character. -/
theorem IsLine.of_cons {c : Char} {t : Text} (h : IsLine (c :: t)) :
    c ≠ '\n' ∧ c ≠ '\r' ∧ IsLine t :=
  ⟨fun hc => h.lineFeed (hc ▸ List.mem_cons_self),
    fun hc => h.carriageReturn (hc ▸ List.mem_cons_self),
    fun hmem => h.lineFeed (List.mem_cons_of_mem c hmem),
    fun hmem => h.carriageReturn (List.mem_cons_of_mem c hmem)⟩

/-- Many texts that can stand on one line can stand there one after the other. -/
theorem IsLine.flatMap {α : Type} {items : List α} {f : α → Text}
    (h : ∀ item ∈ items, IsLine (f item)) : IsLine (items.flatMap f) := by
  constructor
  · intro hmem
    obtain ⟨item, hitem, hlf⟩ := List.mem_flatMap.1 hmem
    exact (h item hitem).lineFeed hlf
  · intro hmem
    obtain ⟨item, hitem, hcr⟩ := List.mem_flatMap.1 hmem
    exact (h item hitem).carriageReturn hcr

/-- **The first line of a text ends at its first line feed**, unless a carriage return comes
before. -/
theorem splitLines_append_lineFeed {line : Text} (h : IsLine line) (rest : Text) :
    splitLines (line ++ '\n' :: rest) = line :: splitLines rest := by
  induction line with
  | nil => simp [splitLines]
  | cons c line ih =>
    obtain ⟨hlf, hcr, hline⟩ := h.of_cons
    rw [List.cons_append, splitLines.eq_3 _ _ (fun _ hc _ => hcr hc), if_neg (by simp [hcr, hlf]),
      ih hline]

/-- **Written lines are read as themselves.** -/
theorem splitLines_flatMap {lines : List Text} (h : ∀ line ∈ lines, IsLine line) :
    splitLines (lines.flatMap fun line => line ++ ['\n']) = lines := by
  induction lines with
  | nil => rfl
  | cons line lines ih =>
    obtain ⟨hline, hlines⟩ := List.forall_mem_cons.1 h
    rw [List.flatMap_cons, List.append_assoc, List.singleton_append,
      splitLines_append_lineFeed hline, ih hlines]

/-- The number of **line ends** in a text. CRLF is one line end. -/
def lineEnds : Text → Nat
  | [] => 0
  | '\r' :: '\n' :: rest => lineEnds rest + 1
  | c :: rest => if c = '\r' ∨ c = '\n' then lineEnds rest + 1 else lineEnds rest

theorem splitLines_eq_nil {text : Text} (h : splitLines text = []) : text = [] := by
  fun_induction splitLines text with
  | case1 => rfl
  | _ => cases h

/-- **Lines stay the same when the text goes on** behind a line feed. -/
theorem splitLines_prefix (text more : Text) :
    splitLines text <+: splitLines (text ++ '\n' :: more) := by
  fun_induction splitLines text with
  | case1 => exact List.nil_prefix
  | case2 rest ih => exact (List.prefix_cons_inj []).2 ih
  | case3 c rest hcrlf hend ih =>
    by_cases hlast : c = '\r' ∧ rest = []
    · -- the line feed now belongs to the line end
      obtain ⟨rfl, rfl⟩ := hlast
      exact List.prefix_append [[]] (splitLines more)
    · have hcrlf' : ∀ after, c = '\r' → rest ++ '\n' :: more = '\n' :: after → False := by
        intro after hc hrest
        cases rest with
        | nil => exact hlast ⟨hc, rfl⟩
        | cons d rest => exact hcrlf rest hc (by rw [(List.cons.inj hrest).1])
      rw [List.cons_append, splitLines.eq_3 _ _ hcrlf', if_pos hend]
      exact (List.prefix_cons_inj []).2 ih
  | case4 c rest hcrlf hend hrest ih =>
    obtain rfl := splitLines_eq_nil hrest
    have hc : c ≠ '\r' := fun hc => hend (.inl hc)
    rw [List.cons_append, splitLines.eq_3 _ _ (fun _ h _ => hc h), if_neg hend]
    exact List.prefix_append [[c]] (splitLines more)
  | case5 c rest hcrlf hend line lines hrest ih =>
    have hc : c ≠ '\r' := fun hc => hend (.inl hc)
    obtain ⟨others, hothers⟩ := hrest ▸ ih
    rw [List.cons_append, splitLines.eq_3 _ _ (fun _ h _ => hc h), if_neg hend, ← hothers]
    exact List.prefix_append _ others

/-- **A line stands in its text** between whole lines and a line end or the end of the text. -/
theorem exists_head_of_splitLines {text line : Text} {before after : List Text}
    (h : splitLines text = before ++ line :: after) :
    ∃ head tail, text = head ++ (line ++ tail) ∧ splitLines head = before ∧
      lineEnds head = before.length ∧ IsLine line ∧
      ∀ c ∈ tail.head?, c = '\r' ∨ c = '\n' := by
  fun_induction splitLines text generalizing before line with
  | case1 => simp at h
  | case2 rest ih =>
    cases before with
    | nil =>
      obtain ⟨rfl, -⟩ := List.cons.inj h
      exact ⟨[], '\r' :: '\n' :: rest, rfl, rfl, rfl, by decide, by simp⟩
    | cons first before =>
      obtain ⟨rfl, hrest⟩ := List.cons.inj h
      obtain ⟨head, tail, rfl, hhead, hends, hline, htail⟩ := ih hrest
      exact ⟨'\r' :: '\n' :: head, tail, rfl, by rw [splitLines, hhead],
        by rw [lineEnds, hends]; rfl, hline, htail⟩
  | case3 c rest hcrlf hend ih =>
    cases before with
    | nil =>
      obtain ⟨rfl, -⟩ := List.cons.inj h
      exact ⟨[], c :: rest, rfl, rfl, rfl, by decide, by simpa using hend⟩
    | cons first before =>
      obtain ⟨rfl, hrest⟩ := List.cons.inj h
      obtain ⟨head, tail, rfl, hhead, hends, hline, htail⟩ := ih hrest
      have hcrlf' : ∀ after, c = '\r' → head = '\n' :: after → False := by
        rintro after hc rfl
        exact hcrlf _ hc rfl
      refine ⟨c :: head, tail, rfl, ?_, ?_, hline, htail⟩
      · rw [splitLines.eq_3 _ _ hcrlf', if_pos hend, hhead]
      · rw [lineEnds.eq_3 _ _ hcrlf', if_pos hend, hends]
        rfl
  | case4 c rest hcrlf hend hrest ih =>
    obtain rfl := splitLines_eq_nil hrest
    cases before with
    | nil =>
      obtain ⟨rfl, -⟩ := List.cons.inj h
      rw [not_or] at hend
      exact ⟨[], [], rfl, rfl, rfl, .cons hend.2 hend.1 (by decide), by simp⟩
    | cons first before => simp at h
  | case5 c rest hcrlf hend first lines hrest ih =>
    have hc : c ≠ '\r' := fun hc => hend (.inl hc)
    cases before with
    | nil =>
      obtain ⟨rfl, rfl⟩ := List.cons.inj h
      have hfirst : splitLines rest = [] ++ first :: lines := hrest
      obtain ⟨head, tail, rfl, hhead, -, hline, htail⟩ := ih hfirst
      obtain rfl := splitLines_eq_nil hhead
      rw [not_or] at hend
      exact ⟨[], tail, rfl, rfl, rfl, .cons hend.2 hend.1 hline, htail⟩
    | cons second before =>
      obtain ⟨rfl, rfl⟩ := List.cons.inj h
      have hbefore : splitLines rest = (first :: before) ++ line :: after := hrest
      obtain ⟨head, tail, rfl, hhead, hends, hline, htail⟩ := ih hbefore
      refine ⟨c :: head, tail, rfl, ?_, ?_, hline, htail⟩
      · rw [splitLines.eq_3 _ _ (fun _ h _ => hc h), if_neg hend, hhead]
      · rw [lineEnds.eq_3 _ _ (fun _ h _ => hc h), if_neg hend, hends]
        rfl

/-- A text **ends in a line end** if nothing that follows it goes on with its last line. -/
def EndsLine (text : Text) : Prop := ∀ c ∈ text.getLast?, c = '\r' ∨ c = '\n'

theorem EndsLine.of_cons {c : Char} {text : Text} (h : EndsLine (c :: text)) : EndsLine text := by
  cases text with
  | nil => simp [EndsLine]
  | cons d text => simpa [EndsLine] using h

/-- **Texts are split separately** behind a line end, unless a carriage return and a line feed
stand side by side there. -/
theorem splitLines_append {head rest : Text} (hhead : EndsLine head)
    (hcrlf : rest.head? ≠ some '\n') :
    splitLines (head ++ rest) = splitLines head ++ splitLines rest := by
  fun_induction splitLines head with
  | case1 => rfl
  | case2 head ih =>
    rw [List.cons_append, List.cons_append, splitLines, ih hhead.of_cons.of_cons, List.cons_append]
  | case3 c head hnot hend ih =>
    have hnot' : ∀ after, c = '\r' → head ++ rest = '\n' :: after → False := by
      intro after hc heq
      cases head with
      | nil =>
        rw [List.nil_append] at heq
        rw [heq] at hcrlf
        exact hcrlf rfl
      | cons d head =>
        obtain ⟨rfl, -⟩ := List.cons.inj heq
        exact hnot head hc rfl
    rw [List.cons_append, splitLines.eq_3 _ _ hnot', if_pos hend, ih hhead.of_cons,
      List.cons_append]
  | case4 c head hnot hend hnil ih =>
    obtain rfl := splitLines_eq_nil hnil
    exact absurd (hhead c rfl) hend
  | case5 c head hnot hend line lines hlines ih =>
    have hc : c ≠ '\r' := fun hc => hend (.inl hc)
    rw [List.cons_append, splitLines.eq_3 _ _ (fun _ h _ => hc h), if_neg hend, ih hhead.of_cons,
      hlines]
    rfl

/-- A text that begins with a line end has an empty first line. -/
theorem eq_nil_of_mem_head?_splitLines {text line : Text}
    (htext : ∀ c ∈ text.head?, c = '\r' ∨ c = '\n') (h : line ∈ (splitLines text).head?) :
    line = [] := by
  fun_cases splitLines text with
  | case1 => simp [splitLines] at h
  | case2 rest => simpa [splitLines, eq_comm] using h
  | case3 c rest hnot hend =>
    rw [splitLines.eq_3 _ _ hnot, if_pos hend] at h
    simpa [eq_comm] using h
  | case4 c rest hnot hend => exact absurd (htext c rfl) hend
  | case5 c rest hnot hend => exact absurd (htext c rfl) hend

/-- **A line in front of a line end**, or of the end of the text, is the first line of the text, and
the lines behind it do not depend on it. -/
theorem splitLines_line_append {line tail : Text} (h : IsLine line) (hne : line ≠ [])
    (htail : ∀ c ∈ tail.head?, c = '\r' ∨ c = '\n') :
    splitLines (line ++ tail) = line :: (splitLines tail).tail := by
  induction line with
  | nil => exact absurd rfl hne
  | cons c line ih =>
    obtain ⟨hlf, hcr, hline⟩ := h.of_cons
    rw [List.cons_append, splitLines.eq_3 _ _ (fun _ hc _ => hcr hc), if_neg (by simp [hcr, hlf])]
    cases line with
    | nil =>
      rw [List.nil_append]
      cases hlines : splitLines tail with
      | nil => rfl
      | cons first lines =>
        obtain rfl := eq_nil_of_mem_head?_splitLines htail (hlines ▸ rfl : first ∈ _)
        rfl
    | cons d line =>
      rw [ih hline (List.cons_ne_nil d line)]

end BoundReport
