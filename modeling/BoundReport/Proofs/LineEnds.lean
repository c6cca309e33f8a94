import BoundReport.Proofs.Lines

/-!
# Line Ends

A line may end in a line feed, in a carriage return, or in both. Splitting a text into lines does
not tell which, and writing lines gives each of them a line feed. So a document comes back from
its written form, and a text comes back from its document up to the ends of its lines.

## Main results

* `splitLines_withLineFeeds`: the lines of a text do not depend on how they end.
* `flatMap_splitLines`: the lines of a text, written, are the text with line feeds.
* `ofText_inverse_toText`: reading and writing a document undo each other up to line ends.
-/

namespace BoundReport

/-- The text with a line feed for each of its line ends. CRLF is one line end. -/
def withLineFeeds : Text → Text
  | [] => []
  | '\r' :: '\n' :: rest => '\n' :: withLineFeeds rest
  | c :: rest => (if c = '\r' then '\n' else c) :: withLineFeeds rest

/-- The text with `lineEnd` for each of its line feeds. -/
def replaceLineFeeds (lineEnd text : Text) : Text :=
  text.flatMap fun c => if c = '\n' then lineEnd else [c]

instance (text : Text) : Decidable (EndsLine text) :=
  text.getLast?.decidableForallMem

/-! ### Texts with line feeds -/

/-- **The lines of a text do not depend on how they end.** -/
theorem splitLines_withLineFeeds (text : Text) :
    splitLines (withLineFeeds text) = splitLines text := by
  fun_induction withLineFeeds text with
  | case1 => rfl
  | case2 rest ih => simp [splitLines, ih]
  | case3 c rest hcrlf ih =>
    rw [splitLines.eq_3 _ _ hcrlf]
    by_cases hc : c = '\r'
    · simp [splitLines, hc, ih]
    · rw [if_neg hc, splitLines.eq_3 _ _ (fun _ h _ => hc h), ih]

/-- What ends a text ends it also behind more. -/
theorem endsLine_cons_iff {c : Char} {rest : Text} (h : (c = '\r' ∨ c = '\n') ∨ rest ≠ []) :
    EndsLine (c :: rest) ↔ EndsLine rest := by
  cases rest with
  | nil => simpa [EndsLine] using h
  | cons d rest => simp [EndsLine]

/-- **The lines of a text, written, are the text with line feeds**, and with one more at its end if
its last line had no line end. -/
theorem flatMap_splitLines (text : Text) :
    (splitLines text).flatMap (fun line => line ++ ['\n']) =
      withLineFeeds text ++ if EndsLine text then [] else ['\n'] := by
  fun_induction splitLines text with
  | case1 => rfl
  | case2 rest ih =>
    have hends : EndsLine ('\r' :: '\n' :: rest) ↔ EndsLine rest := by
      rw [endsLine_cons_iff (.inr (List.cons_ne_nil _ _)), endsLine_cons_iff (.inl (.inr rfl))]
    simp [withLineFeeds, ih, hends]
  | case3 c rest hcrlf hend ih =>
    rw [withLineFeeds.eq_3 _ _ hcrlf]
    simp only [endsLine_cons_iff (.inl hend), List.flatMap_cons, ih]
    rcases hend with rfl | rfl <;> rfl
  | case4 c rest hcrlf hend hrest ih =>
    obtain rfl := splitLines_eq_nil hrest
    rw [not_or] at hend
    simp [withLineFeeds, EndsLine, hend]
  | case5 c rest hcrlf hend line lines hlines ih =>
    have hne : rest ≠ [] := by
      rintro rfl
      cases hlines
    rw [not_or] at hend
    rw [withLineFeeds.eq_3 _ _ hcrlf, if_neg hend.1]
    simp only [endsLine_cons_iff (.inr hne)]
    rw [hlines] at ih
    exact congrArg (c :: ·) ih

/-! ### Texts with other line ends -/

/-- Line feeds that are replaced leave none in front. -/
theorem head?_replaceLineFeeds {lineEnd : Text} (h : lineEnd.head? = some '\r') (text : Text) :
    (replaceLineFeeds lineEnd text).head? ≠ some '\n' := by
  cases text with
  | nil => simp [replaceLineFeeds]
  | cons c rest =>
    obtain ⟨more, rfl⟩ := List.head?_eq_some_iff.1 h
    by_cases hc : c = '\n' <;> simp [replaceLineFeeds, hc]

/-- A carriage return is a line end, unless a line feed follows. -/
theorem withLineFeeds_carriageReturn {rest : Text} (h : rest.head? ≠ some '\n') :
    withLineFeeds ('\r' :: rest) = '\n' :: withLineFeeds rest := by
  rw [withLineFeeds.eq_3, if_pos rfl]
  rintro more - rfl
  exact h rfl

/-- **Line feeds that are replaced can be put back** if they are the only line ends. -/
theorem withLineFeeds_replaceLineFeeds {lineEnd text : Text}
    (hlineEnd : lineEnd ∈ [['\r', '\n'], ['\r']]) (h : '\r' ∉ text) :
    withLineFeeds (replaceLineFeeds lineEnd text) = text := by
  induction text with
  | nil => rfl
  | cons c rest ih =>
    rw [List.mem_cons, not_or] at h
    have hreplace : replaceLineFeeds lineEnd (c :: rest) =
        (if c = '\n' then lineEnd else [c]) ++ replaceLineFeeds lineEnd rest := rfl
    rw [hreplace]
    by_cases hc : c = '\n'
    · rw [if_pos hc, hc]
      simp only [List.mem_cons, List.not_mem_nil, or_false] at hlineEnd
      rcases hlineEnd with rfl | rfl
      · exact congrArg ('\n' :: ·) (ih h.2)
      · exact (withLineFeeds_carriageReturn (head?_replaceLineFeeds rfl rest)).trans
          (congrArg ('\n' :: ·) (ih h.2))
    · rw [if_neg hc, List.singleton_append, withLineFeeds.eq_3 _ _ fun _ heq _ => h.1 heq.symm,
        if_neg (Ne.symm h.1), ih h.2]

/-! ### Documents -/

namespace Document

/-- The written form of a document of text lines. -/
theorem toText_map_text (lines : List Text) :
    toText (lines.map Line.text) = lines.flatMap fun line => line ++ ['\n'] :=
  List.flatMap_map ..

/-- **Reading and writing a document undo each other** up to line ends. A document of lines is read
from its written form as it is. A text is written with a line feed for each of its line ends, and
with one for its last line if that had no line end. A text whose line ends are all line feeds has
the same lines with other line ends in their place. -/
theorem ofText_inverse_toText :
    (∀ lines : List Text, (∀ line ∈ lines, IsLine line) →
      ofText (toText (lines.map Line.text)) = lines.map Line.text) ∧
    (∀ text, toText (ofText text) =
      withLineFeeds text ++ if EndsLine text then [] else ['\n']) ∧
    ∀ lineEnd ∈ [['\r', '\n'], ['\r']], ∀ text, '\r' ∉ text →
      ofText (replaceLineFeeds lineEnd text) = ofText text := by
  refine ⟨fun lines hlines => ?_, fun text => ?_, fun lineEnd hlineEnd text hcr => ?_⟩
  · rw [toText_map_text, ofText, splitLines_flatMap hlines]
  · rw [ofText, toText_map_text, flatMap_splitLines]
  · rw [ofText, ofText, ← splitLines_withLineFeeds (replaceLineFeeds lineEnd text),
      withLineFeeds_replaceLineFeeds hlineEnd hcr]

-- line ends of all kinds, and none behind the last line
example : toText (ofText "a\r\nb\r\r\nc\n\rd") = "a\nb\n\nc\n\nd\n".toList := by decide +kernel

/-- Lines of which some are blank, the last two among them. -/
def blankLines : List Text := ["a", "", "b", "", ""]

/-- No blank line is lost, neither when the lines are written nor when they end otherwise. -/
theorem ofText_inverse_toText_blankLines :
    (∀ line ∈ blankLines, IsLine line) ∧
      ofText (toText (blankLines.map Line.text)) = blankLines.map Line.text ∧
      ['\r'] ∈ [['\r', '\n'], ['\r']] ∧ '\r' ∉ toText (blankLines.map Line.text) ∧
      ofText (replaceLineFeeds ['\r'] (toText (blankLines.map Line.text))) =
        blankLines.map Line.text := by
  have hlines : ∀ line ∈ blankLines, IsLine line := by decide
  have hend : ['\r'] ∈ [['\r', '\n'], ['\r']] := by decide
  have hcr : '\r' ∉ toText (blankLines.map Line.text) := by decide
  obtain ⟨hread, -, hreplace⟩ := ofText_inverse_toText
  exact ⟨hlines, hread blankLines hlines, hend, hcr,
    (hreplace ['\r'] hend _ hcr).trans (hread blankLines hlines)⟩

end Document

end BoundReport
