import BoundReport.Proofs.Tags

/-!
# Parts of a Filled-in Line

A line into which cells have been filled in consists of **parts**: text of the template and
text of cells. The text of the template between two cells is a **stretch**. The tags of the
stretches are tags of the line, whatever the cells hold; the line has further tags only where
a tag **touches** a cell.

## Main results

* `sublist_tags_partsText`: the tags of the stretches are among those of the line, in order.
* `filterMap_tags_partsText_eq_iff`: they are all that matter just if no tag that matters touches
  a cell.
* `stretches_congr`: the stretches do not depend on the cells.
-/

namespace BoundReport

/-- A part of a filled-in line: text of the template, or the text of a cell. -/
inductive Part
  | template (text : Text)
  | cell (text : Text)
  deriving DecidableEq, Repr

namespace Part

/-- The text of a part. -/
def text : Part → Text
  | .template text => text
  | .cell text => text

/-- The text of a part of the template. -/
def template? : Part → Option Text
  | .template text => some text
  | .cell _ => none

end Part

/-- The text of parts put together. -/
def partsText (parts : List Part) : Text := parts.flatMap Part.text

/-- The **stretches** of a line: the texts of the template before, between and behind its cells,
when `current` is the part of the first one that has been read. -/
def stretches (current : Text) : List Part → List Text
  | [] => [current]
  | .template text :: rest => stretches (current ++ text) rest
  | .cell _ :: rest => current :: stretches [] rest

/-- Where the cells of a line begin and end, when its parts begin at `start`. -/
def cellSpans (start : Nat) : List Part → List (Nat × Nat)
  | [] => []
  | .template text :: rest => cellSpans (start + text.length) rest
  | .cell text :: rest => (start, start + text.length) :: cellSpans (start + text.length) rest

/-- A tag **touches** a span of a text if it begins before the end of the span and ends behind its
beginning. An empty span is touched by a tag that goes across it. -/
def Tag.Touches (tag : Tag) (text : Text) (spans : List (Nat × Nat)) : Prop :=
  tag.Written ∧ ∃ before after, text = before ++ tag.raw ++ after ∧
    ∃ span ∈ spans, before.length < span.2 ∧ span.1 < before.length + tag.raw.length

/-- The stretches do not depend on the cells. -/
theorem stretches_congr {parts₁ parts₂ : List Part}
    (h : parts₁.map Part.template? = parts₂.map Part.template?) (current : Text) :
    stretches current parts₁ = stretches current parts₂ := by
  induction parts₁ generalizing parts₂ current with
  | nil =>
    cases parts₂ with
    | nil => rfl
    | cons => cases h
  | cons first rest ih =>
    cases parts₂ with
    | nil => cases h
    | cons first₂ rest₂ =>
      obtain ⟨hfirst, hrest⟩ := List.cons.inj h
      match first, first₂, hfirst with
      | .template text, .template _, hfirst =>
        cases hfirst
        exact ih hrest (current ++ text)
      | .cell _, .cell _, _ => exact congrArg (current :: ·) (ih hrest [])

/-! ### Spans -/

/-- Spans move along with the beginning of their parts. -/
theorem cellSpans_add (start more : Nat) (parts : List Part) :
    cellSpans (start + more) parts =
      (cellSpans more parts).map fun span => (start + span.1, start + span.2) := by
  induction parts generalizing more with
  | nil => rfl
  | cons first rest ih =>
    cases first with
    | template text => rw [cellSpans, cellSpans, Nat.add_assoc, ih]
    | cell text =>
      rw [cellSpans, cellSpans, Nat.add_assoc, ih]
      rfl

/-- A tag touches a cell behind a text, or one further on, just if it straddles the beginning of
the cell, stands in the cell, straddles its end, or touches one of the others. -/
theorem touches_cell_iff {tag : Tag} {current cell rest : Text} {spans : List (Nat × Nat)} :
    tag.Touches (current ++ (cell ++ rest))
        ((current.length, current.length + cell.length) ::
          spans.map fun span =>
            (current.length + cell.length + span.1, current.length + cell.length + span.2)) ↔
      tag.Straddles current (cell ++ rest) ∨ tag ∈ tags cell ∨ tag.Straddles cell rest ∨
        tag.Touches rest spans := by
  constructor
  · rintro ⟨hwritten, before, after, htext, span, hspan, hstart, hend⟩
    -- the tag ends behind the beginning of the cell in any case
    have hbehind : current.length < before.length + tag.raw.length := by
      rcases List.mem_cons.1 hspan with rfl | hspan
      · exact hend
      · obtain ⟨other, -, rfl⟩ := List.mem_map.1 hspan
        simp only at hend
        omega
    by_cases hfirst : before.length < current.length
    · exact .inl (Tag.straddles_iff.2 ⟨hwritten, before, after, htext, hfirst, hbehind⟩)
    rw [List.append_assoc] at htext
    obtain ⟨m, rfl, htail⟩ := exists_append_of_length_le htext (Nat.le_of_not_lt hfirst)
    rw [List.length_append] at hstart hend
    by_cases hcell : m.length < cell.length
    · rw [← List.append_assoc] at htail
      by_cases hover : cell.length < m.length + tag.raw.length
      · exact .inr (.inr (.inl (Tag.straddles_iff.2 ⟨hwritten, m, after, htail, hcell, hover⟩)))
      · obtain ⟨k, hk, -⟩ := exists_append_of_length_le htail.symm
          (by rw [List.length_append]; omega)
        exact .inr (.inl (mem_tags_iff.2 ⟨hwritten, m, k, hk⟩))
    · obtain ⟨k, rfl, hrest⟩ := exists_append_of_length_le htail (Nat.le_of_not_lt hcell)
      rw [List.length_append] at hstart hend
      rcases List.mem_cons.1 hspan with rfl | hspan
      · simp only at hstart
        omega
      · obtain ⟨other, hother, rfl⟩ := List.mem_map.1 hspan
        simp only at hstart hend
        exact .inr (.inr (.inr ⟨hwritten, k, after, by rw [hrest, List.append_assoc], other, hother,
          by omega, by omega⟩))
  · rintro (hstraddles | hmem | hstraddles | htouches)
    · obtain ⟨hwritten, before, after, htext, hstart, hend⟩ := Tag.straddles_iff.1 hstraddles
      exact ⟨hwritten, before, after, htext, _, List.mem_cons_self, by simp only; omega, hend⟩
    · obtain ⟨hwritten, before, after, rfl⟩ := mem_tags_iff.1 hmem
      have hpos := List.length_pos_iff.2 hwritten.raw_ne_nil
      refine ⟨hwritten, current ++ before, after ++ rest, by simp, _, List.mem_cons_self, ?_, ?_⟩
      · simp only [List.length_append]; omega
      · simp only [List.length_append]; omega
    · obtain ⟨hwritten, before, after, htext, hstart, hend⟩ := Tag.straddles_iff.1 hstraddles
      refine ⟨hwritten, current ++ before, after, by simp [htext], _, List.mem_cons_self, ?_, ?_⟩
      · simp only [List.length_append]; omega
      · simp only [List.length_append]; omega
    · obtain ⟨hwritten, before, after, rfl, span, hspan, hstart, hend⟩ := htouches
      refine ⟨hwritten, current ++ cell ++ before, after, by simp, _,
        List.mem_cons_of_mem _ (List.mem_map_of_mem hspan), ?_, ?_⟩
      · simp only [List.length_append]; omega
      · simp only [List.length_append]; omega

/-! ### The tags of a line -/

/-- The tags of a line with a cell: those before the cell, those that touch the cell, and those
behind it. -/
theorem exists_tags_append_cell (current cell rest : Text) :
    ∃ touching, tags (current ++ (cell ++ rest)) = tags current ++ touching ++ tags rest ∧
      ∀ tag, tag ∈ touching ↔
        tag.Straddles current (cell ++ rest) ∨ tag ∈ tags cell ∨ tag.Straddles cell rest := by
  obtain ⟨first, hfirst, hfirst'⟩ := exists_tags_append current (cell ++ rest)
  obtain ⟨last, hlast, hlast'⟩ := exists_tags_append cell rest
  refine ⟨first.toList ++ tags cell ++ last.toList, by simp [hfirst, hlast], fun tag => ?_⟩
  simp [hfirst', hlast']

/-- **The tags of the stretches are tags of the line**, in the same order. -/
theorem sublist_tags_partsText (parts : List Part) (current : Text) :
    ((stretches current parts).flatMap tags).Sublist (tags (current ++ partsText parts)) := by
  induction parts generalizing current with
  | nil => simp [stretches, partsText]
  | cons first rest ih =>
    cases first with
    | template text =>
      rw [stretches, partsText, List.flatMap_cons, ← List.append_assoc]
      exact ih (current ++ text)
    | cell text =>
      obtain ⟨touching, htags, -⟩ := exists_tags_append_cell current text (partsText rest)
      have hrest := ih []
      rw [List.nil_append] at hrest
      have hline : current ++ partsText (.cell text :: rest) =
          current ++ (text ++ partsText rest) := rfl
      rw [hline, htags, stretches, List.flatMap_cons]
      exact (List.sublist_append_left _ touching).append hrest

/-- **The tags of the stretches are all that matter just if no tag that matters touches a cell.** -/
theorem filterMap_tags_partsText_eq_iff {β : Type} (p : Tag → Option β) (parts : List Part)
    (current : Text) :
    (tags (current ++ partsText parts)).filterMap p =
        ((stretches current parts).flatMap tags).filterMap p ↔
      ∀ tag : Tag, tag.Touches (current ++ partsText parts) (cellSpans current.length parts) →
        p tag = none := by
  induction parts generalizing current with
  | nil => simp [stretches, partsText, cellSpans, Tag.Touches]
  | cons first rest ih =>
    cases first with
    | template text =>
      have hline : current ++ partsText (.template text :: rest) =
          current ++ text ++ partsText rest := by simp [partsText, Part.text]
      rw [hline, stretches, ih, cellSpans, List.length_append]
    | cell text =>
      obtain ⟨touching, htags, htouching⟩ :=
        exists_tags_append_cell current text (partsText rest)
      have hline : current ++ partsText (.cell text :: rest) =
          current ++ (text ++ partsText rest) := rfl
      have hsub := (sublist_tags_partsText rest []).filterMap p
      have hrest := ih []
      rw [List.nil_append] at hsub hrest
      rw [List.length_nil] at hrest
      have hspans := cellSpans_add (current.length + text.length) 0 rest
      rw [Nat.add_zero] at hspans
      rw [hline, htags, stretches, List.flatMap_cons, cellSpans, hspans]
      simp only [touches_cell_iff, List.filterMap_append, List.append_assoc,
        List.append_cancel_left_eq]
      constructor
      · intro heq tag htag
        -- the tags behind the cell already have the tags of the stretches among them
        have hlen := congrArg List.length heq
        rw [List.length_append] at hlen
        have hle := hsub.length_le
        have hnil : touching.filterMap p = [] := List.length_eq_zero_iff.1 (by omega)
        rw [hnil, List.nil_append] at heq
        rcases htag with hstraddles | hmem | hstraddles | htouches
        · exact List.filterMap_eq_nil_iff.1 hnil tag ((htouching tag).2 (.inl hstraddles))
        · exact List.filterMap_eq_nil_iff.1 hnil tag ((htouching tag).2 (.inr (.inl hmem)))
        · exact List.filterMap_eq_nil_iff.1 hnil tag ((htouching tag).2 (.inr (.inr hstraddles)))
        · exact hrest.1 heq tag htouches
      · intro hnone
        have hnil : touching.filterMap p = [] := by
          refine List.filterMap_eq_nil_iff.2 fun tag hmem => hnone tag ?_
          rcases (htouching tag).1 hmem with hstraddles | hmem | hstraddles
          · exact .inl hstraddles
          · exact .inr (.inl hmem)
          · exact .inr (.inr (.inl hstraddles))
        rw [hnil, List.nil_append]
        exact hrest.2 fun tag htouches => hnone tag (.inr (.inr (.inr htouches)))

end BoundReport
