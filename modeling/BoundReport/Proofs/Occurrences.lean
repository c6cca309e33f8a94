import BoundReport.Proofs.Bytes
import BoundReport.Proofs.Tags

/-!
# Where the Tags of a Text Stand

Tags are found on the lexemes of a text, and the pairs of braces in long runs are moved about
before. What is found can be told from the characters alone. A tag **occurs** at a place if its
written form stands there. Of all occurrences the leftmost one is found, then the leftmost one
behind its end, and so on until none is left. Places are counted in UTF-8 bytes.

## Main results

* `Tag.OccursAt.unique`: no two tags occur at one place.
* `leftmost_of_reads`: reading a text from the left finds its leftmost occurrences.
* `locateTags_leftmost`: the tags of a text are its leftmost occurrences, and no others.
-/

namespace BoundReport

/-! ### Occurrences -/

/-- A tag **occurs** at a place of a text if it is a written one and stands there. -/
def Tag.OccursAt (tag : Tag) (place : Nat) (text : Text) : Prop :=
  tag.Written ∧ ∃ before after, text = before ++ tag.raw ++ after ∧ Text.width before = place

/-- No two tags begin with one text. -/
theorem Tag.Written.eq_of_append_eq {tag₁ tag₂ : Tag} (h₁ : tag₁.Written) (h₂ : tag₂.Written)
    {after₁ after₂ : Text} (h : tag₁.raw ++ after₁ = tag₂.raw ++ after₂) : tag₁ = tag₂ := by
  have hread := atoms_tag_append h₁ after₁
  rw [h, atoms_tag_append h₂] at hread
  obtain ⟨htag, -⟩ := List.cons.inj hread
  exact (Atom.tag.inj htag).symm

/-- **No two tags occur at one place.** -/
theorem Tag.OccursAt.unique {tag₁ tag₂ : Tag} {place : Nat} {text : Text}
    (h₁ : tag₁.OccursAt place text) (h₂ : tag₂.OccursAt place text) : tag₁ = tag₂ := by
  obtain ⟨hwritten₁, before₁, after₁, rfl, rfl⟩ := h₁
  obtain ⟨hwritten₂, before₂, after₂, htext, hplace⟩ := h₂
  rw [List.append_assoc, List.append_assoc] at htext
  obtain ⟨-, hrest⟩ := Text.append_inj_of_width htext hplace.symm
  exact hwritten₁.eq_of_append_eq hwritten₂ hrest

/-- The **leftmost occurrences** of tags in a text from a place on: of those that begin there or
behind it the one with the least place, and then those from its end on. -/
inductive Leftmost (text : Text) : Nat → List (Nat × Tag) → Prop
  | none {start : Nat} (hnone : ∀ (tag : Tag) place, tag.OccursAt place text → place < start) :
      Leftmost text start []
  | first {start place : Nat} {tag : Tag} {found : List (Nat × Tag)}
      (hoccurs : tag.OccursAt place text) (hstart : start ≤ place)
      (hleast : ∀ (other : Tag) place', other.OccursAt place' text → start ≤ place' →
        place ≤ place')
      (hrest : Leftmost text (place + Text.width tag.raw) found) :
      Leftmost text start ((place, tag) :: found)

namespace Leftmost

variable {text : Text} {start : Nat} {found found₁ found₂ : List (Nat × Tag)}

/-- A text has its leftmost occurrences in one way only. -/
theorem unique (h₁ : Leftmost text start found₁) (h₂ : Leftmost text start found₂) :
    found₁ = found₂ := by
  induction h₁ generalizing found₂ with
  | none hnone =>
    cases h₂ with
    | none => rfl
    | first hoccurs hstart => exact absurd (hnone _ _ hoccurs) (Nat.not_lt.2 hstart)
  | first hoccurs hstart hleast _ ih =>
    cases h₂ with
    | none hnone => exact absurd (hnone _ _ hoccurs) (Nat.not_lt.2 hstart)
    | first hoccurs' hstart' hleast' hrest' =>
      obtain rfl := Nat.le_antisymm (hleast _ _ hoccurs' hstart') (hleast' _ _ hoccurs hstart)
      obtain rfl := hoccurs.unique hoccurs'
      rw [ih hrest']

/-- Places at which no tag begins may be passed over. -/
theorem of_skip {later : Nat} (h : Leftmost text later found) (hle : start ≤ later)
    (hskip : ∀ (tag : Tag) place, tag.OccursAt place text → start ≤ place → later ≤ place) :
    Leftmost text start found := by
  cases h with
  | none hnone =>
    refine .none fun tag place hoccurs => Nat.lt_of_not_le fun hplace => ?_
    exact absurd (hnone tag place hoccurs) (Nat.not_lt.2 (hskip tag place hoccurs hplace))
  | first hoccurs hstart hleast hrest =>
    refine .first hoccurs (hle.trans hstart) (fun other place' hother hplace => ?_) hrest
    exact hleast other place' hother (hskip other place' hother hplace)

/-- The leftmost occurrences are occurrences. -/
theorem occursAt (h : Leftmost text start found) {place : Nat} {tag : Tag}
    (hmem : (place, tag) ∈ found) : tag.OccursAt place text := by
  induction h with
  | none => cases hmem
  | first hoccurs _ _ _ ih =>
    rcases List.mem_cons.1 hmem with heq | hmem
    · cases heq
      exact hoccurs
    · exact ih hmem

end Leftmost

/-! ### Readings with places -/

/-- The tags among atoms, each with the place at which it begins when the atoms begin at
`start`. -/
def locateAtoms (start : Nat) : List Atom → List (Nat × Tag)
  | [] => []
  | .char c :: rest => locateAtoms (start + c.utf8Size) rest
  | .tag found :: rest => (start, found) :: locateAtoms (start + Text.width found.raw) rest

theorem locateAtoms_map_char (start : Nat) (text : Text) (rest : List Atom) :
    locateAtoms start (text.map .char ++ rest) = locateAtoms (start + Text.width text) rest := by
  induction text generalizing start with
  | nil => rfl
  | cons c text ih =>
    rw [List.map_cons, List.cons_append, locateAtoms, ih, Text.width_cons, Nat.add_assoc]

/-- The places of tags among fragments are those among their atoms. -/
theorem locateTags_eq_locateAtoms (start : Nat) (found : List Fragment) :
    locateTags start found = locateAtoms start (found.flatMap Atom.ofFragment) := by
  induction found generalizing start with
  | nil => rfl
  | cons fragment rest ih =>
    cases fragment with
    | literal text =>
      rw [locateTags, List.flatMap_cons, Atom.ofFragment, locateAtoms_map_char, ih]
    | tag tag => exact congrArg (_ :: ·) (ih _)

theorem locateTags_fragments (start : Nat) (text : Text) :
    locateTags start (fragments text) = locateAtoms start (atoms text) :=
  locateTags_eq_locateAtoms start (fragments text)

/-- No tag begins at a character that is read as itself: an occurrence from its place on begins
behind it. -/
theorem Tag.OccursAt.le_of_not_written {tag : Tag} {place : Nat} {front rest : Text} {c : Char}
    (h : tag.OccursAt place (front ++ c :: rest))
    (hnone : ∀ tag after, Tag.Written tag → c :: rest ≠ tag.raw ++ after)
    (hle : Text.width front ≤ place) : Text.width front + c.utf8Size ≤ place := by
  obtain ⟨hwritten, before, after, htext, rfl⟩ := h
  rw [List.append_assoc] at htext
  obtain ⟨m, rfl, hrest⟩ := Text.exists_append_of_width_le htext hle
  cases m with
  | nil => exact absurd hrest (hnone tag after hwritten)
  | cons d m =>
    obtain ⟨rfl, -⟩ := List.cons.inj hrest
    rw [Text.width_append, Text.width_cons]
    omega

/-- **Reading a text from the left finds its leftmost occurrences**, from the place on at which
the reading begins. -/
theorem leftmost_of_reads {text rest : Text} {found : List Atom} (h : Reads rest found)
    (front : Text) (htext : text = front ++ rest) :
    Leftmost text (Text.width front) (locateAtoms (Text.width front) found) := by
  induction h generalizing front with
  | nil =>
    refine .none fun tag place ⟨hwritten, before, after, heq, hplace⟩ => ?_
    have hpos := Text.width_pos hwritten.raw_ne_nil
    have hwidth := congrArg Text.width (htext.symm.trans heq)
    simp only [Text.width_append, Text.width_nil] at hwidth
    omega
  | @tag tag rest found hwritten _ ih =>
    have hrest := ih (front ++ tag.raw) (by rw [htext, List.append_assoc])
    rw [Text.width_append] at hrest
    refine .first ⟨hwritten, front, rest, by rw [htext, List.append_assoc], rfl⟩ le_rfl ?_ hrest
    exact fun _ _ _ hplace => hplace
  | @char c rest found hnone _ ih =>
    have hrest := ih (front ++ [c]) (by rw [htext, List.append_assoc, List.singleton_append])
    rw [Text.width_append, Text.width_cons, Text.width_nil, Nat.add_zero] at hrest
    refine hrest.of_skip (Nat.le_add_right _ _) fun tag place hoccurs hplace => ?_
    rw [htext] at hoccurs
    exact hoccurs.le_of_not_written hnone hplace

/-- The tags that are found in a text are its leftmost occurrences. -/
theorem leftmost_locateTags (text : Text) : Leftmost text 0 (locateTags 0 (fragments text)) := by
  rw [locateTags_fragments]
  exact leftmost_of_reads (reads_atoms text) [] rfl

theorem map_snd_locateTags (start : Nat) (found : List Fragment) :
    (locateTags start found).map Prod.snd = found.filterMap Fragment.tag? := by
  induction found generalizing start with
  | nil => rfl
  | cons fragment rest ih =>
    cases fragment with
    | literal text => exact ih _
    | tag tag => exact congrArg (tag :: ·) (ih _)

/-- Opening braces alone hold no tag. -/
theorem tags_replicate_brace (count : Nat) : tags (List.replicate count '{') = [] := by
  refine List.eq_nil_iff_forall_not_mem.2 fun tag hmem => ?_
  obtain ⟨hwritten, before, after, htext⟩ := mem_tags_iff.1 hmem
  have hlast : '}' ∈ List.replicate count '{' := by
    rw [htext]
    simp [List.mem_of_getLast? hwritten.getLast?_raw]
  exact absurd (List.eq_of_mem_replicate hlast) (by decide)

theorem width_replicate_brace (count : Nat) : Text.width (List.replicate count '{') = count := by
  have hbrace : '{'.utf8Size = 1 := by decide
  induction count with
  | zero => rfl
  | succ count ih => rw [List.replicate_succ, Text.width_cons, ih, hbrace, Nat.add_comm]

/-- **In a run of opening braces the last two belong to the tag**, however long the run is. -/
theorem locateTags_replicate_brace {tag : Tag} (h : tag.Written) (count : Nat) (rest : Text) :
    locateTags 0 (fragments (List.replicate count '{' ++ (tag.raw ++ rest))) =
      (count, tag) :: locateTags (count + Text.width tag.raw) (fragments rest) := by
  have hnot (other : Tag) :
      ¬ other.Straddles (List.replicate count '{') (tag.raw ++ rest) := by
    obtain ⟨body, hraw, -⟩ := h.exists_body
    exact not_straddles_braces (by simp [hraw]) (by simp [hraw])
  rw [locateTags_fragments, locateTags_fragments, atoms_append_of_not_straddles hnot,
    atoms_of_tags_eq_nil (tags_replicate_brace count), locateAtoms_map_char,
    atoms_tag_append h, locateAtoms, width_replicate_brace, Nat.zero_add]

/-- **The tags of a text are its leftmost occurrences**, from its beginning on, and there are none
just if no tag occurs. Each is a written tag, and its text is cut out of the text at its place. An
occurrence may begin with the last two braces of a longer run. -/
theorem locateTags_leftmost (text : Text) :
    (∀ found, locateTags 0 (fragments text) = found ↔ Leftmost text 0 found) ∧
      (locateTags 0 (fragments text)).map Prod.snd = tags text ∧
      (tags text = [] ↔ ∀ (tag : Tag) place, ¬ tag.OccursAt place text) ∧
      (∀ place tag, (place, tag) ∈ locateTags 0 (fragments text) → tag.Written ∧
        (Text.utf8 text).extract place (place + Text.width tag.raw) = Text.utf8 tag.raw) ∧
      ∀ count (tag : Tag) rest, tag.Written → text = List.replicate count '{' ++ (tag.raw ++ rest) →
        locateTags 0 (fragments text) =
          (count, tag) :: locateTags (count + Text.width tag.raw) (fragments rest) := by
  refine ⟨fun found => ⟨?_, (leftmost_locateTags text).unique⟩, map_snd_locateTags 0 _, ?_,
    fun place tag hmem => ?_, ?_⟩
  · rintro rfl
    exact leftmost_locateTags text
  · rw [List.eq_nil_iff_forall_not_mem]
    constructor
    · rintro hnone tag _ ⟨hwritten, before, after, htext, -⟩
      exact hnone tag (mem_tags_iff.2 ⟨hwritten, before, after, htext⟩)
    · intro hnone tag hmem
      obtain ⟨hwritten, before, after, htext⟩ := mem_tags_iff.1 hmem
      exact hnone tag _ ⟨hwritten, before, after, htext, rfl⟩
  · obtain ⟨hwritten, before, after, rfl, rfl⟩ := (leftmost_locateTags text).occursAt hmem
    exact ⟨hwritten, Text.extract_utf8 before tag.raw after⟩
  · rintro count tag rest hwritten rfl
    exact locateTags_replicate_brace hwritten count rest

/-- A failed opening, a tag in a run of five braces and with a brace too many behind it, and a
second tag that touches it and holds a line break. -/
example : (locateTags 0 (fragments ("é\x7b\x7b \x7b\x7b\x7b\x7b\x7b a.b \x7d\x7d\x7d" ++
      "\x7b\x7b\nc.d \x7d\x7d"))).map (fun found => (found.1, Text.toString found.2.raw)) =
    [(8, "\x7b\x7b a.b \x7d\x7d"), (18, "\x7b\x7b\nc.d \x7d\x7d")] := by decide +kernel

end BoundReport
