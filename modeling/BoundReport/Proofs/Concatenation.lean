import BoundReport.Proofs.Lookups
import BoundReport.Proofs.Tags

/-!
# Filling In Texts Side by Side

How a text is cut into fragments cannot be told from the fragments of its parts, but what it is
filled in to can: only its atoms matter, and they are those of its parts wherever no tag goes
across. So a text is filled in part by part, from left to right, each part from the state of the
engine that the parts before it leave behind.

## Main results

* `run_resolveText`: only the atoms of a text matter.
* `run_resolveText_append`: filling in such texts one after the other.
* `run_resolveText_tag`: filling in the text around a tag.
* `run_resolveTagLine_trim`: a line is filled in as if it had not been trimmed before.
-/

namespace BoundReport

/-! ### Filling in side by side -/

variable {σ : Type} {catalog : Catalog} {engine : Engine σ}

/-- The text that atoms become, tags from left to right. -/
def resolveAtoms (catalog : Catalog) (engine : Engine σ) : List Atom → Resolution σ Text
  | [] => pure []
  | .char c :: rest => do
    let others ← resolveAtoms catalog engine rest
    return c :: others
  | .tag found :: rest => do
    let value ← resolveTag catalog engine found
    let others ← resolveAtoms catalog engine rest
    return value ++ others

/-- The text that a text becomes when its tags are filled in. -/
def resolveText (catalog : Catalog) (engine : Engine σ) (text : Text) : Resolution σ Text :=
  resolveFragments catalog engine (fragments text)

/-- A tag becomes the field of the first row of its dataset, or stays as written, and leaves the
engine as looking up its dataset does. -/
theorem run_resolveTag (tag : Tag) (state : σ) :
    ((resolveTag catalog engine tag).run state).value =
        (((fetch catalog engine tag.dataSet).run state).value.bind fun rows =>
          rows.head?.bind fun row => row.text? tag.field).getD tag.raw ∧
      ((resolveTag catalog engine tag).run state).state =
        ((fetch catalog engine tag.dataSet).run state).state := by
  rw [resolveTag, Resolution.run_bind]
  cases ((fetch catalog engine tag.dataSet).run state).value <;> exact ⟨rfl, rfl⟩

/-- Atoms are filled in one list after the other. -/
theorem run_resolveAtoms_append (one two : List Atom) (state : σ) :
    (resolveAtoms catalog engine (one ++ two)).run state =
      (do
        let first ← resolveAtoms catalog engine one
        let second ← resolveAtoms catalog engine two
        return first ++ second : Resolution σ Text).run state := by
  induction one generalizing state with
  | nil => simp [resolveAtoms]
  | cons atom rest ih =>
    cases atom <;>
      simp only [List.cons_append, resolveAtoms, Resolution.run_bind, Resolution.run_pure, ih,
        List.append_assoc, List.append_nil]

/-- Characters stay. -/
theorem run_resolveAtoms_char (text : Text) (state : σ) :
    (resolveAtoms catalog engine (text.map .char)).run state = ⟨text, state, [], []⟩ := by
  induction text with
  | nil => rfl
  | cons c text ih => simp [resolveAtoms, ih]

/-- **Only the atoms of a text matter.** -/
theorem run_resolveText (text : Text) (state : σ) :
    (resolveText catalog engine text).run state =
      (resolveAtoms catalog engine (atoms text)).run state := by
  have hfragments (found : List Fragment) (state : σ) :
      (resolveFragments catalog engine found).run state =
        (resolveAtoms catalog engine (found.flatMap Atom.ofFragment)).run state := by
    induction found generalizing state with
    | nil => rfl
    | cons first rest ih =>
      rw [List.flatMap_cons, run_resolveAtoms_append]
      cases first with
      | literal text =>
        simp [resolveFragments, Atom.ofFragment, run_resolveAtoms_char, ih]
      | tag found =>
        simp [resolveFragments, Atom.ofFragment, resolveAtoms, ih]
  exact hfragments (fragments text) state

/-- A text without tags stays. -/
theorem run_resolveText_of_tags_eq_nil {text : Text} (h : tags text = []) (state : σ) :
    (resolveText catalog engine text).run state = ⟨text, state, [], []⟩ := by
  rw [run_resolveText, atoms_of_tags_eq_nil h, run_resolveAtoms_char]

/-- **Texts of which no tag goes across** are filled in one after the other. -/
theorem run_resolveText_append {s t : Text} (h : ∀ tag : Tag, ¬ tag.Straddles s t) (state : σ) :
    (resolveText catalog engine (s ++ t)).run state =
      (do
        let first ← resolveText catalog engine s
        let second ← resolveText catalog engine t
        return first ++ second : Resolution σ Text).run state := by
  simp only [run_resolveText, atoms_append_of_not_straddles h, run_resolveAtoms_append,
    Resolution.run_bind, Resolution.run_pure]

/-- **A text around a tag** is filled in before it, then at it, and then behind it. -/
theorem run_resolveText_tag {tag : Tag} (h : tag.Written) (s t : Text) (state : σ) :
    (resolveText catalog engine (s ++ tag.raw ++ t)).run state =
      (do
        let first ← resolveText catalog engine s
        let value ← resolveTag catalog engine tag
        let second ← resolveText catalog engine t
        return first ++ value ++ second : Resolution σ Text).run state := by
  have hnot (other : Tag) : ¬ other.Straddles s (tag.raw ++ t) := by
    obtain ⟨body, hraw, -⟩ := h.exists_body
    exact not_straddles_braces (by simp [hraw]) (by simp [hraw])
  rw [List.append_assoc, run_resolveText_append hnot]
  simp [run_resolveText, atoms_tag_append h, resolveAtoms]

/-! ### Trimmed lines -/

/-- Trimming a text before it is filled in changes nothing but the spaces around the result. -/
theorem exists_run_resolveText_trim (catalog : Catalog) (engine : Engine σ) (text : Text) :
    ∃ before after, (∀ c ∈ before, isSpace c) ∧ (∀ c ∈ after, isSpace c) ∧ ∀ state,
      (resolveText catalog engine text).run state =
        { (resolveText catalog engine (Text.trim text)).run state with
          value := before ++
            ((resolveText catalog engine (Text.trim text)).run state).value ++ after } := by
  obtain ⟨before, after, hbefore, hafter, htext⟩ := Text.exists_eq_append_trim text
  refine ⟨before, after, hbefore, hafter, fun state => ?_⟩
  conv_lhs => rw [htext, List.append_assoc]
  rw [run_resolveText_append fun _ => not_straddles_spaces_left hbefore _]
  simp [run_resolveText_append fun _ => not_straddles_spaces_right hafter _,
    run_resolveText_of_tags_eq_nil (tags_spaces hbefore),
    run_resolveText_of_tags_eq_nil (tags_spaces hafter)]

/-- **A trimmed line** is filled in as if it had not been trimmed before. -/
theorem run_resolveTagLine_trim {text : Text} (h : tags text ≠ []) (state : σ) :
    (resolveTagLine catalog engine (.text (Text.trim text))).run state =
      { (resolveText catalog engine text).run state with
        value := .text (Text.trim ((resolveText catalog engine text).run state).value) } := by
  obtain ⟨before, after, hbefore, hafter, hrun⟩ := exists_run_resolveText_trim catalog engine text
  rw [resolveTagLine, if_neg (by rwa [tags_trim]), hrun]
  simp [Text.trim_append_spaces hafter, Text.trim_spaces_append hbefore, resolveText]

end BoundReport
