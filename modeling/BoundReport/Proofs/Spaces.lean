import Mathlib.Data.List.DropRight
import BoundReport.Text

/-!
# Spaces Around a Text

Trimming takes away spaces and nothing else. A text without space at its two ends is its own
trimmed form, and every text is its trimmed form between two runs of spaces.

## Main results

* `Text.trim_eq_self_iff`: the texts that trimming leaves alone.
* `Text.exists_eq_append_trim`: what trimming takes away.
* `Text.trim_append_append`: what trimming leaves in the middle of a text.
-/

namespace BoundReport.Text

/-- Trimming at the end is dropping spaces from the right. -/
theorem trimEnd_eq (t : Text) : trimEnd t = t.rdropWhile isSpace := rfl

/-- A text whose first character is no space begins where its trimmed form begins. -/
theorem trimStart_eq_self_iff {t : Text} :
    trimStart t = t ↔ ∀ c ∈ t.head?, isSpace c = false := by
  cases t with
  | nil => simp [trimStart]
  | cons c t =>
    rw [trimStart, List.dropWhile_eq_self_iff]
    simp

/-- A text whose last character is no space ends where its trimmed form ends. -/
theorem trimEnd_eq_self_iff {t : Text} :
    trimEnd t = t ↔ ∀ c ∈ t.getLast?, isSpace c = false := by
  rw [trimEnd_eq, List.rdropWhile_eq_self_iff]
  constructor
  · intro h c hc
    obtain ⟨s, rfl⟩ := List.getLast?_eq_some_iff.1 hc
    simpa using h (by simp)
  · intro h hne
    simpa using h _ (List.getLast?_eq_some_getLast hne)

/-- **What trimming takes away**: spaces in front and spaces behind. -/
theorem exists_eq_append_trim (t : Text) :
    ∃ before after, (∀ c ∈ before, isSpace c) ∧ (∀ c ∈ after, isSpace c) ∧
      t = before ++ trim t ++ after := by
  refine ⟨t.takeWhile isSpace, (trimStart t).rtakeWhile isSpace,
    fun c hc => List.mem_takeWhile_imp hc, fun c hc => List.mem_rtakeWhile_imp hc, ?_⟩
  rw [List.append_assoc, trim, trimEnd_eq, List.rdropWhile_append_rtakeWhile, trimStart,
    List.takeWhile_append_dropWhile]

/-- **The texts that trimming leaves alone** have no space at either end. -/
theorem trim_eq_self_iff {t : Text} :
    trim t = t ↔ (∀ c ∈ t.head?, isSpace c = false) ∧ ∀ c ∈ t.getLast?, isSpace c = false := by
  constructor
  · intro h
    -- trimming shortens the text at both ends, so it has to leave each end alone
    have hstart : trimStart t = t := by
      have hlen := congrArg List.length h
      have hle : (trim t).length ≤ (trimStart t).length := by
        rw [trim, trimEnd_eq]
        exact (List.rdropWhile_prefix isSpace _).length_le
      exact (List.dropWhile_suffix isSpace).eq_of_length_le (by rw [← hlen]; exact hle)
    have hend : trimEnd t = t := by rw [trim, hstart] at h; exact h
    exact ⟨trimStart_eq_self_iff.1 hstart, trimEnd_eq_self_iff.1 hend⟩
  · rintro ⟨hfirst, hlast⟩
    rw [trim, trimStart_eq_self_iff.2 hfirst, trimEnd_eq_self_iff.2 hlast]

/-- Spaces in front make no difference to the trimmed form. -/
theorem trim_spaces_append {spaces : Text} (h : ∀ c ∈ spaces, isSpace c) (t : Text) :
    trim (spaces ++ t) = trim t := by
  rw [trim, trimStart, List.dropWhile_append_of_pos h]
  rfl

/-- Spaces behind make no difference to the trimmed form. -/
theorem trim_append_spaces {spaces : Text} (h : ∀ c ∈ spaces, isSpace c) (t : Text) :
    trim (t ++ spaces) = trim t := by
  have hend (s : Text) : trimEnd (s ++ spaces) = trimEnd s := by
    rw [trimEnd, List.reverse_append,
      List.dropWhile_append_of_pos fun c hc => h c (List.mem_reverse.1 hc)]
    rfl
  rw [trim, trimStart, List.dropWhile_append, trim, trimStart]
  split
  · rename_i hempty
    rw [List.isEmpty_iff.1 hempty, List.dropWhile_eq_nil_iff.2 h]
  · exact hend _

/-- Trimming twice is trimming once. -/
@[simp] theorem trim_trim (t : Text) : trim (trim t) = trim t := by
  obtain ⟨before, after, hbefore, hafter, ht⟩ := exists_eq_append_trim t
  conv_rhs => rw [ht, trim_append_spaces hafter, trim_spaces_append hbefore]

/-- Trimming at the start leaves all that stands behind a character other than a space. -/
theorem trimStart_append {t : Text} (h : ∀ c ∈ t.head?, isSpace c = false) (s : Text) :
    trimStart (s ++ t) = trimStart s ++ t := by
  rw [trimStart, List.dropWhile_append]
  split
  · rename_i hempty
    rw [trimStart, List.isEmpty_iff.1 hempty]
    exact trimStart_eq_self_iff.2 h
  · rfl

/-- Trimming at the end leaves all that stands in front of a character other than a space. -/
theorem trimEnd_append {s : Text} (h : ∀ c ∈ s.getLast?, isSpace c = false) (t : Text) :
    trimEnd (s ++ t) = s ++ trimEnd t := by
  have hstart : trimStart (t.reverse ++ s.reverse) = trimStart t.reverse ++ s.reverse :=
    trimStart_append (by rwa [List.head?_reverse]) _
  rw [trimEnd, List.reverse_append]
  exact (congrArg List.reverse hstart).trans (by simp [trimEnd, trimStart])

/-- **What trimming leaves in the middle**: a text that it leaves alone by itself. -/
theorem trim_append_append {middle : Text} (hne : middle ≠ []) (h : trim middle = middle)
    (s t : Text) : trim (s ++ middle ++ t) = trimStart s ++ middle ++ trimEnd t := by
  obtain ⟨hfirst, hlast⟩ := trim_eq_self_iff.1 h
  rw [List.append_assoc, trim, trimStart_append (by rwa [List.head?_append_of_ne_nil _ hne]),
    ← List.append_assoc, trimEnd_append (by rwa [List.getLast?_append_of_ne_nil _ hne])]

end BoundReport.Text
