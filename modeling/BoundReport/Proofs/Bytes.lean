import Mathlib.Data.Nat.Find
import Mathlib.Tactic.ByContra
import Mathlib.Tactic.SplitIfs
import BoundReport.Text

/-!
# Places in a Text

Places in a text are counted in UTF-8 bytes, and a text is as wide as it has bytes. Only the places
between two characters cut a text in two. Such a cut is determined by its place, and what stands
between two of them can be cut out of the bytes. A word that is looked for is found at the least
place where it stands.

## Main results

* `Text.size_utf8`: the width of a text is the number of its bytes.
* `Text.extract_utf8`, `Text.cutOut_utf8`: a part of a text at its place, and what is left of the
  text without it.
* `Text.append_inj_of_width`: a text is cut at one place in one way only.
* `Text.exists_getElem?_utf8`: the byte at the place of a character.
* `Text.exists_finds`, `Text.Finds.unique`: looking for a word has one outcome.
-/

namespace BoundReport

namespace Text

/-- The bytes of a text in UTF-8. -/
def utf8 (t : Text) : ByteArray := (Text.toString t).toUTF8

theorem utf8_append (s t : Text) : utf8 (s ++ t) = utf8 s ++ utf8 t := by
  simp only [utf8, Text.toString, String.toUTF8, String.toByteArray_ofList, List.utf8Encode_append]

/-- The width of a text is the number of its bytes. -/
theorem size_utf8 (t : Text) : (utf8 t).size = width t := by
  induction t with
  | nil => rfl
  | cons c t ih =>
    have hc : (utf8 [c]).size = c.utf8Size := by
      simp [utf8, Text.toString, String.toUTF8, List.utf8Encode_singleton]
    have hcut : utf8 (c :: t) = utf8 [c] ++ utf8 t := utf8_append [c] t
    rw [hcut, ByteArray.size_append, hc, ih, width_cons]

/-- What stands between two other texts is cut out at its place. -/
theorem extract_utf8 (before middle after : Text) :
    (utf8 (before ++ middle ++ after)).extract (width before) (width before + width middle) =
      utf8 middle := by
  rw [List.append_assoc, utf8_append, utf8_append, ← size_utf8, ← size_utf8,
    ByteArray.extract_append, ByteArray.extract_eq_empty_iff.2 (by simp), Nat.sub_self,
    Nat.add_sub_cancel_left, ByteArray.extract_append_eq_left rfl, ByteArray.empty_append]

/-- Bytes without those from `start` up to `stop`. -/
def cutOut (bytes : ByteArray) (start stop : Nat) : ByteArray :=
  bytes.extract 0 start ++ bytes.extract stop bytes.size

/-- Without what stands between two other texts, those two are left. -/
theorem cutOut_utf8 (before middle after : Text) :
    cutOut (utf8 (before ++ middle ++ after)) (width before) (width before + width middle) =
      utf8 (before ++ after) := by
  have hfront := extract_utf8 [] before (middle ++ after)
  have hback := extract_utf8 (before ++ middle) after []
  rw [List.nil_append, width_nil, Nat.zero_add, ← List.append_assoc] at hfront
  rw [List.append_nil] at hback
  rw [cutOut, hfront, ← width_append, size_utf8, width_append _ after, hback, utf8_append]

theorem width_pos {t : Text} (h : t ≠ []) : 0 < width t := by
  obtain ⟨c, t, rfl⟩ := List.exists_cons_of_ne_nil h
  have := c.utf8Size_pos
  rw [width_cons]
  omega

theorem eq_nil_of_width_eq_zero {t : Text} (h : width t = 0) : t = [] := by
  by_contra hne
  exact absurd h (Nat.pos_iff_ne_zero.1 (width_pos hne))

/-- Of two cuts of one text the one at the greater place cuts the part behind the other. -/
theorem exists_append_of_width_le {s t u v : Text} (h : s ++ t = u ++ v)
    (hle : width s ≤ width u) : ∃ m, u = s ++ m ∧ t = m ++ v := by
  rcases List.append_eq_append_iff.1 h with ⟨m, rfl, rfl⟩ | ⟨m, rfl, rfl⟩
  · exact ⟨m, rfl, rfl⟩
  · rw [width_append] at hle
    have hm : m = [] := eq_nil_of_width_eq_zero (by omega)
    subst hm
    exact ⟨[], by simp, by simp⟩

/-- **A text is cut at one place in one way only.** -/
theorem append_inj_of_width {s t u v : Text} (h : s ++ t = u ++ v) (hwidth : width s = width u) :
    s = u ∧ t = v := by
  obtain ⟨m, rfl, rfl⟩ := exists_append_of_width_le h (Nat.le_of_eq hwidth)
  rw [width_append] at hwidth
  have hm : m = [] := eq_nil_of_width_eq_zero (by omega)
  subst hm
  exact ⟨(List.append_nil s).symm, rfl⟩

/-- The first byte of a character is its code if that is one of ASCII, and otherwise both are
beyond ASCII. -/
theorem toNat_firstByte {c : Char} {byte : UInt8} (h : byte ∈ (String.utf8EncodeChar c).head?) :
    byte.toNat = c.toNat ∨ 127 < byte.toNat ∧ 127 < c.toNat := by
  have hcode : c.val.toNat = c.toNat := rfl
  rw [String.utf8EncodeChar, hcode] at h
  split_ifs at h
  all_goals
    obtain rfl := Option.some.inj h
    rw [UInt8.toNat_ofNat']
    omega

/-- **The byte at the place of a character** is its code if that is one of ASCII, and otherwise both
are beyond ASCII. -/
theorem exists_getElem?_utf8 (front : Text) (c : Char) (rest : Text) :
    ∃ byte, (utf8 (front ++ c :: rest))[width front]? = some byte ∧
      (byte.toNat = c.toNat ∨ 127 < byte.toNat ∧ 127 < c.toNat) := by
  have hbytes (t : Text) : utf8 t = (t.flatMap String.utf8EncodeChar).toByteArray := by
    rw [utf8, Text.toString, String.toUTF8, String.toByteArray_ofList, List.utf8Encode]
  have hfront : (front.flatMap String.utf8EncodeChar).length = width front := by
    rw [← size_utf8, hbytes, List.size_toByteArray]
  obtain ⟨byte, bytes, hc⟩ : ∃ byte bytes, String.utf8EncodeChar c = byte :: bytes :=
    List.exists_cons_of_length_pos (String.length_utf8EncodeChar c ▸ c.utf8Size_pos)
  have hlt : width front < (utf8 (front ++ c :: rest)).size := by
    have := c.utf8Size_pos
    rw [size_utf8, width_append, width_cons]
    omega
  refine ⟨byte, ?_, toNat_firstByte (by rw [hc]; rfl)⟩
  rw [getElem?_pos (utf8 (front ++ c :: rest)) (width front) hlt]
  simp only [hbytes, List.flatMap_append, List.flatMap_cons, hc, List.toByteArray_append]
  rw [ByteArray.getElem_append_right (by rw [List.size_toByteArray, hfront])]
  simp [List.getElem_toByteArray, hfront]

/-! ### Looking for a word -/

/-- A word **stands** at a place of a text. -/
def StandsAt (word : Text) (place : Nat) (text : Text) : Prop :=
  ∃ before after, text = before ++ word ++ after ∧ width before = place

/-- **Looking for a word** in a text from a place on: what is found is the least place from there on
where the word stands. -/
inductive Finds (word text : Text) (start : Nat) : Option Nat → Prop
  | nowhere (hnone : ∀ place, start ≤ place → ¬ StandsAt word place text) :
      Finds word text start none
  | somewhere {place : Nat} (hstart : start ≤ place) (hstands : StandsAt word place text)
      (hleast : ∀ other, start ≤ other → StandsAt word other text → place ≤ other) :
      Finds word text start (some place)

section Finds

variable {word text front rest : Text} {start place : Nat} {found found₁ found₂ : Option Nat}

theorem Finds.unique (h₁ : Finds word text start found₁) (h₂ : Finds word text start found₂) :
    found₁ = found₂ := by
  cases h₁ with
  | nowhere hnone =>
    cases h₂ with
    | nowhere => rfl
    | somewhere hstart hstands => exact absurd hstands (hnone _ hstart)
  | somewhere hstart hstands hleast =>
    cases h₂ with
    | nowhere hnone => exact absurd hstands (hnone _ hstart)
    | somewhere hstart' hstands' hleast' =>
      exact congrArg _ (Nat.le_antisymm (hleast _ hstart' hstands') (hleast' _ hstart hstands))

theorem exists_finds (word text : Text) (start : Nat) : ∃ found, Finds word text start found := by
  classical
  by_cases h : ∃ place, start ≤ place ∧ StandsAt word place text
  · exact ⟨_, .somewhere (Nat.find_spec h).1 (Nat.find_spec h).2
      fun other hstart hstands => Nat.find_min' h ⟨hstart, hstands⟩⟩
  · exact ⟨none, .nowhere fun place hstart hstands => h ⟨place, hstart, hstands⟩⟩

/-- Where a word stands behind the front of a text can be told from the rest. -/
theorem standsAt_append_iff (h : width front ≤ place) :
    StandsAt word place (front ++ rest) ↔
      ∃ skipped after, rest = skipped ++ word ++ after ∧ width front + width skipped = place := by
  constructor
  · rintro ⟨before, after, htext, rfl⟩
    rw [List.append_assoc] at htext
    obtain ⟨skipped, rfl, rfl⟩ := exists_append_of_width_le htext h
    exact ⟨skipped, after, (List.append_assoc ..).symm, (width_append ..).symm⟩
  · rintro ⟨skipped, after, rfl, rfl⟩
    exact ⟨front ++ skipped, after, by simp, width_append ..⟩

/-- A word stands at the end of the front of a text if and only if the rest begins with it. -/
theorem standsAt_width_iff : StandsAt word (width front) (front ++ rest) ↔ word <+: rest := by
  rw [standsAt_append_iff le_rfl]
  constructor
  · rintro ⟨skipped, after, rfl, hwidth⟩
    have hskipped : skipped = [] := eq_nil_of_width_eq_zero (by omega)
    subst hskipped
    exact ⟨after, rfl⟩
  · rintro ⟨after, rfl⟩
    exact ⟨[], after, rfl, rfl⟩

/-- If nothing is found, the rest of the text does not hold the word. -/
theorem Finds.not_infix (h : Finds word (front ++ rest) (width front) none) : ¬ word <:+: rest := by
  cases h with
  | nowhere hnone =>
    rintro ⟨skipped, after, rfl⟩
    refine hnone (width front + width skipped) (Nat.le_add_right _ _) ?_
    exact (standsAt_append_iff (Nat.le_add_right _ _)).2 ⟨skipped, after, rfl, rfl⟩

/-- What is found is passed over no earlier occurrence of the word. -/
theorem Finds.exists_append (h : Finds word (front ++ rest) (width front) (some place)) :
    ∃ skipped after, rest = skipped ++ word ++ after ∧ width (front ++ skipped) = place ∧
      ∀ m m', skipped = m ++ m' → m' ≠ [] → ¬ word <+: m' ++ word ++ after := by
  cases h with
  | somewhere hstart hstands hleast =>
    obtain ⟨skipped, after, rfl, rfl⟩ := (standsAt_append_iff hstart).1 hstands
    refine ⟨skipped, after, rfl, width_append .., ?_⟩
    rintro m m' rfl hne hprefix
    have hearlier : StandsAt word (width (front ++ m)) (front ++ (m ++ m' ++ word ++ after)) := by
      have hsplit : front ++ (m ++ m' ++ word ++ after) = front ++ m ++ (m' ++ word ++ after) := by
        simp
      rw [hsplit]
      exact standsAt_width_iff.2 hprefix
    have hle := hleast _ (by rw [width_append]; omega) hearlier
    have hpos := width_pos hne
    rw [width_append, width_append] at hle
    omega

end Finds

end Text

end BoundReport
