import BoundReport.Definition.DataSet
import BoundReport.Proofs.Spaces

/-!
# Written Parameters

A parameter is written as its name, its type and its size, with commas between them. Reading
what is written gives the parameter again. The name may be any text that stands for itself
among fields: not empty, without space at its ends, and without a comma.

## Main results

* `parseSize?_ofNat`: the digits of a number below 2³² are read as this number.
* `Parameter.parse_toText`: a written parameter is read as itself.
-/

namespace BoundReport

namespace Text

/-! ### Pieces between separators -/

/-- A text without the separator is its own only piece. -/
theorem splitOn_of_notMem {separator : Char} {t : Text} (h : separator ∉ t) :
    splitOn separator t = [t] := by
  induction t with
  | nil => rfl
  | cons c t ih =>
    obtain ⟨hne, hmem⟩ := not_or.1 (mt List.mem_cons.2 h)
    rw [splitOn, if_neg (Ne.symm hne), ih hmem]

/-- There is always a first piece. -/
theorem exists_splitOn_eq_cons (separator : Char) (t : Text) :
    ∃ piece pieces, splitOn separator t = piece :: pieces := by
  cases t with
  | nil => exact ⟨[], [], rfl⟩
  | cons c t =>
    rw [splitOn]
    split
    · exact ⟨_, _, rfl⟩
    · split <;> exact ⟨_, _, rfl⟩

/-- A character that is no separator belongs to the first piece. -/
theorem splitOn_cons_of_ne {separator c : Char} (h : c ≠ separator) {t piece : Text}
    {pieces : List Text} (ht : splitOn separator t = piece :: pieces) :
    splitOn separator (c :: t) = (c :: piece) :: pieces := by
  rw [splitOn, if_neg h, ht]

theorem splitOn_separator_cons (separator : Char) (t : Text) :
    splitOn separator (separator :: t) = [] :: splitOn separator t := if_pos rfl

/-- **The pieces on both sides of a separator are those of the two sides.** -/
theorem splitOn_append_separator (separator : Char) (s t : Text) :
    splitOn separator (s ++ separator :: t) = splitOn separator s ++ splitOn separator t := by
  induction s with
  | nil => exact splitOn_separator_cons separator t
  | cons c s ih =>
    rw [List.cons_append]
    by_cases hc : c = separator
    · rw [hc, splitOn_separator_cons, splitOn_separator_cons, ih, List.cons_append]
    · obtain ⟨piece, pieces, hs⟩ := exists_splitOn_eq_cons separator s
      rw [hs, List.cons_append] at ih
      rw [splitOn_cons_of_ne hc hs, splitOn_cons_of_ne hc ih, List.cons_append]

/-- The text up to the first separator is the first piece. -/
theorem splitOn_append_cons {separator : Char} {s : Text} (h : separator ∉ s) (t : Text) :
    splitOn separator (s ++ separator :: t) = s :: splitOn separator t := by
  rw [splitOn_append_separator, splitOn_of_notMem h, List.singleton_append]

/-- No piece has a separator in it. -/
theorem notMem_of_mem_splitOn {separator : Char} {t piece : Text}
    (h : piece ∈ splitOn separator t) : separator ∉ piece := by
  induction t generalizing piece with
  | nil =>
    obtain rfl := List.mem_singleton.1 h
    exact List.not_mem_nil
  | cons c t ih =>
    by_cases hc : c = separator
    · rw [hc, splitOn_separator_cons] at h
      rcases List.mem_cons.1 h with rfl | hmem
      · exact List.not_mem_nil
      · exact ih hmem
    · obtain ⟨first, others, ht⟩ := exists_splitOn_eq_cons separator t
      rw [splitOn_cons_of_ne hc ht] at h
      rw [ht] at ih
      rcases List.mem_cons.1 h with rfl | hmem
      · exact mt List.mem_cons.1 (not_or.2 ⟨Ne.symm hc, ih List.mem_cons_self⟩)
      · exact ih (List.mem_cons_of_mem _ hmem)

/-- The pieces with separators between them are the text. -/
theorem intercalate_splitOn (separator : Char) (t : Text) :
    [separator].intercalate (splitOn separator t) = t := by
  induction t with
  | nil => rfl
  | cons c t ih =>
    obtain ⟨piece, pieces, ht⟩ := exists_splitOn_eq_cons separator t
    rw [ht] at ih
    by_cases hc : c = separator
    · rw [hc, splitOn_separator_cons, ht, List.intercalate_cons_cons, ih]
      rfl
    · rw [splitOn_cons_of_ne hc ht]
      cases pieces with
      | nil => simpa using ih
      | cons next others => simpa [List.intercalate_cons_cons] using ih

/-- **Pieces with separators between them are told apart.** -/
theorem splitOn_intercalate {separator : Char} {pieces : List Text} (hne : pieces ≠ [])
    (h : ∀ piece ∈ pieces, separator ∉ piece) :
    splitOn separator ([separator].intercalate pieces) = pieces := by
  induction pieces with
  | nil => exact absurd rfl hne
  | cons piece rest ih =>
    obtain ⟨hpiece, hrest⟩ := List.forall_mem_cons.1 h
    cases rest with
    | nil => rw [List.intercalate_singleton, splitOn_of_notMem hpiece]
    | cons next others =>
      rw [List.intercalate_cons_cons, List.append_assoc, List.singleton_append,
        splitOn_append_cons hpiece, ih (List.cons_ne_nil _ _) hrest]

/-! ### Decimal digits -/

/-- A text without spaces is its own trimmed form. -/
theorem trim_eq_self {t : Text} (h : ∀ c ∈ t, isSpace c = false) : trim t = t :=
  trim_eq_self_iff.2
    ⟨fun c hc => h c (List.mem_of_mem_head? hc), fun c hc => h c (List.mem_of_getLast? hc)⟩

/-- The digits of a number are decimal digits. -/
theorem isDigit_of_mem_ofNat {n : Nat} {c : Char} (h : c ∈ ofNat n) : c.isDigit :=
  Nat.isDigit_of_mem_toDigits (by decide) (by decide) h

theorem isDigit_of_mem_padded {digits n : Nat} {c : Char} (h : c ∈ padded digits n) :
    c.isDigit := by
  rcases List.mem_append.1 h with hzero | hdigit
  · rw [List.eq_of_mem_replicate hzero]
    rfl
  · exact isDigit_of_mem_ofNat hdigit

/-- A decimal digit has a value below ten. -/
theorem digitValue?_of_isDigit {c : Char} (h : c.isDigit) :
    digitValue? c = some (c.toNat - '0'.toNat) ∧ c.toNat - '0'.toNat < 10 := by
  refine ⟨if_pos h, ?_⟩
  have hle : c.toNat ≤ '9'.toNat := by
    simp only [Char.isDigit, Bool.and_eq_true, decide_eq_true_eq] at h
    exact h.2
  have : '9'.toNat = 57 := rfl
  have : '0'.toNat = 48 := rfl
  omega

/-- Decimal digits are read as the number that they write. -/
theorem basedNat?_of_isDigit {digits : Text} (h : ∀ c ∈ digits, c.isDigit) :
    basedNat? 10 digits = some (Nat.ofDigitChars 10 digits 0) := by
  rw [basedNat?, Nat.ofDigitChars_eq_foldl]
  generalize 0 = n
  induction digits generalizing n with
  | nil => rfl
  | cons c digits ih =>
    obtain ⟨hc, hdigits⟩ := List.forall_mem_cons.1 h
    obtain ⟨hvalue, hlt⟩ := digitValue?_of_isDigit hc
    rw [List.foldl_cons, List.foldl_cons, ← ih hdigits]
    simp only [hvalue, Option.bind_eq_bind, Option.bind_some, if_pos hlt]

/-- The digits of a number are read as the number. -/
theorem basedNat?_ofNat (n : Nat) : basedNat? 10 (ofNat n) = some n := by
  rw [basedNat?_of_isDigit fun c hc => isDigit_of_mem_ofNat hc, ofNat,
    Nat.ofDigitChars_ten_toDigits]

end Text

/-- **The digits of a size are read as the size.** -/
theorem parseSize?_ofNat (size : UInt32) : parseSize? (Text.ofNat size.toNat) = some size := by
  have hlt : size.toNat < 0x100000000 := size.toNat_lt
  have hvalue := Text.basedNat?_ofNat size.toNat
  have hdigit : ∀ c ∈ Text.ofNat size.toNat, c.isDigit :=
    fun c hc => Text.isDigit_of_mem_ofNat hc
  have hne : Text.ofNat size.toNat ≠ [] := Nat.toDigits_ne_nil
  cases htext : Text.ofNat size.toNat with
  | nil => exact absurd htext hne
  | cons c rest =>
    have hplus : c ≠ '+' := by
      rintro rfl
      rw [htext] at hdigit
      exact absurd (hdigit '+' List.mem_cons_self) (by decide)
    rw [htext] at hvalue
    simp [parseSize?, hplus, hvalue, hlt]

/-! ### Types -/

/-- The name of a column type is read as the type. -/
theorem ColumnType.parse_name (type : ColumnType) : ColumnType.parse type.name = .ok type := by
  cases type <;> rfl

/-- The name of a dataset type is read as the type. -/
theorem DataSetType.parse_name (type : DataSetType) : DataSetType.parse type.name = .ok type := by
  cases type <;> rfl

/-! ### Parameters -/

/-- A **field** stands for itself: it is not empty and has no space at its ends. -/
structure IsField (text : Text) : Prop where
  ne_nil : text ≠ []
  trim_eq : Text.trim text = text

/-- The name of a column type is a field without commas. -/
theorem ColumnType.isField_name (type : ColumnType) : IsField type.name ∧ ',' ∉ type.name := by
  have hall : ∀ type : ColumnType, type.name ≠ [] ∧ Text.trim type.name = type.name ∧
      ',' ∉ type.name := by
    intro type
    cases type <;> decide
  obtain ⟨hne, htrim, hcomma⟩ := hall type
  exact ⟨⟨hne, htrim⟩, hcomma⟩

/-- The digits of a number are a field without commas. -/
theorem Text.isField_ofNat (n : Nat) : IsField (Text.ofNat n) ∧ ',' ∉ Text.ofNat n := by
  refine ⟨⟨Nat.toDigits_ne_nil, Text.trim_eq_self fun c hc => ?_⟩, fun hmem => ?_⟩
  · have hdigit := Text.isDigit_of_mem_ofNat hc
    rw [Bool.eq_false_iff]
    intro hspace
    have hall : ∀ n ∈ spaceCodePoints, (Char.ofNat n).isDigit = false := by decide
    have := hall c.toNat (List.contains_iff_mem.1 hspace)
    rw [Char.ofNat_toNat, hdigit] at this
    exact absurd this (by decide)
  · exact absurd (Text.isDigit_of_mem_ofNat hmem) (by decide)

namespace Parameter

/-- Fields with commas between them are told apart. -/
theorem fields_append {s t : Text} (h : IsField s) (hcomma : ',' ∉ s) :
    fields (s ++ ',' :: t) = s :: fields t := by
  rw [fields, Text.splitOn_append_cons hcomma, List.map_cons, h.trim_eq,
    List.filter_cons_of_pos (by simpa using h.ne_nil), fields]

/-- A field without commas is the only one. -/
theorem fields_of_isField {s : Text} (h : IsField s) (hcomma : ',' ∉ s) : fields s = [s] := by
  rw [fields, Text.splitOn_of_notMem hcomma, List.map_cons, h.trim_eq,
    List.filter_cons_of_pos (by simpa using h.ne_nil)]
  rfl

/-- **A written parameter is read as itself.** -/
theorem parse_toText {parameter : Parameter} (h : IsField parameter.name)
    (hcomma : ',' ∉ parameter.name) : Parameter.parse parameter.toText = .ok parameter := by
  obtain ⟨htype, htypeComma⟩ := parameter.type.isField_name
  obtain ⟨hsize, hsizeComma⟩ := Text.isField_ofNat parameter.size.toNat
  have hfields : fields parameter.toText =
      [parameter.name, parameter.type.name, Text.ofNat parameter.size.toNat] := by
    have htext : parameter.toText = parameter.name ++ ',' ::
        (parameter.type.name ++ ',' :: Text.ofNat parameter.size.toNat) := by simp [toText]
    rw [htext, fields_append h hcomma, fields_append htype htypeComma,
      fields_of_isField hsize hsizeComma]
  rw [Parameter.parse, hfields]
  simp only [ColumnType.parse_name, parseSize?_ofNat]
  rfl

end Parameter

end BoundReport
