import Mathlib.Algebra.Group.Nat.Defs
import Mathlib.Data.List.Nodup
import BoundReport.Proofs.Mandatory

/-!
# Fields of Parameters

A parameter definition is taken apart at its commas. What stands between them is trimmed, pieces
without anything else than spaces are left out, and the others are the **fields**. There have to be
three: a name, a type in any case of its letters, and a size below 2³², with a plus sign or without,
and with any zeros in front. If several things are wrong, the number of fields is the error before
the type, and the type before the size.

## Main results

* `Parameter.hasFields_iff`: the fields are found.
* `ColumnType.parse_eq_ok_iff`: a type is read from its name in any case of the letters.
* `parseSize?_eq_some_iff`: the sizes that a text writes are read, and nothing else is.
* `Parameter.parse_eq_ok_iff_hasFields`, `Parameter.parse_eq_error_iff_hasFields`: which definitions
  are read, and the error of every other one.
-/

namespace BoundReport

/-! ### Sizes -/

namespace Text

/-- Only decimal digits are read as a decimal number. -/
theorem isDigit_of_digitValue? {c : Char} {d : Nat} (h : digitValue? c = some d) (hlt : d < 10) :
    c.isDigit := by
  rw [digitValue?] at h
  have ha : 'a'.toNat = 97 := rfl
  have hA : 'A'.toNat = 65 := rfl
  split_ifs at h with hdigit hsmall hcapital
  · exact hdigit
  · -- letters have values from ten on
    have hle : 'a'.toNat ≤ c.toNat := hsmall.1
    have hvalue := Option.some.inj h
    omega
  · have hle : 'A'.toNat ≤ c.toNat := hcapital.1
    have hvalue := Option.some.inj h
    omega

/-- **What is read as a decimal number** is a row of decimal digits. -/
theorem basedNat?_ten_eq_some_iff {digits : Text} {n : Nat} : basedNat? 10 digits = some n ↔
    (∀ c ∈ digits, c.isDigit) ∧ Nat.ofDigitChars 10 digits 0 = n := by
  have hdigits (h : (basedNat? 10 digits).isSome) : ∀ c ∈ digits, c.isDigit := by
    rw [basedNat?] at h
    generalize some 0 = start at h
    induction digits generalizing start with
    | nil => exact List.forall_mem_nil _
    | cons c rest ih =>
      rw [List.foldl_cons] at h
      refine List.forall_mem_cons.2 ⟨?_, ih _ h⟩
      -- if `c` were no digit there would be no number, and none would come of the rest
      by_contra hc
      have hnone : (do
          let n ← start
          let d ← digitValue? c
          if d < 10 then some (10 * n + d) else none) = none := by
        cases start with
        | none => rfl
        | some n =>
          cases hvalue : digitValue? c with
          | none => rfl
          | some d => exact if_neg fun hlt => hc (isDigit_of_digitValue? hvalue hlt)
      rw [hnone, List.foldl_fixed' fun _ => rfl] at h
      exact absurd h (by decide)
  constructor
  · intro h
    have hall := hdigits (Option.isSome_of_eq_some h)
    rw [basedNat?_of_isDigit hall] at h
    exact ⟨hall, Option.some.inj h⟩
  · rintro ⟨hall, rfl⟩
    exact basedNat?_of_isDigit hall

end Text

/-- A text **writes a size** if it is decimal digits, at least one, behind one plus sign or none. -/
def WritesSize (text : Text) (size : Nat) : Prop :=
  ∃ sign digits, (sign = [] ∨ sign = ['+']) ∧ digits ≠ [] ∧ (∀ c ∈ digits, c.isDigit) ∧
    text = sign ++ digits ∧ Nat.ofDigitChars 10 digits 0 = size

/-- The text behind a plus sign, or all of it if it does not begin with one. -/
def unsigned (text : Text) : Text :=
  match text with
  | '+' :: rest => rest
  | _ => text

theorem unsigned_of_head? {text : Text} (h : text.head? ≠ some '+') : unsigned text = text := by
  rw [unsigned]
  rintro rest rfl
  exact h rfl

/-- The size can be told from the text without its sign. -/
theorem writesSize_iff {text : Text} {size : Nat} : WritesSize text size ↔
    unsigned text ≠ [] ∧ (∀ c ∈ unsigned text, c.isDigit) ∧
      Nat.ofDigitChars 10 (unsigned text) 0 = size := by
  constructor
  · rintro ⟨sign, digits, hsign, hne, hdigits, rfl, hvalue⟩
    rcases hsign with rfl | rfl
    · have hhead : digits.head? ≠ some '+' := fun hhead =>
        absurd (hdigits '+' (List.mem_of_mem_head? hhead)) (by decide)
      rw [List.nil_append, unsigned_of_head? hhead]
      exact ⟨hne, hdigits, hvalue⟩
    · exact ⟨hne, hdigits, hvalue⟩
  · rintro ⟨hne, hdigits, hvalue⟩
    by_cases hhead : text.head? = some '+'
    · obtain ⟨rest, rfl⟩ := List.head?_eq_some_iff.1 hhead
      exact ⟨['+'], rest, .inr rfl, hne, hdigits, rfl, hvalue⟩
    · rw [unsigned_of_head? hhead] at hne hdigits hvalue
      exact ⟨[], text, .inl rfl, hne, hdigits, rfl, hvalue⟩

/-- The size that digits write, if there are any. -/
def digitsSize? (digits : Text) : Option UInt32 :=
  match digits with
  | [] => none
  | _ => (Text.basedNat? 10 digits).bind fun n =>
    if n < 0x100000000 then some n.toUInt32 else none

/-- The size of a text is read from its digits. -/
theorem parseSize?_eq (text : Text) : parseSize? text = digitsSize? (unsigned text) := rfl

theorem digitsSize?_eq_some_iff {digits : Text} {size : UInt32} :
    digitsSize? digits = some size ↔
      digits ≠ [] ∧ (∀ c ∈ digits, c.isDigit) ∧ Nat.ofDigitChars 10 digits 0 = size.toNat := by
  cases digits with
  | nil => simp [digitsSize?]
  | cons c rest =>
    simp only [digitsSize?, Option.bind_eq_some_iff, Text.basedNat?_ten_eq_some_iff]
    constructor
    · rintro ⟨n, ⟨hdigits, rfl⟩, hsize⟩
      split_ifs at hsize with hlt
      cases hsize
      exact ⟨List.cons_ne_nil _ _, hdigits, (UInt32.toNat_ofNat_of_lt' hlt).symm⟩
    · rintro ⟨-, hdigits, hvalue⟩
      have hlt : size.toNat < 0x100000000 := size.toNat_lt
      exact ⟨size.toNat, ⟨hdigits, hvalue⟩, by rw [if_pos hlt]; simp⟩

/-- **The sizes that a text writes are read, and nothing else is.** -/
theorem parseSize?_eq_some_iff {text : Text} {size : UInt32} :
    parseSize? text = some size ↔ WritesSize text size.toNat := by
  rw [parseSize?_eq, digitsSize?_eq_some_iff, writesSize_iff]

/-- No size is read from a text that writes none below 2³². -/
theorem parseSize?_eq_none_iff {text : Text} :
    parseSize? text = none ↔ ∀ size, WritesSize text size → 2 ^ 32 ≤ size := by
  constructor
  · intro hnone size hsize
    by_contra hlt
    have hvalue : (UInt32.ofNat size).toNat = size :=
      UInt32.toNat_ofNat_of_lt' (Nat.lt_of_not_le hlt)
    rw [← hvalue] at hsize
    exact absurd (hnone.symm.trans (parseSize?_eq_some_iff.2 hsize)) (by simp)
  · intro h
    cases hsize : parseSize? text with
    | none => rfl
    | some size =>
      have hle := h _ (parseSize?_eq_some_iff.1 hsize)
      have hlt : size.toNat < 2 ^ 32 := size.toNat_lt
      omega

/-! ### Types -/

namespace ColumnType

theorem mem_all (type : ColumnType) : type ∈ all := by
  cases type <;> decide

/-- The names of the types differ in more than the case of their letters. -/
theorem eq_of_toAsciiLower_name {type other : ColumnType}
    (h : Text.toAsciiLower type.name = Text.toAsciiLower other.name) : type = other := by
  have hnodup : (all.map fun type => Text.toAsciiLower type.name).Nodup := by decide +kernel
  exact List.inj_on_of_nodup_map hnodup (mem_all type) (mem_all other) h

/-- **A type is read from its name in any case of the letters.** -/
theorem parse_eq_ok_iff {text : Text} {type : ColumnType} :
    parse text = .ok type ↔ Text.equalsIgnoringCase type.name text := by
  rw [parse]
  constructor
  · intro h
    split at h
    · rename_i found hfind
      cases h
      simpa using List.find?_some hfind
    · cases h
  · intro h
    cases hfind : all.find? fun type => Text.equalsIgnoringCase type.name text with
    | none => exact absurd h (List.find?_eq_none.1 hfind type (mem_all type))
    | some found =>
      have hfound : Text.equalsIgnoringCase found.name text := by
        simpa using List.find?_some hfind
      rw [eq_of_toAsciiLower_name ((beq_iff_eq.1 hfound).trans (beq_iff_eq.1 h).symm)]

/-- The error of a text that is the name of no type. -/
theorem parse_eq_error_iff {text : Text} {error : DefinitionError} : parse text = .error error ↔
    (∀ type : ColumnType, ¬ Text.equalsIgnoringCase type.name text) ∧
      error = .invalidParameterType text := by
  simp only [← parse_eq_ok_iff]
  rw [parse]
  split
  · simp
  · simp [eq_comm]

end ColumnType

/-! ### Definitions -/

namespace Parameter

variable {definition : Text}

/-- A definition **has** these fields: its pieces between commas, trimmed, without the empty
ones. -/
def HasFields (definition : Text) (fields : List Text) : Prop :=
  ∃ pieces, (∀ piece ∈ pieces, ',' ∉ piece) ∧ definition = [','].intercalate pieces ∧
    fields = (pieces.map Text.trim).filter (· ≠ [])

/-- **The fields are found.** -/
theorem hasFields_iff {found : List Text} :
    HasFields definition found ↔ fields definition = found := by
  constructor
  · rintro ⟨pieces, hpieces, rfl, rfl⟩
    by_cases hne : pieces = []
    · rw [hne]
      rfl
    · rw [fields, Text.splitOn_intercalate hne hpieces]
  · rintro rfl
    exact ⟨Text.splitOn ',' definition, fun _ => Text.notMem_of_mem_splitOn,
      (Text.intercalate_splitOn ',' definition).symm, rfl⟩

/-- With another number of fields than three the number is the error. -/
theorem parse_of_length_ne (h : (fields definition).length ≠ 3) :
    parse definition = .error (.parameterFieldCount definition (fields definition).length) := by
  rw [parse]
  split
  · rename_i hfields
    exact absurd (congrArg List.length hfields) h
  · rfl

section

variable {name type size : Text}

/-- Three fields are read if the second one names a type and the third one writes a size. -/
theorem parse_eq_ok_iff (h : fields definition = [name, type, size]) {parameter : Parameter} :
    parse definition = .ok parameter ↔ parameter.name = name ∧
      ColumnType.parse type = .ok parameter.type ∧ parseSize? size = some parameter.size := by
  rw [parse, h]
  simp only [ParsedTemplate.bind_eq_ok_iff]
  constructor
  · rintro ⟨found, htype, hsize⟩
    cases hread : parseSize? size with
    | none => simp [hread] at hsize
    | some value =>
      simp only [hread, Except.ok.injEq] at hsize
      subst hsize
      exact ⟨rfl, htype, rfl⟩
  · rintro ⟨rfl, htype, hsize⟩
    exact ⟨_, htype, by rw [hsize]⟩

/-- The error of three fields is that of the type, or else that of the size. -/
theorem parse_eq_error_iff (h : fields definition = [name, type, size]) {error : DefinitionError} :
    parse definition = .error error ↔ ColumnType.parse type = .error error ∨
      (∃ found, ColumnType.parse type = .ok found) ∧ parseSize? size = none ∧
        error = .invalidParameterSize size := by
  rw [parse, h]
  simp only [ParsedTemplate.bind_eq_error_iff]
  refine or_congr_right ⟨?_, ?_⟩
  · rintro ⟨found, htype, hsize⟩
    cases hread : parseSize? size with
    | none =>
      simp only [hread, Except.error.injEq] at hsize
      exact ⟨⟨found, htype⟩, rfl, hsize.symm⟩
    | some value => simp [hread] at hsize
  · rintro ⟨⟨found, htype⟩, hsize, rfl⟩
    exact ⟨found, htype, by rw [hsize]⟩

end

/-- **The definitions that are read** have a name, the name of a type, and a size below 2³². -/
theorem parse_eq_ok_iff_hasFields {parameter : Parameter} : parse definition = .ok parameter ↔
    ∃ type size n, HasFields definition [parameter.name, type, size] ∧
      Text.equalsIgnoringCase parameter.type.name type ∧
      WritesSize size n ∧ n < 2 ^ 32 ∧ parameter.size.toNat = n := by
  constructor
  · intro h
    have hlength : (fields definition).length = 3 := by
      by_contra hne
      rw [parse_of_length_ne hne] at h
      cases h
    obtain ⟨name, type, size, hfields⟩ := List.length_eq_three.1 hlength
    obtain ⟨rfl, htype, hsize⟩ := (parse_eq_ok_iff hfields).1 h
    exact ⟨type, size, _, hasFields_iff.2 hfields, ColumnType.parse_eq_ok_iff.1 htype,
      parseSize?_eq_some_iff.1 hsize, parameter.size.toNat_lt, rfl⟩
  · rintro ⟨type, size, n, hfields, htype, hsize, -, rfl⟩
    exact (parse_eq_ok_iff (hasFields_iff.1 hfields)).2
      ⟨rfl, ColumnType.parse_eq_ok_iff.2 htype, parseSize?_eq_some_iff.2 hsize⟩

/-- **The errors of definitions**: first the number of fields, then the type, then the size. -/
theorem parse_eq_error_iff_hasFields {error : DefinitionError} : parse definition = .error error ↔
    (∃ fields, HasFields definition fields ∧ fields.length ≠ 3 ∧
      error = .parameterFieldCount definition fields.length) ∨
    (∃ name type size, HasFields definition [name, type, size] ∧
      (∀ found : ColumnType, ¬ Text.equalsIgnoringCase found.name type) ∧
      error = .invalidParameterType type) ∨
    ∃ name type size, ∃ found : ColumnType, HasFields definition [name, type, size] ∧
      Text.equalsIgnoringCase found.name type ∧ (∀ n, WritesSize size n → 2 ^ 32 ≤ n) ∧
      error = .invalidParameterSize size := by
  constructor
  · intro h
    by_cases hlength : (fields definition).length = 3
    · obtain ⟨name, type, size, hfields⟩ := List.length_eq_three.1 hlength
      rcases (parse_eq_error_iff hfields).1 h with htype | ⟨⟨found, htype⟩, hsize, rfl⟩
      · obtain ⟨hnone, rfl⟩ := ColumnType.parse_eq_error_iff.1 htype
        exact .inr (.inl ⟨name, type, size, hasFields_iff.2 hfields, hnone, rfl⟩)
      · exact .inr (.inr ⟨name, type, size, found, hasFields_iff.2 hfields,
          ColumnType.parse_eq_ok_iff.1 htype, parseSize?_eq_none_iff.1 hsize, rfl⟩)
    · rw [parse_of_length_ne hlength] at h
      cases h
      exact .inl ⟨_, hasFields_iff.2 rfl, hlength, rfl⟩
  · rintro (⟨found, hfields, hlength, rfl⟩ | ⟨name, type, size, hfields, hnone, rfl⟩ |
      ⟨name, type, size, found, hfields, htype, hsize, rfl⟩)
    · obtain rfl := hasFields_iff.1 hfields
      exact parse_of_length_ne hlength
    · exact (parse_eq_error_iff (hasFields_iff.1 hfields)).2
        (.inl (ColumnType.parse_eq_error_iff.2 ⟨hnone, rfl⟩))
    · exact (parse_eq_error_iff (hasFields_iff.1 hfields)).2
        (.inr ⟨⟨found, ColumnType.parse_eq_ok_iff.2 htype⟩, parseSize?_eq_none_iff.2 hsize, rfl⟩)

/-- **Parameter definitions are read exactly.** A definition is read if and only if it has three
fields of which the second one names a type, in any case of its letters, and the third one writes a
size below 2³²; these and the first field are the parameter. Any other number of fields is an error,
or else the type is, or else the size. So a written parameter is read as itself. -/
theorem parse_fields :
    (∀ definition parameter, parse definition = .ok parameter ↔
      ∃ type size n, HasFields definition [parameter.name, type, size] ∧
        Text.equalsIgnoringCase parameter.type.name type ∧
        WritesSize size n ∧ n < 2 ^ 32 ∧ parameter.size.toNat = n) ∧
      (∀ definition error, parse definition = .error error ↔
        (∃ fields, HasFields definition fields ∧ fields.length ≠ 3 ∧
          error = .parameterFieldCount definition fields.length) ∨
        (∃ name type size, HasFields definition [name, type, size] ∧
          (∀ found : ColumnType, ¬ Text.equalsIgnoringCase found.name type) ∧
          error = .invalidParameterType type) ∨
        ∃ name type size, ∃ found : ColumnType, HasFields definition [name, type, size] ∧
          Text.equalsIgnoringCase found.name type ∧ (∀ n, WritesSize size n → 2 ^ 32 ≤ n) ∧
          error = .invalidParameterSize size) ∧
      ∀ name type size, IsField name → ',' ∉ name →
        parse (name ++ [','] ++ type.name ++ [','] ++ Text.ofNat size.toNat) =
          .ok ⟨name, type, size⟩ := by
  refine ⟨fun _ _ => parse_eq_ok_iff_hasFields, fun _ _ => parse_eq_error_iff_hasFields, ?_⟩
  intro name type size hname hcomma
  have hread : parse (toText ⟨name, type, size⟩) = .ok ⟨name, type, size⟩ :=
    parse_toText hname hcomma
  exact hread

/-- A name with a space and a letter that is not ASCII, and the largest size. -/
theorem parse_fields_largestSize :
    IsField "año 1" ∧ ',' ∉ "año 1".toList ∧
      parse "año 1,NVARCHAR,4294967295" = .ok ⟨"año 1", .nVarChar, 4294967295⟩ := by
  have hname : IsField "año 1" := ⟨by decide, by decide⟩
  have hcomma : ',' ∉ "año 1".toList := by decide
  have htext : "año 1,NVARCHAR,4294967295".toList = "año 1" ++ [','] ++
      ColumnType.nVarChar.name ++ [','] ++ Text.ofNat (UInt32.toNat 4294967295) := by
    decide +kernel
  rw [htext]
  exact ⟨hname, hcomma, parse_fields.2.2 _ .nVarChar 4294967295 hname hcomma⟩

end Parameter

end BoundReport
