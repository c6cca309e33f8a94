import Mathlib.Algebra.Group.Nat.Defs
import BoundReport.OutputName
import BoundReport.Proofs.Parameters

/-!
# Names in the Order of Time

The name of a report ends with the time at which it was made. The fields of the time stand side by
side, and only that of the year may have more digits than its place. But all fields behind it have
two digits, so they can be told apart from the end of the name, and what is left is the year with
its sign. So reports made at different times have different names. While the year has four digits
and no sign, all names are of one form, and the first character that differs belongs to the first
field that differs. So the names are in the order of time.

## Main results

* `Text.padded_injective`: a number can be told from its padded form.
* `Text.padded_append_precedes_iff`: padded numbers are in the order of texts.
* `Timestamp.toText_injective`: a time can be told from its written form.
* `Timestamp.toText_precedes_iff`: written times are in the order of texts.
* `outputName_chronological`: names of reports are different, and they are in the order of time.
-/

namespace BoundReport

/-! ### Padded numbers -/

namespace Text

variable {digits m n : Nat}

/-- The last digit comes off the end of a padded number. -/
theorem padded_succ (h : 0 < digits) (n : Nat) :
    padded (digits + 1) n = padded digits (n / 10) ++ [Nat.digitChar (n % 10)] := by
  have hten : 1 < 10 := by decide
  rw [padded, padded, ofNat, ofNat, Nat.toDigits_eq_if hten]
  split_ifs with hlt
  · have hzeros : List.replicate digits '0' = List.replicate (digits - 1) '0' ++ ['0'] := by
      rw [← List.replicate_succ', Nat.sub_add_cancel h]
    rw [Nat.div_eq_of_lt hlt, Nat.mod_eq_of_lt hlt, List.length_singleton, Nat.add_sub_cancel,
      hzeros]
    rfl
  · rw [List.length_append, List.length_singleton, Nat.add_sub_add_right, List.append_assoc]

theorem length_padded (hpos : 0 < digits) (h : n < 10 ^ digits) :
    (padded digits n).length = digits := by
  have hle : (ofNat n).length ≤ digits := (Nat.length_toDigits_le_iff (by decide) hpos).2 h
  rw [padded, List.length_append, List.length_replicate, Nat.sub_add_cancel hle]

/-- A padded number is read as the number. -/
theorem ofDigitChars_padded (digits n : Nat) : Nat.ofDigitChars 10 (padded digits n) 0 = n := by
  have hzeros (count : Nat) : Nat.ofDigitChars 10 (List.replicate count '0') 0 = 0 := by
    induction count with
    | zero => rfl
    | succ count ih => rw [List.replicate_succ, Nat.ofDigitChars_cons]; exact ih
  rw [padded, Nat.ofDigitChars_append, hzeros, ofNat, Nat.ofDigitChars_ten_toDigits]

/-- **A number can be told from its padded form.** -/
theorem padded_injective (h : padded digits m = padded digits n) : m = n := by
  rw [← ofDigitChars_padded digits m, h, ofDigitChars_padded]

/-- Texts of one length decide for what stands behind them, unless they are equal. -/
theorem append_precedes_append_iff {s t : Text} (h : s.length = t.length) (u v : Text) :
    (s ++ u).precedes (t ++ v) ↔ s.precedes t ∨ s = t ∧ u.precedes v := by
  induction s generalizing t with
  | nil =>
    obtain rfl := List.eq_nil_of_length_eq_zero h.symm
    simp [precedes]
  | cons a s ih =>
    obtain ⟨b, t, rfl⟩ := List.exists_cons_of_length_eq_add_one h.symm
    rw [List.cons_append, List.cons_append, precedes, precedes]
    split_ifs with hab
    · rw [ih (Nat.succ.inj h), List.cons.injEq, and_iff_right hab]
    · simp [hab]

/-- Digits are in the order of texts. -/
theorem digit_precedes_iff (hm : m < 10) (hn : n < 10) :
    precedes [Nat.digitChar m] [Nat.digitChar n] ↔ m < n := by
  have hmchar : (Nat.digitChar m).toNat = 48 + m := Nat.toNat_digitChar_of_lt_ten hm
  have hnchar : (Nat.digitChar n).toNat = 48 + n := Nat.toNat_digitChar_of_lt_ten hn
  rw [precedes]
  split_ifs with heq
  · rw [heq, hnchar] at hmchar
    simp only [precedes, Bool.false_eq_true, false_iff]
    omega
  · rw [decide_eq_true_iff, hmchar, hnchar]
    omega

/-- Padded numbers are in the order of texts. -/
theorem padded_precedes_iff (hpos : 0 < digits) (hm : m < 10 ^ digits) (hn : n < 10 ^ digits) :
    (padded digits m).precedes (padded digits n) ↔ m < n := by
  induction digits, hpos using Nat.le_induction generalizing m n with
  | base =>
    have hone {k : Nat} (hk : k < 10 ^ (0 + 1)) : padded (0 + 1) k = [Nat.digitChar k] := by
      have hten : k < 10 := by simpa using hk
      rw [padded, ofNat, Nat.toDigits_of_lt_base hten]
      rfl
    rw [hone hm, hone hn]
    exact digit_precedes_iff hm hn
  | succ digits hpos ih =>
    have hm' : m / 10 < 10 ^ digits := by rw [Nat.pow_succ] at hm; omega
    have hn' : n / 10 < 10 ^ digits := by rw [Nat.pow_succ] at hn; omega
    have hlength : (padded digits (m / 10)).length = (padded digits (n / 10)).length := by
      rw [length_padded hpos hm', length_padded hpos hn']
    have heq : padded digits (m / 10) = padded digits (n / 10) ↔ m / 10 = n / 10 :=
      ⟨padded_injective, congrArg _⟩
    rw [padded_succ hpos, padded_succ hpos, append_precedes_append_iff hlength, ih hm' hn', heq,
      digit_precedes_iff (Nat.mod_lt m (by decide)) (Nat.mod_lt n (by decide))]
    omega

/-- **Padded numbers are in the order of texts**, and leave the rest to what stands behind them if
they are equal. -/
theorem padded_append_precedes_iff (hpos : 0 < digits) (hm : m < 10 ^ digits)
    (hn : n < 10 ^ digits) (u v : Text) :
    (padded digits m ++ u).precedes (padded digits n ++ v) ↔ m < n ∨ m = n ∧ u.precedes v := by
  have hlength : (padded digits m).length = (padded digits n).length := by
    rw [length_padded hpos hm, length_padded hpos hn]
  have heq : padded digits m = padded digits n ↔ m = n := ⟨padded_injective, congrArg _⟩
  rw [append_precedes_append_iff hlength, padded_precedes_iff hpos hm hn, heq]

end Text

/-! ### Written times -/

namespace Timestamp

/-- A time **of the clock** is a valid one, or the leap second behind the last second of a
minute. -/
def IsOfClock (t : Timestamp) : Prop :=
  t.isValid ∨ t.second = 60 ∧ ({ t with second := 59 } : Timestamp).isValid

/-- The fields of a time, from the year down to the second. -/
def fields (t : Timestamp) : List Int := [t.year, t.month, t.day, t.hour, t.minute, t.second]

/-- A time is **before** another one if the first of their fields that differs is less. -/
def Before (s t : Timestamp) : Prop := s.fields < t.fields

instance (s t : Timestamp) : Decidable (s.Before t) :=
  inferInstanceAs (Decidable (s.fields < t.fields))

variable {s t : Timestamp}

/-- The fields behind the year fit into two digits. -/
theorem IsOfClock.lt_hundred (h : t.IsOfClock) :
    t.month < 10 ^ 2 ∧ t.day < 10 ^ 2 ∧ t.hour < 10 ^ 2 ∧ t.minute < 10 ^ 2 ∧
      t.second < 10 ^ 2 := by
  have hdays (year : Int) (month : Nat) : Calendar.daysInMonth year month ≤ 31 := by
    unfold Calendar.daysInMonth
    split_ifs <;> decide
  have hday := hdays t.year t.month
  rcases h with h | ⟨hsecond, h⟩
  all_goals
    simp only [isValid, Calendar.isDate, Bool.and_eq_true, decide_eq_true_eq] at h
    omega

/-- The year that a text writes, with a sign or without one. -/
def readYear : Text → Int
  | '-' :: digits => -Nat.ofDigitChars 10 digits 0
  | '+' :: digits => Nat.ofDigitChars 10 digits 0
  | digits => Nat.ofDigitChars 10 digits 0

/-- A year can be told from its written form: no digit is a sign. -/
theorem readYear_yearText (year : Int) : readYear (yearText year) = year := by
  rw [yearText]
  split_ifs with hneg hlarge
  · rw [readYear, Text.ofDigitChars_padded]
    omega
  · rw [readYear, Text.ofDigitChars_padded]
    omega
  · have hread : readYear (Text.padded 4 year.natAbs) =
        Nat.ofDigitChars 10 (Text.padded 4 year.natAbs) 0 := by
      have hdigit {c : Char} (h : c ∈ Text.padded 4 year.natAbs) : c.isDigit :=
        Text.isDigit_of_mem_padded h
      unfold readYear
      split
      · rename_i heq
        cases hdigit (heq ▸ List.mem_cons_self)
      · rename_i heq
        cases hdigit (heq ▸ List.mem_cons_self)
      · rfl
    rw [hread, Text.ofDigitChars_padded]
    omega

/-- **A time can be told from its written form**, whatever its year. -/
theorem toText_injective (hs : s.IsOfClock) (ht : t.IsOfClock) (h : s.toText = t.toText) :
    s = t := by
  have htwo {m n : Nat} (hm : m < 10 ^ 2) (hn : n < 10 ^ 2) :
      (Text.padded 2 m).length = (Text.padded 2 n).length := by
    rw [Text.length_padded (by decide) hm, Text.length_padded (by decide) hn]
  obtain ⟨hmonth, hday, hhour, hminute, hsecond⟩ := hs.lt_hundred
  obtain ⟨hmonth', hday', hhour', hminute', hsecond'⟩ := ht.lt_hundred
  -- the fields come off the end one after the other
  obtain ⟨h, second⟩ := List.append_inj' h (htwo hsecond hsecond')
  obtain ⟨h, minute⟩ := List.append_inj' h (htwo hminute hminute')
  obtain ⟨h, hour⟩ := List.append_inj' h (htwo hhour hhour')
  obtain ⟨h, day⟩ := List.append_inj' (List.append_cancel_right h) (htwo hday hday')
  obtain ⟨year, month⟩ := List.append_inj' h (htwo hmonth hmonth')
  have hyear : s.year = t.year := by
    rw [← readYear_yearText s.year, year, readYear_yearText]
  cases s
  cases t
  rw [mk.injEq]
  exact ⟨hyear, Text.padded_injective month, Text.padded_injective day,
    Text.padded_injective hour, Text.padded_injective minute, Text.padded_injective second⟩

/-- The fields of two times are compared one after the other. -/
theorem before_iff : s.Before t ↔ s.year < t.year ∨ s.year = t.year ∧
    (s.month < t.month ∨ s.month = t.month ∧ (s.day < t.day ∨ s.day = t.day ∧
      (s.hour < t.hour ∨ s.hour = t.hour ∧ (s.minute < t.minute ∨ s.minute = t.minute ∧
        s.second < t.second)))) := by
  rw [Before, fields, fields]
  simp only [List.cons_lt_cons_iff, Int.ofNat_lt, Int.natCast_inj, List.lt_irrefl, and_false,
    or_false]

/-- A year of four digits is written without a sign. -/
theorem yearText_of_le {year : Int} (h : 0 ≤ year ∧ year ≤ 9999) :
    yearText year = Text.padded 4 year.natAbs ∧ year.natAbs < 10 ^ 4 := by
  refine ⟨?_, by omega⟩
  rw [yearText, if_neg (by omega), if_neg (by omega)]

/-- Times with a year of four digits are of one form. -/
theorem length_toText (ht : t.IsOfClock) (hyear : 0 ≤ t.year ∧ t.year ≤ 9999) :
    t.toText.length = 15 := by
  have htwo {n : Nat} (h : n < 10 ^ 2) : (Text.padded 2 n).length = 2 :=
    Text.length_padded (by decide) h
  obtain ⟨hmonth, hday, hhour, hminute, hsecond⟩ := ht.lt_hundred
  obtain ⟨htext, hlt⟩ := yearText_of_le hyear
  simp only [toText, htext, List.length_append, Text.length_padded (by decide : 0 < 4) hlt,
    htwo hmonth, htwo hday, htwo hhour, htwo hminute, htwo hsecond, List.length_singleton]

/-- **Written times are in the order of texts** while their years have four digits and no sign. -/
theorem toText_precedes_iff (hs : s.IsOfClock) (ht : t.IsOfClock)
    (hsyear : 0 ≤ s.year ∧ s.year ≤ 9999) (htyear : 0 ≤ t.year ∧ t.year ≤ 9999) :
    s.toText.precedes t.toText ↔ s.Before t := by
  have htwo {m n : Nat} (hm : m < 10 ^ 2) (hn : n < 10 ^ 2) (u v : Text) :
      (Text.padded 2 m ++ u).precedes (Text.padded 2 n ++ v) ↔ m < n ∨ m = n ∧ u.precedes v :=
    Text.padded_append_precedes_iff (by decide) hm hn u v
  obtain ⟨hmonth, hday, hhour, hminute, hsecond⟩ := hs.lt_hundred
  obtain ⟨hmonth', hday', hhour', hminute', hsecond'⟩ := ht.lt_hundred
  obtain ⟨hstext, hslt⟩ := yearText_of_le hsyear
  obtain ⟨httext, htlt⟩ := yearText_of_le htyear
  have hless : s.year.natAbs < t.year.natAbs ↔ s.year < t.year := by omega
  have hequal : s.year.natAbs = t.year.natAbs ↔ s.year = t.year := by omega
  rw [toText, toText, hstext, httext, before_iff]
  simp only [List.append_assoc]
  rw [Text.padded_append_precedes_iff (by decide) hslt htlt, htwo hmonth hmonth', htwo hday hday',
    Text.append_precedes_append_iff rfl, htwo hhour hhour', htwo hminute hminute',
    Text.padded_precedes_iff (by decide) hsecond hsecond', hless, hequal, Text.precedes_irrefl]
  simp

end Timestamp

/-! ### Names -/

/-- **Names of reports are different, and they are in the order of time.** Reports that are made
from one template at different times of the clock have different names, whatever the years are. In
the years from 0 to 9999 a name comes before another one if and only if its time does. -/
theorem outputName_chronological (template extension : Text) (s t : Timestamp)
    (hs : s.IsOfClock) (ht : t.IsOfClock) :
    (outputName template s extension = outputName template t extension ↔ s = t) ∧
      (0 ≤ s.year ∧ s.year ≤ 9999 → 0 ≤ t.year ∧ t.year ≤ 9999 →
        ((outputName template s extension).precedes (outputName template t extension) ↔
          s.Before t)) := by
  refine ⟨⟨fun h => ?_, fun h => h ▸ rfl⟩, fun hsyear htyear => ?_⟩
  · have htext := List.append_cancel_right (List.append_cancel_right h)
    exact Timestamp.toText_injective hs ht (List.append_cancel_left htext)
  · have hlength : s.toText.length = t.toText.length := by
      rw [Timestamp.length_toText hs hsyear, Timestamp.length_toText ht htyear]
    simp only [outputName, List.append_assoc]
    rw [Text.append_precedes_append_iff rfl, Text.append_precedes_append_iff rfl,
      Text.append_precedes_append_iff hlength, Timestamp.toText_precedes_iff hs ht hsyear htyear]
    simp [Text.precedes_irrefl]

/-- A leap second at the end of a year is in front of the next year. -/
theorem outputName_chronological_leapSecond :
    Timestamp.IsOfClock ⟨999, 12, 31, 23, 59, 60⟩ ∧ Timestamp.IsOfClock ⟨1000, 1, 1, 0, 0, 0⟩ ∧
      outputName "templates/sales.html" ⟨999, 12, 31, 23, 59, 60⟩ "html" ≠
        outputName "templates/sales.html" ⟨1000, 1, 1, 0, 0, 0⟩ "html" ∧
      (outputName "templates/sales.html" ⟨999, 12, 31, 23, 59, 60⟩ "html").precedes
        (outputName "templates/sales.html" ⟨1000, 1, 1, 0, 0, 0⟩ "html") := by
  have hleap : Timestamp.IsOfClock ⟨999, 12, 31, 23, 59, 60⟩ := .inr ⟨rfl, by decide⟩
  have hvalid : Timestamp.IsOfClock ⟨1000, 1, 1, 0, 0, 0⟩ := .inl (by decide)
  obtain ⟨hsame, horder⟩ := outputName_chronological "templates/sales.html" "html" _ _ hleap hvalid
  exact ⟨hleap, hvalid, fun h => absurd (hsame.1 h) (by decide),
    (horder (by decide) (by decide)).2 (by decide)⟩

/-- The order of names ends with the year 9999: a sign comes before all digits. -/
example : (outputName "sales.html" ⟨10000, 1, 1, 0, 0, 0⟩ "html").precedes
    (outputName "sales.html" ⟨9999, 12, 31, 23, 59, 59⟩ "html") := by decide +kernel

end BoundReport
