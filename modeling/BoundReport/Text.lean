/-!
# Text

Templates, cells and settings are all sequences of Unicode characters. `Text` is a list of
them, so that every scanner recurses on the characters themselves. This module holds the
blank characters, trimming, the measure in UTF-8 bytes, splitting at a separator, the order by
code points, and the case folding that touches the twenty-six ASCII letters only.
-/

namespace BoundReport

/-- A sequence of Unicode characters. -/
abbrev Text := List Char

instance : Coe String Text := ⟨String.toList⟩

/-- The code points with the Unicode property `White_Space`. -/
def spaceCodePoints : List Nat :=
  [0x09, 0x0a, 0x0b, 0x0c, 0x0d, 0x20, 0x85, 0xa0, 0x1680, 0x2000, 0x2001, 0x2002, 0x2003,
   0x2004, 0x2005, 0x2006, 0x2007, 0x2008, 0x2009, 0x200a, 0x2028, 0x2029, 0x202f, 0x205f,
   0x3000]

/-- A **space** is a character with the Unicode property `White_Space`. -/
def isSpace (c : Char) : Bool := spaceCodePoints.contains c.toNat

namespace Text

/-- The text as a string. -/
def toString (t : Text) : String := String.ofList t

/-- The length of the text in UTF-8 bytes. -/
def width (t : Text) : Nat := t.foldr (fun c n => c.utf8Size + n) 0

/-- The text without its leading spaces. -/
def trimStart (t : Text) : Text := t.dropWhile isSpace

/-- The text without its trailing spaces. -/
def trimEnd (t : Text) : Text := (t.reverse.dropWhile isSpace).reverse

/-- The text without its leading and trailing spaces. -/
def trim (t : Text) : Text := trimEnd (trimStart t)

/-- The pieces of a text between the occurrences of a separator, empty pieces included; a
text without the separator is its own only piece. -/
def splitOn (separator : Char) : Text → List Text
  | [] => [[]]
  | c :: rest =>
    if c = separator then [] :: splitOn separator rest
    else
      match splitOn separator rest with
      | [] => [[c]]
      | piece :: pieces => (c :: piece) :: pieces

/-- Whether a text comes before another one. The first characters that differ decide, by their
code points; a text comes before its own continuations. -/
def precedes : Text → Text → Bool
  | _, [] => false
  | [], _ :: _ => true
  | a :: s, b :: t => if a = b then precedes s t else decide (a.toNat < b.toNat)

@[simp] theorem width_nil : width [] = 0 := rfl

@[simp] theorem width_cons (c : Char) (t : Text) : width (c :: t) = c.utf8Size + width t := rfl

@[simp] theorem width_append (s t : Text) : width (s ++ t) = width s + width t := by
  induction s with
  | nil => simp
  | cons c s ih => simp [ih, Nat.add_assoc]

/-- No text comes before itself. -/
theorem precedes_irrefl (t : Text) : t.precedes t = false := by
  induction t with
  | nil => rfl
  | cons c t ih => rw [precedes, if_pos rfl, ih]

theorem precedes_trans {r s t : Text} (hrs : r.precedes s) (hst : s.precedes t) :
    r.precedes t := by
  induction r generalizing s t with
  | nil =>
    cases s with
    | nil => simp [precedes] at hrs
    | cons b s =>
      cases t with
      | nil => simp [precedes] at hst
      | cons c t => rfl
  | cons a r ih =>
    cases s with
    | nil => simp [precedes] at hrs
    | cons b s =>
      cases t with
      | nil => simp [precedes] at hst
      | cons c t =>
        by_cases hab : a = b
        · by_cases hbc : b = c
          · subst hab hbc
            simp only [precedes, if_true] at hrs hst ⊢
            exact ih hrs hst
          · subst hab
            simpa [precedes, hbc] using hst
        · by_cases hbc : b = c
          · subst hbc
            simpa [precedes, hab] using hrs
          · simp only [precedes, hab, hbc, if_false, decide_eq_true_eq] at hrs hst
            have hac : a ≠ c := fun heq => by subst heq; omega
            simp only [precedes, hac, if_false, decide_eq_true_eq]
            omega

/-- Of two different texts one comes before the other. -/
theorem precedes_of_not_precedes {s t : Text} (hne : s ≠ t) (hnot : s.precedes t = false) :
    t.precedes s := by
  induction s generalizing t with
  | nil =>
    cases t with
    | nil => exact absurd rfl hne
    | cons b t => simp [precedes] at hnot
  | cons a s ih =>
    cases t with
    | nil => rfl
    | cons b t =>
      by_cases hab : a = b
      · subst hab
        simp only [precedes, if_true] at hnot ⊢
        exact ih (fun heq => hne (heq ▸ rfl)) hnot
      · have hcode : a.toNat ≠ b.toNat := fun heq => hab (Char.toNat_inj.1 heq)
        simp only [precedes, hab, Ne.symm hab, if_false, decide_eq_false_iff_not,
          decide_eq_true_eq] at hnot ⊢
        omega

/-- The text with the ASCII capital letters replaced by small ones. -/
def toAsciiLower (t : Text) : Text := t.map Char.toLower

/-- Whether two texts agree up to the case of ASCII letters. -/
def equalsIgnoringCase (s t : Text) : Bool := toAsciiLower s == toAsciiLower t

/-- The decimal digits of a natural number. -/
def ofNat (n : Nat) : Text := Nat.toDigits 10 n

/-- The decimal digits of an integer, after a minus sign if it is negative. -/
def ofInt : Int → Text
  | .ofNat n => ofNat n
  | .negSucc n => '-' :: ofNat (n + 1)

/-- The decimal digits of `n`, padded with zeros in front to at least `digits` places. -/
def padded (digits n : Nat) : Text :=
  List.replicate (digits - (ofNat n).length) '0' ++ ofNat n

end Text

end BoundReport
