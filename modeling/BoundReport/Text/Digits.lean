import BoundReport.Text

/-!
# Digits

The numbers that digits write, the most significant digit first, in any base up to sixteen.
-/

namespace BoundReport.Text

/-- The value of a digit. Letters in either case stand for the digits from ten to fifteen. -/
def digitValue? (c : Char) : Option Nat :=
  if c.isDigit then some (c.toNat - 48)
  else if 'a' ≤ c ∧ c ≤ 'f' then some (c.toNat - 87)
  else if 'A' ≤ c ∧ c ≤ 'F' then some (c.toNat - 55)
  else none

/-- Whether a character is a digit of a base. -/
def isDigitOf (base : Nat) (c : Char) : Bool := (digitValue? c).any (· < base)

/-- The number that digits of a base write, or none if a character is no such digit. No digits
write zero. -/
def basedNat? (base : Nat) (digits : Text) : Option Nat :=
  digits.foldl (fun n c => do
    let n ← n
    let d ← digitValue? c
    if d < base then some (base * n + d) else none) (some 0)

/-- The number that decimal digits write. -/
def decimalNat (digits : Text) : Nat := (basedNat? 10 digits).getD 0

/-- The character whose code point hexadecimal digits write. -/
def hexChar? (digits : Text) : Option Char := do
  let n ← basedNat? 16 digits
  if n.isValidChar then some (Char.ofNat n) else none

end BoundReport.Text
