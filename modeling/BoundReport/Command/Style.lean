import BoundReport.Text

/-!
# Styles of a terminal

Parts of the output are set off by a color or by bold letters, if the output shows colors.
-/

namespace BoundReport

/-- How a part of the output is set off. -/
inductive Style
  | green
  | yellow
  | bold
  deriving DecidableEq, Repr

namespace Style

/-- The control sequence with this number. -/
def sequence (number : Nat) : Text := '\x1b' :: '[' :: Text.ofNat number ++ ['m']

/-- The numbers of the sequences before and after a part. -/
def numbers : Style → Nat × Nat
  | green => (32, 39)
  | yellow => (33, 39)
  | bold => (1, 0)

/-- A part of the output, set off if the output shows colors. -/
def paint (style : Style) (color : Bool) (text : Text) : Text :=
  if color then sequence style.numbers.1 ++ text ++ sequence style.numbers.2 else text

end Style

end BoundReport
