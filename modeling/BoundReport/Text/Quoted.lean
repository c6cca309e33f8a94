import BoundReport.Text
import BoundReport.Text.Graphic

/-!
# Quoted text

A text between quotes in which every character can be seen: quotes and backslashes have a
backslash before them, and characters without a visible form are written as escapes.
-/

namespace BoundReport.Text

/-- A character as it is written between quotes. -/
def quoteChar (c : Char) : Text :=
  if c = '"' then ['\\', '"']
  else if c = '\\' then ['\\', '\\']
  else if c = '\t' then ['\\', 't']
  else if c = '\r' then ['\\', 'r']
  else if c = '\n' then ['\\', 'n']
  else if c.toNat = 0 then ['\\', '0']
  else if isGraphic c then [c]
  else ['\\', 'u', '{'] ++ Nat.toDigits 16 c.toNat ++ ['}']

/-- The text between quotes. -/
def quoted (t : Text) : Text := '"' :: t.flatMap quoteChar ++ ['"']

end BoundReport.Text
