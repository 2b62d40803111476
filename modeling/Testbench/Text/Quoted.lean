import Testbench.Text.Printable

/-!
# Text shown between double quotes

`quoted` shows a text so that every character of it can be seen: quotes, backslashes, line feeds,
carriage returns, tabs and NUL have two-character escapes; any other character that prints nothing
of its own is written as its code point in hexadecimal.
-/

namespace Testbench.Text

/-- The digits of `n` in base 16, lower case. -/
def hexDigits (n : Nat) : List Char := Nat.toDigits 16 n

/-- One character as it is shown between double quotes. -/
def shownChar (c : Char) : List Char :=
  if c = '\u0000' then ['\\', '0']
  else if c = '\t' then ['\\', 't']
  else if c = '\r' then ['\\', 'r']
  else if c = '\n' then ['\\', 'n']
  else if c = '\\' ∨ c = '\"' then ['\\', c]
  else if extendsGrapheme c || !isPrintable c then
    ['\\', 'u', '\x7b'] ++ hexDigits c.toNat ++ ['\x7d']
  else [c]

/-- The text between double quotes. -/
def quoted (s : String) : String :=
  String.ofList ('\"' :: s.toList.flatMap shownChar ++ ['\"'])

end Testbench.Text
