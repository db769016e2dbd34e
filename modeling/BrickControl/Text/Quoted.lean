import BrickControl.Text.Hidden

/-!
# Quoted text

An error text quotes the character or the string it is about.

* `character c` quotes one character between single quotes;
* `string s` quotes a text between double quotes.

Inside the quotes a backslash and the quote itself follow a backslash, four control characters have a letter,
and a hidden character is written by its number in lower-case hexadecimal digits.
-/

namespace BrickControl.Text.Quoted

/-- The number of a character, in lower-case hexadecimal digits between braces. -/
def byNumber (c : Char) : List Char :=
  ['\x5c', 'u', '\x7b'] ++ Nat.toDigits 16 c.toNat ++ ['\x7d']

/-- One character as it stands between two marks `mark`. -/
def escape (mark c : Char) : List Char :=
  if c = '\x00' then ['\x5c', '0']
  else if c = '\t' then ['\x5c', 't']
  else if c = '\r' then ['\x5c', 'r']
  else if c = '\n' then ['\x5c', 'n']
  else if c = '\x5c' ∨ c = mark then ['\x5c', c]
  else if Hidden.isHidden c then byNumber c
  else [c]

/-- A character between single quotes. -/
def character (c : Char) : String :=
  String.ofList ('\x27' :: escape '\x27' c ++ ['\x27'])

/-- A text between double quotes. -/
def string (s : String) : String :=
  String.ofList ('\x22' :: s.toList.flatMap (escape '\x22') ++ ['\x22'])

end BrickControl.Text.Quoted
