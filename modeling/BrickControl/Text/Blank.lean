import BrickControl.Text.Ranges

/-!
# Blanks

A blank is any character that Unicode calls white space: the space, tabulators, line breaks, and the spaces of
other widths.

* `isBlank c` holds of the blanks;
* `trimStart`, `trimEnd` and `trim` take blanks off the ends of a text.
-/

namespace BrickControl.Text

/-- The ranges of the blanks. -/
def blanks : List (Nat × Nat) := [
  (0x9, 0xD), (0x20, 0x20), (0x85, 0x85), (0xA0, 0xA0), (0x1680, 0x1680), (0x2000, 0x200A),
  (0x2028, 0x2029), (0x202F, 0x202F), (0x205F, 0x205F), (0x3000, 0x3000)]

/-- Is the character a blank? -/
def isBlank (c : Char) : Bool := inRanges blanks c.toNat

/-- A text without the blanks before it. -/
def trimStart (text : List Char) : List Char := text.dropWhile isBlank

/-- A text without the blanks behind it. -/
def trimEnd (text : List Char) : List Char := (text.reverse.dropWhile isBlank).reverse

/-- A text without the blanks around it. -/
def trim (text : List Char) : List Char := trimEnd (trimStart text)

end BrickControl.Text
