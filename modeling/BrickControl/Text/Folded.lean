/-!
# Folded names

Names are matched without regard to the case of ASCII letters, and with an underscore read as a hyphen.
Every other character, a letter outside ASCII included, stands for itself.

* `fold s` is the form in which names are compared.
-/

namespace BrickControl.Text

/-- An ASCII capital becomes small and an underscore a hyphen. -/
def foldChar (c : Char) : Char :=
  if c = '_' then '-' else c.toLower

/-- The form in which names are compared. -/
def fold (s : String) : String := String.ofList (s.toList.map foldChar)

end BrickControl.Text
