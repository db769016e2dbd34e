import BrickControl.Text.Blank

/-!
# How a pattern is read

Flags written into a pattern change how it is read from there on. Only three of them bear on whether the pattern
can be used; the others are only checked for being flags at all.

* `Flags` are the three flags, `Flags.set` sets and clears them, `areFlags` checks the letters;
* `skip` passes over blanks and comments, where the pattern is spaced out.
-/

namespace BrickControl.Pattern

/-- How a pattern is read from some point on. -/
structure Flags where
  /-- Small and capital letters are the same. -/
  ignoreCase : Bool := false
  /-- The pattern is about characters, and not about bytes. -/
  unicode : Bool := true
  /-- Blanks and comments in the pattern mean nothing. -/
  spaced : Bool := false
  deriving DecidableEq, Repr

/-- The letters of the flags, and the hyphen that begins those that are cleared. -/
def flagLetters : List Char := ['i', 'm', 's', 'R', 'U', 'u', 'x', '-']

/-- Is no letter there twice? -/
def isDistinct : List Char → Bool
  | [] => true
  | letter :: rest => !rest.contains letter && isDistinct rest

/-- Flags are known letters, each once; a hyphen among them clears at least one. -/
def areFlags (letters : List Char) : Bool :=
  letters.all flagLetters.contains && isDistinct letters && letters.getLast? != some '-'

namespace Flags

/-- Sets the flags before the hyphen and clears those behind it. -/
def set (flags : Flags) (letters : List Char) : Flags :=
  let value (letter : Char) (old : Bool) : Bool :=
    if (letters.takeWhile (· != '-')).contains letter then true
    else if letters.contains letter then false
    else old
  { ignoreCase := value 'i' flags.ignoreCase
    unicode := value 'u' flags.unicode
    spaced := value 'x' flags.spaced }

/-- May this character be written? To ignore its case takes a table of cases, unless the pattern is about
bytes. -/
def allowsCharacter (flags : Flags) : Bool := !(flags.unicode && flags.ignoreCase)

end Flags

/-- What follows blanks and comments; a comment ends with its line. -/
def skipBlanks (comment : Bool) : List Char → List Char
  | [] => []
  | c :: rest =>
    if comment then skipBlanks (c != '\n') rest
    else if Text.isBlank c then skipBlanks false rest
    else if c = '#' then skipBlanks true rest
    else c :: rest

/-- What follows the blanks and comments in a spaced pattern; in any other they stand for themselves. -/
def skip (flags : Flags) (text : List Char) : List Char :=
  if flags.spaced then skipBlanks false text else text

end BrickControl.Pattern
