import BrickControl.Numeral
import BrickControl.Pattern.Flags

/-!
# Escapes in a pattern

A backslash takes the meaning from a punctuation mark, and gives one to a letter.

* `Escape` is what an escape stands for;
* `Escape.read?` reads what is behind the backslash.

Classes of characters by a Unicode property take tables that the program does without, so they are no escapes
here; references to a group are none either.
-/

namespace BrickControl.Pattern

/-- What an escape stands for. -/
inductive Escape where
  /-- A character; one written with two hexadecimal digits may be meant as a byte. -/
  | literal (c : Char) (byte : Bool)
  /-- The digits, the blanks or the word characters, or all but those. -/
  | shorthand (negated : Bool)
  /-- The edge of a word. -/
  | wordEdge
  /-- The start or the end of the text. -/
  | textEdge
  deriving DecidableEq, Repr

namespace Escape

/-- Reads hexadecimal digits behind the number `read` that those before them gave; a spaced pattern may part
them. -/
def hexDigits? (flags : Flags) : Nat → Nat → List Char → Option (Nat × List Char)
  | 0, read, text => some (read, text)
  | count + 1, read, text =>
    match skip flags text with
    | [] => none
    | c :: rest =>
      match Numeral.digit? 16 c with
      | some digit => hexDigits? flags count (read * 16 + digit) rest
      | none => none

/-- Reads a character by its number in `count` hexadecimal digits. -/
def byNumber? (flags : Flags) (count : Nat) (text : List Char) : Option (Escape × List Char) :=
  match hexDigits? flags count 0 text with
  | some (code, rest) =>
    if code.isValidChar then some (.literal (Char.ofNat code) (count == 2), rest) else none
  | none => none

/-- The letters with a meaning of their own, but those behind which a number follows. -/
def ofLetter? : Char → Option Escape
  | 'a' => some (.literal '\x07' false)
  | 'f' => some (.literal '\x0c' false)
  | 't' => some (.literal '\t' false)
  | 'n' => some (.literal '\n' false)
  | 'r' => some (.literal '\r' false)
  | 'v' => some (.literal '\x0b' false)
  | 'd' | 's' | 'w' => some (.shorthand false)
  | 'D' | 'S' | 'W' => some (.shorthand true)
  | 'A' | 'z' => some .textEdge
  | 'b' | 'B' | '<' | '>' => some .wordEdge
  | _ => none

/-- Reads what is behind a backslash. Any mark or blank of ASCII without a meaning of its own stands for
itself. -/
def read? (flags : Flags) : List Char → Option (Escape × List Char)
  | [] => none
  | 'x' :: rest => byNumber? flags 2 rest
  | 'u' :: rest => byNumber? flags 4 rest
  | 'U' :: rest => byNumber? flags 8 rest
  | c :: rest =>
    match ofLetter? c with
    | some escape => some (escape, rest)
    | none => if c.isAlphanum ∨ '\x7f' < c then none else some (.literal c false, rest)

end Escape

end BrickControl.Pattern
