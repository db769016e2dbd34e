import BrickControl.Text.Quoted

/-!
# Motor outputs

A brick drives motors from four outputs, and a command names a set of them by a mask with one bit each.

* `Outputs` is a set of outputs;
* `Outputs.mask` is its mask, `Outputs.ofMask?` the set of a mask;
* `Outputs.parse` reads the letters of a set, with commas, blanks and pluses between them, or `all`.
-/

namespace BrickControl

/-- A motor output. -/
inductive Output where
  | a
  | b
  | c
  | d
  deriving DecidableEq, Repr

/-- The output of a capital letter. -/
def Output.ofLetter? : Char → Option Output
  | 'A' => some .a
  | 'B' => some .b
  | 'C' => some .c
  | 'D' => some .d
  | _ => none

/-- A set of motor outputs: which of the four it holds. -/
structure Outputs where
  a : Bool
  b : Bool
  c : Bool
  d : Bool
  deriving DecidableEq, Repr, Inhabited

/-- Why a text names no set of outputs. -/
inductive OutputsFault where
  /-- No output was named. -/
  | empty
  /-- A character that names no output, with ASCII letters as capitals. -/
  | badLetter (letter : Char)
  deriving DecidableEq, Repr

/-- The text of the refusal. -/
def OutputsFault.message : OutputsFault → String
  | .empty => "no motor port given"
  | .badLetter letter => "invalid motor port " ++ Text.Quoted.character letter ++ " (expected A-D)"

namespace Outputs

/-- The set without outputs. -/
def empty : Outputs := ⟨false, false, false, false⟩

/-- All four outputs. -/
def all : Outputs := ⟨true, true, true, true⟩

/-- The set of one output. -/
def only : Output → Outputs
  | .a => { empty with a := true }
  | .b => { empty with b := true }
  | .c => { empty with c := true }
  | .d => { empty with d := true }

/-- The outputs of either set. -/
def union (s t : Outputs) : Outputs :=
  ⟨s.a || t.a, s.b || t.b, s.c || t.c, s.d || t.d⟩

/-- The firmware's mask: bit 0 for output A, up to bit 3 for output D. -/
def mask (s : Outputs) : UInt8 :=
  (if s.a then 1 else 0) + (if s.b then 2 else 0) + (if s.c then 4 else 0) + (if s.d then 8 else 0)

/-- Characters that may stand between the letters. -/
def isSeparator (c : Char) : Bool := c == ',' || c == ' ' || c == '+'

/-- The set of a mask; `none` for a mask that names something else than the four outputs. -/
def ofMask? (mask : UInt8) : Option Outputs :=
  if mask < 16 then some ⟨mask &&& 1 != 0, mask &&& 2 != 0, mask &&& 4 != 0, mask &&& 8 != 0⟩
  else none

/-- The union of the outputs that the letters name; the first that names none is refused. -/
def ofLetters : List Char → Except OutputsFault Outputs
  | [] => .ok empty
  | c :: rest =>
    match Output.ofLetter? c.toUpper with
    | none => .error (.badLetter c.toUpper)
    | some output => (ofLetters rest).map (union (only output))

/-- Does the text spell `all`, in any case? -/
def isAll (s : String) : Bool := s.toList.map Char.toLower == ['a', 'l', 'l']

/-- Reads a set of outputs: the word `all`, or letters with separators between them. -/
def parse (s : String) : Except OutputsFault Outputs :=
  if isAll s then .ok all
  else
    match ofLetters (s.toList.filter fun c => !isSeparator c) with
    | .error fault => .error fault
    | .ok outputs => if outputs = empty then .error .empty else .ok outputs

end Outputs

end BrickControl
