import BrickControl.Numeral
import BrickControl.Text.Folded

/-!
# Button lights

The patterns of the brick's button lights, and the status byte that sets them.

* `LedPattern.parse?` reads the name of a pattern;
* `Led.status?` reads the name of a pattern or a byte, decimal or hexadecimal.
-/

namespace BrickControl

/-- A pattern that the firmware knows. -/
inductive LedPattern where
  | off
  | green
  | red
  | orange
  | greenFlash
  | redFlash
  | orangeFlash
  | greenPulse
  | redPulse
  | orangePulse
  deriving DecidableEq, Repr, Inhabited

namespace LedPattern

/-- Every pattern, in the order of the firmware's numbers. -/
def all : List LedPattern :=
  [.off, .green, .red, .orange, .greenFlash, .redFlash, .orangeFlash, .greenPulse, .redPulse,
    .orangePulse]

/-- The written name. -/
def name : LedPattern → String
  | .off => "off"
  | .green => "green"
  | .red => "red"
  | .orange => "orange"
  | .greenFlash => "green-flash"
  | .redFlash => "red-flash"
  | .orangeFlash => "orange-flash"
  | .greenPulse => "green-pulse"
  | .redPulse => "red-pulse"
  | .orangePulse => "orange-pulse"

/-- The firmware's number. -/
def byte : LedPattern → UInt8
  | .off => 0
  | .green => 1
  | .red => 2
  | .orange => 3
  | .greenFlash => 4
  | .redFlash => 5
  | .orangeFlash => 6
  | .greenPulse => 7
  | .redPulse => 8
  | .orangePulse => 9

/-- Reads a name, folded. -/
def parse? (s : String) : Option LedPattern :=
  all.find? fun pattern => decide (pattern.name = Text.fold s)

/-- The list of patterns misses none. -/
theorem mem_all (pattern : LedPattern) : pattern ∈ all := by
  cases pattern <;> decide

end LedPattern

namespace Led

/-- Reads a byte: hexadecimal behind `0x` or `0X`, decimal otherwise, each with an optional plus. -/
def byte? : List Char → Option UInt8
  | '0' :: 'x' :: rest => ((Numeral.natural 16 255 rest).toOption).map UInt8.ofNat
  | '0' :: 'X' :: rest => ((Numeral.natural 16 255 rest).toOption).map UInt8.ofNat
  | cs => ((Numeral.natural 10 255 cs).toOption).map UInt8.ofNat

/-- Reads a status: the name of a pattern, or a byte. -/
def status? (s : String) : Option UInt8 :=
  match LedPattern.parse? s with
  | some pattern => some pattern.byte
  | none => byte? s.toList

end Led

end BrickControl
