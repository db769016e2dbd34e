/-!
# Numerals

A numeral is an optional sign and at least one digit. It is read from the left, and the first thing wrong
decides the refusal: at one and the same character, that it is no digit comes before that the number has
grown too large.

* `Numeral.natural` reads a number without sign, or with a plus;
* `Numeral.integer` reads a number with either sign;
* `Numeral.isReal` tells which texts are real numbers, with a point and an exponent or without.
-/

namespace BrickControl

/-- Why a text is not a numeral of its type. -/
inductive NumeralFault where
  | empty
  | notDigit
  | tooLarge
  | tooSmall
  deriving DecidableEq, Repr

/-- The text of the refusal. -/
def NumeralFault.message : NumeralFault → String
  | .empty => "cannot parse integer from empty string"
  | .notDigit => "invalid digit found in string"
  | .tooLarge => "number too large to fit in target type"
  | .tooSmall => "number too small to fit in target type"

namespace Numeral

/-- The value of a digit of a base up to 16, in either case. -/
def digit? (base : Nat) (c : Char) : Option Nat :=
  let value :=
    if '0' ≤ c ∧ c ≤ '9' then c.toNat - 48
    else if 'a' ≤ c ∧ c ≤ 'f' then c.toNat - 87
    else if 'A' ≤ c ∧ c ≤ 'F' then c.toNat - 55
    else base
  if value < base then some value else none

/-- Reads digits behind the number `read` that the digits before them gave. A number above `bound`
ends the reading with `overflow`. -/
def digits (base bound : Nat) (overflow : NumeralFault) : Nat → List Char → Except NumeralFault Nat
  | read, [] => .ok read
  | read, c :: rest =>
    match digit? base c with
    | none => .error .notDigit
    | some d =>
      if bound < read * base + d then .error overflow
      else digits base bound overflow (read * base + d) rest

/-- Reads at least one digit. -/
def unsigned (base bound : Nat) (overflow : NumeralFault) : List Char → Except NumeralFault Nat
  | [] => .error .notDigit
  | c :: rest => digits base bound overflow 0 (c :: rest)

/-- Reads a number up to `bound`, with an optional plus before it. -/
def natural (base bound : Nat) : List Char → Except NumeralFault Nat
  | [] => .error .empty
  | '+' :: rest => unsigned base bound .tooLarge rest
  | c :: rest => unsigned base bound .tooLarge (c :: rest)

/-- Reads a number from `-low` to `high`, with an optional sign before it. -/
def integer (base low high : Nat) : List Char → Except NumeralFault Int
  | [] => .error .empty
  | '+' :: rest => (unsigned base high .tooLarge rest).map Int.ofNat
  | '-' :: rest => (unsigned base low .tooSmall rest).map fun n => -Int.ofNat n
  | c :: rest => (unsigned base high .tooLarge (c :: rest)).map Int.ofNat

/-- A text without the sign before it. -/
def unsign : List Char → List Char
  | '+' :: rest => rest
  | '-' :: rest => rest
  | text => text

/-- The numbers that are written as words, in small letters. -/
def words : List String := ["inf", "infinity", "nan"]

/-- Is the text an exponent, or empty? -/
def isExponent : List Char → Bool
  | [] => true
  | mark :: rest =>
    (mark == 'e' || mark == 'E') && !(unsign rest).isEmpty && (unsign rest).all Char.isDigit

/-- Is the text a real number? Digits may stand on either side of the point, but there must be one. -/
def isReal (text : List Char) : Bool :=
  let body := unsign text
  let whole := body.takeWhile Char.isDigit
  let behind := body.drop whole.length
  let fraction := match behind with
    | '.' :: rest => rest.takeWhile Char.isDigit
    | _ => []
  let exponent := match behind with
    | '.' :: rest => rest.drop fraction.length
    | _ => behind
  words.contains (String.ofList (body.map Char.toLower)) ||
    (!(whole ++ fraction).isEmpty && isExponent exponent)

end Numeral

end BrickControl
