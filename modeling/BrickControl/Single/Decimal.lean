import BrickControl.Single

/-!
# The shortest decimal of a number

A finite number is written with the fewest decimal digits that no other single-precision number is nearest
to. The reals that round to the number form an interval; the decimals with `t` places after the point form a
grid; and the coarsest grid with a point in the interval gives the digits. Of two points in the interval the
nearer one is taken, and the upper one if they are equally near. A grid has a point in the interval only if
one of the two neighbours of the number on that grid is there, so no other point is tried.

Everything is counted in units of `1 / 2 ^ 151`, in which the number and both ends of its interval are whole.

* `Interval` is the interval with its number;
* `Decimal.shortest` is the decimal chosen;
* `Single.text` writes it without an exponent.
-/

namespace BrickControl

/-- The decimal `digits * 10 ^ (up - down)`, with `up` or `down` zero. -/
structure Decimal where
  digits : Nat
  up : Nat
  down : Nat
  deriving DecidableEq, Repr, Inhabited

/-- A positive number, and the reals that round to it, all in units of `1 / 2 ^ 151`. -/
structure Interval where
  low : Nat
  value : Nat
  high : Nat
  /-- Do the ends belong to the interval? -/
  closed : Bool
  deriving DecidableEq, Repr

namespace Interval

/-- The reals that round to a finite positive number: half way to the neighbours, of which the lower one is
half as far where the exponent changes. The ends round to an even mantissa. -/
def ofSingle (x : Single) : Interval :=
  let (m, e) := x.magnitude
  let quarter := 1 <<< e
  let value := 4 * m * quarter
  let gap := if x.fractionField = 0 ∧ 1 < x.exponentField then quarter else 2 * quarter
  { low := value - gap, value := value, high := value + 2 * quarter, closed := m % 2 == 0 }

/-- Is the point at most the upper end? The point and the end are compared after scaling by `scale`. -/
def below (i : Interval) (scale point : Nat) : Bool :=
  if i.closed then point ≤ i.high * scale else point < i.high * scale

/-- Is the point at least the lower end? -/
def above (i : Interval) (scale point : Nat) : Bool :=
  if i.closed then i.low * scale ≤ point else i.low * scale < point

/-- The point of the grid of step `step` that stands for the number, if one is in the interval. The number
is scaled by `scale` first. -/
def onGrid? (i : Interval) (scale step : Nat) : Option Nat :=
  let value := i.value * scale
  let floor := value / step
  let lower := floor * step
  let upper := lower + step
  if i.above scale lower then
    if i.below scale upper ∧ upper - value ≤ value - lower then some (floor + 1) else some floor
  else if i.below scale upper then some (floor + 1)
  else none

end Interval

namespace Decimal

/-- The unit of an interval is `1 / unit`. -/
def unit : Nat := 1 <<< 151

/-- A power of ten. -/
def tenTo : Nat → Nat
  | 0 => 1
  | k + 1 => 10 * tenTo k

/-- The number of decimal places of the finest grid, which has a point in every interval. -/
def finestPlaces : Nat := 45

/-- The decimal from the coarsest grid with a point in the interval, among the grids of at least
`places - finestPlaces` factors of ten down to the finest. -/
def search (i : Interval) : Nat → Decimal
  | 0 => ⟨i.value * tenTo finestPlaces / unit, 0, finestPlaces⟩
  | places + 1 =>
    let up := places - finestPlaces
    let down := finestPlaces - places
    match i.onGrid? (tenTo down) (tenTo up * unit) with
    | some digits => ⟨digits, up, down⟩
    | none => search i places

/-- The shortest decimal in an interval of a single-precision number. -/
def shortest (i : Interval) : Decimal := search i 85

/-- Digits, then as many zeros as `up` says, or with a point before the last `down` digits. -/
def text (d : Decimal) : List Char :=
  let digits := Nat.toDigits 10 d.digits
  if d.down = 0 then digits ++ List.replicate d.up '0'
  else
    let padded := List.replicate (d.down + 1 - digits.length) '0' ++ digits
    padded.take (padded.length - d.down) ++ '.' :: padded.drop (padded.length - d.down)

end Decimal

namespace Single

/-- The text of a number: never an exponent, no point in a whole number, and one text for every NaN. -/
def text (x : Single) : String :=
  if x.isNaN then "NaN"
  else
    let sign := if x.isNegative then "-" else ""
    if x.isInfinite then sign ++ "inf"
    else if x.isZero then sign ++ "0"
    else sign ++ String.ofList (Decimal.shortest (Interval.ofSingle x)).text

end Single

end BrickControl
