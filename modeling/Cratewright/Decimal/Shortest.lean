/-!
# Shortest decimals

A finite number of double precision is a whole multiple of a power of two, and every real nearer to it than to its
neighbours reads back as it. `shortest` gives the decimal with the fewest digits among those reals, and of several the
one nearest to the number; which of two equally near ones is left to the caller. The arithmetic is exact.
-/

namespace Cratewright

/-- The number `digits · 10 ^ exponent`. -/
structure Decimal where
  digits : Nat
  exponent : Int
deriving DecidableEq, Repr

namespace Decimal

/-- Which of two neighbouring whole numbers stands for a number halfway between them. -/
inductive Halfway
  | even
  | greater
deriving DecidableEq, Repr

/-- Whether a number halfway between a whole number and the next goes to the first of them. -/
def Halfway.goesBelow (halfway : Halfway) (below : Nat) : Bool :=
  match halfway with
  | .even => below % 2 == 0
  | .greater => false

/-- A positive number with the reals that read back as it, all as multiples of `1 / unit`. The ends of the interval
belong to it or not. -/
structure Interval where
  low : Nat
  value : Nat
  high : Nat
  unit : Nat
  closed : Bool

namespace Interval

/-- The interval of `significand · 2 ^ exponent`; below a power of two the neighbour may be nearer than above. -/
def ofBinary (significand : Nat) (exponent : Int) (nearBelow : Bool) : Interval :=
  let scale := if exponent < 2 then 1 else Nat.pow 2 (exponent - 2).toNat
  { low := (4 * significand - if nearBelow then 1 else 2) * scale
    value := 4 * significand * scale
    high := (4 * significand + 2) * scale
    unit := if exponent < 2 then Nat.pow 2 (2 - exponent).toNat else 1
    closed := significand % 2 == 0 }

/-- Multiplies number and interval by a power of ten. -/
def scaled (interval : Interval) (power : Int) : Interval :=
  if power < 0 then { interval with unit := interval.unit * Nat.pow 10 (-power).toNat }
  else
    let factor := Nat.pow 10 power.toNat
    { interval with
      low := interval.low * factor, value := interval.value * factor, high := interval.high * factor }

/-- Whether a whole number lies in the interval. -/
def holds (interval : Interval) (whole : Nat) : Bool :=
  let place := whole * interval.unit
  if interval.closed then interval.low ≤ place && place ≤ interval.high
  else interval.low < place && place < interval.high

/-- The number of decimal digits. -/
def width (whole : Nat) : Nat := (Nat.toDigits 10 whole).length

/-- The power of ten that the first digit of the number counts. -/
def leading (interval : Interval) : Int :=
  if interval.unit ≤ interval.value then width (interval.value / interval.unit) - 1
  else -(width ((interval.unit - 1) / interval.value) : Int)

/-- The whole number of the interval nearest to its number; none if the interval holds no whole number beside its
number. -/
def nearest? (halfway : Halfway) (interval : Interval) : Option Nat :=
  let below := interval.value / interval.unit
  let above := below + 1
  let past := interval.value - below * interval.unit
  let missing := above * interval.unit - interval.value
  match interval.holds below, interval.holds above with
  | false, false => none
  | true, false => some below
  | false, true => some above
  | true, true => some (if past < missing || (past == missing && halfway.goesBelow below) then below else above)

/-- The decimal of a given number of digits that lies in the interval. -/
def decimal? (halfway : Halfway) (interval : Interval) (digits : Nat) : Option Decimal :=
  let exponent := interval.leading - digits + 1
  ((interval.scaled (-exponent)).nearest? halfway).map fun whole => ⟨whole, exponent⟩

/-- The decimal with the fewest digits in the interval; seventeen are always enough. -/
def shortest (halfway : Halfway) (interval : Interval) : Decimal :=
  ((List.range 17).findSome? fun fewer => interval.decimal? halfway (fewer + 1)).getD ⟨0, 0⟩

end Interval

/-- The decimal with the fewest digits that reads back as the magnitude of a finite number. -/
def ofFloat (halfway : Halfway) (number : Float) : Decimal :=
  let bits := number.toBits.toNat
  let fraction := bits % Nat.pow 2 52
  let power : Nat := bits / Nat.pow 2 52 % Nat.pow 2 11
  if power = 0 then
    if fraction = 0 then ⟨0, 0⟩ else (Interval.ofBinary fraction (-1074) false).shortest halfway
  else (Interval.ofBinary (Nat.pow 2 52 + fraction) ((power : Int) - 1075) (fraction == 0 && 1 < power)).shortest halfway

/-- The number of double precision nearest to a decimal. Every power of ten beyond 400 is too great for one, and every
power below -400 too small. -/
def toFloat (decimal : Decimal) : Float :=
  let power := Interval.width decimal.digits + decimal.exponent
  if decimal.digits = 0 || power < -400 then 0.0
  else if 400 < power then 1.0 / 0.0
  else OfScientific.ofScientific decimal.digits (decimal.exponent < 0) decimal.exponent.natAbs

end Decimal

end Cratewright
