import Cratewright.Decimal.Shortest

/-!
# Written numbers

A form says how a number of double precision is written. All forms write the fewest digits that read back and mark the
number by a point or an exponent.
-/

namespace Cratewright.Decimal

/-- The powers of ten of the first digit for which a number is written without an exponent, and the choice between two
shortest decimals that are equally near. -/
structure Form where
  plain : Int → Bool
  halfway : Halfway

/-- The digits of a decimal without the zeros at their end. -/
def significant (decimal : Decimal) : List Char :=
  ((Nat.toDigits 10 decimal.digits).reverse.dropWhile (· == '0')).reverse

/-- Writes digits with `point` of them in front of the point; zeros fill what is missing, and at least one digit
stands on each side. -/
def positional (digits : List Char) (point : Int) : List Char :=
  if point ≤ 0 then ['0', '.'] ++ List.replicate (-point).toNat '0' ++ digits
  else
    let places := point.toNat
    let fraction := if places < digits.length then digits.drop places else ['0']
    digits.take places ++ List.replicate (places - digits.length) '0' ++ '.' :: fraction

/-- Writes digits with a point behind the first and the power of ten that it counts. -/
def scientific (digits : List Char) (power : Int) : List Char :=
  let fraction := digits.drop 1
  digits.take 1 ++ (if fraction.isEmpty then [] else '.' :: fraction) ++
    'e' :: (if power < 0 then '-' else '+') :: Nat.toDigits 10 power.natAbs

/-- Writes a decimal; zero has no power of ten. -/
def write (form : Form) (decimal : Decimal) : List Char :=
  let digits := decimal.significant
  if digits.isEmpty then ['0', '.', '0']
  else
    let point := (Nat.toDigits 10 decimal.digits).length + decimal.exponent
    if form.plain (point - 1) then positional digits point else scientific digits (point - 1)

/-- Writes a number of double precision, the sign of a negative zero included. -/
def Form.text (form : Form) (number : Float) : String :=
  if number.isNaN then "NaN"
  else
    let sign := if number.toBits.toNat < Nat.pow 2 63 then "" else "-"
    sign ++ if number.isInf then "inf" else String.ofList (write form (ofFloat form.halfway number))

end Cratewright.Decimal
