import Cratewright.Decimal.Shortest
import Cratewright.Toml.Quoted

/-!
# Numbers of TOML documents

Digits may be parted by single underscores. An integer fits 64 bits with its sign; with a prefix it is hexadecimal,
octal or binary. A number with a fraction or an exponent is of double precision, nearest to what is written, and may
not grow to positive infinity unless it says so.
-/

namespace Cratewright.Toml

open Text (Scan)

namespace Reading

/-- Reads digits of a base, at least one; an underscore must stand between two of them. -/
def digits (base : Nat) : Reading (List Char) := do
  let digit : Reading Char := do
    match ← Scan.peek? with
    | some c =>
      if Text.isDigitOf base c then
        Scan.skip 1
        return c
      else malformed
    | none => malformed
  let first ← digit
  let step : Reading (Option Char) := do
    match ← Scan.peek? with
    | some c =>
      if Text.isDigitOf base c then
        Scan.skip 1
        return some c
      else if c = '_' then
        Scan.skip 1
        return some (← digit)
      else return none
    | none => return none
  return first :: (← Scan.many step)

/-- An integer that must fit 64 bits. -/
def integer (negative : Bool) (magnitude : Nat) : Reading Scalar :=
  let value : Int := if negative then -magnitude else magnitude
  if -(Nat.pow 2 63 : Nat) ≤ value && value < (Nat.pow 2 63 : Nat) then return .integer value else malformed

/-- The number of double precision nearest to digits scaled by a power of ten. -/
def float (negative : Bool) (digits : List Char) (exponent : Int) : Reading Scalar := do
  let magnitude := (Decimal.mk (Text.ofDigits 10 digits) exponent).toFloat
  if negative then return .float (-magnitude)
  else if magnitude.isInf then malformed
  else return .float magnitude

/-- Reads an exponent, if one comes next. -/
def exponent : Reading (Option Int) := do
  match ← Scan.peek? with
  | some 'e' | some 'E' =>
    Scan.skip 1
    let down ← Scan.accept ['-']
    unless down do
      let _ ← Scan.accept ['+']
    let power := Text.ofDigits 10 (← digits 10)
    return some (if down then -power else power)
  | _ => return none

/-- Reads a decimal number behind its sign. A zero at the front is all of the whole part. -/
def decimal (negative : Bool) : Reading Scalar := do
  let whole ← if ← Scan.accept ['0'] then pure ['0'] else digits 10
  let fraction ← if ← Scan.accept ['.'] then digits 10 else pure []
  match fraction, ← exponent with
  | [], none => integer negative (Text.ofDigits 10 whole)
  | _, power => float negative (whole ++ fraction) (power.getD 0 - fraction.length)

/-- Reads a number. -/
def number : Reading Scalar := do
  if ← Scan.accept ['0', 'x'] then integer false (Text.ofDigits 16 (← digits 16))
  else if ← Scan.accept ['0', 'o'] then integer false (Text.ofDigits 8 (← digits 8))
  else if ← Scan.accept ['0', 'b'] then integer false (Text.ofDigits 2 (← digits 2))
  else
    let negative ← Scan.accept ['-']
    unless negative do
      let _ ← Scan.accept ['+']
    if ← Scan.accept ['i', 'n', 'f'] then return .float (if negative then -1.0 / 0.0 else 1.0 / 0.0)
    else if ← Scan.accept ['n', 'a', 'n'] then return .float (0.0 / 0.0)
    else decimal negative

end Reading

end Cratewright.Toml
