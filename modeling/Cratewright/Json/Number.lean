import Cratewright.Json.Fault
import Cratewright.Text.Digit

/-!
# Numbers of JSON texts

A number without point and exponent is an integer if it fits 64 bits, negative zero apart. Any other is of double
precision: the first digits that fit 64 bits are scaled by a power of ten in floating-point arithmetic, and the digits
behind them count as zeros.
-/

namespace Cratewright.Json

open Text (Scan)
open Reading

/-- A number as it is read. -/
inductive Number
  | integer (value : Int)
  | float (value : Float)

/-- Appends digits to a number as long as it fits 64 bits, and counts the digits appended. -/
def absorb (number : Nat) : List Char → Nat × Nat
  | [] => (number, 0)
  | digit :: digits =>
    let longer := Text.appendDigit 10 number digit
    if longer < Nat.pow 2 64 then
      let (whole, count) := absorb longer digits
      (whole, count + 1)
    else (number, 0)

/-- The number of double precision nearest to a power of ten. -/
def powerOfTen (exponent : Nat) : Float := OfScientific.ofScientific 1 false exponent

/-- Divides by a power of ten, in steps of the greatest power of double precision. -/
def divideByPower (number : Float) (exponent : Nat) : Float :=
  if exponent ≤ 308 then number / powerOfTen exponent
  else if number == 0 then number
  else divideByPower (number / powerOfTen 308) (exponent - 308)
termination_by exponent

/-- Scales the digits of a number; infinity is out of range. -/
def scaled? (negative : Bool) (significand : Nat) (exponent : Int) : Option Float :=
  let number := significand.toUInt64.toFloat
  let magnitude :=
    if exponent < 0 then some (divideByPower number exponent.natAbs)
    else if exponent ≤ 308 then
      let product := number * powerOfTen exponent.toNat
      if product.isInf then none else some product
    else if number == 0 then some number
    else none
  magnitude.map fun magnitude => if negative then -magnitude else magnitude

namespace Reading

/-- Yields a scaled number. -/
def float (negative : Bool) (significand : Nat) (exponent : Int) : Reading Number :=
  match scaled? negative significand exponent with
  | some number => return .float number
  | none => failHere .numberOutOfRange

/-- Reads an exponent, whose mark comes next. One that does not fit 32 bits makes the number zero or too great; in the
second case the digits behind are not read. -/
def exponent (negative : Bool) (significand : Nat) (shift : Int) : Reading Number := do
  Scan.skip 1
  let down := (← Scan.peek?) == some '-'
  if down || (← Scan.peek?) == some '+' then Scan.skip 1
  match ← Scan.peek? with
  | none => failHere .valueEnds
  | some c =>
    if !c.isDigit then failAhead .number
    else
      let start ← get
      let digits ← Scan.takeWhile Char.isDigit
      let fits := digits.scanl (Text.appendDigit 10) 0
      match fits.findIdx? (Nat.pow 2 31 ≤ ·) with
      | none =>
        let power : Int := (fits.getLast?).getD 0
        float negative significand (shift + if down then -power else power)
      | some count =>
        if significand ≠ 0 && !down then
          set (start.drop count)
          failHere .numberOutOfRange
        else return .float (if negative then -0.0 else 0.0)

/-- Reads a fraction, whose point comes next, and an exponent behind it. -/
def fraction (negative : Bool) (significand : Nat) (shift : Int) : Reading Number := do
  Scan.skip 1
  let digits ← Scan.takeWhile Char.isDigit
  if digits.isEmpty then
    match ← Scan.peek? with
    | none => failHere .valueEnds
    | some _ => failAhead .number
  else
    let (significand, count) := absorb significand digits
    match ← Scan.peek? with
    | some 'e' | some 'E' => exponent negative significand (shift - count)
    | _ => float negative significand (shift - count)

/-- An integer if it fits 64 bits. -/
def whole (negative : Bool) (significand : Nat) : Number :=
  if !negative then .integer significand
  else if significand = 0 || Nat.pow 2 63 < significand then .float (-significand.toUInt64.toFloat)
  else .integer (-significand)

/-- Reads a number behind its sign. -/
def number (negative : Bool) : Reading Number := do
  match ← Scan.peek? with
  | none => failHere .valueEnds
  | some c =>
    if !c.isDigit then failAhead .number
    else
      let digits ← if c = '0' then (do Scan.skip 1; return [c]) else Scan.takeWhile Char.isDigit
      let (significand, count) := absorb 0 digits
      let left := digits.length - count
      match ← Scan.peek? with
      | some '.' => fraction negative significand left
      | some 'e' | some 'E' => exponent negative significand left
      | next =>
        if c = '0' && next.any Char.isDigit then failAhead .number
        else if left = 0 then return whole negative significand
        else float negative significand left

end Reading

end Cratewright.Json
