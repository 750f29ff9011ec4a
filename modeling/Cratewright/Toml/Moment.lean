import Cratewright.Toml.Quoted

/-!
# Dates and times of TOML documents

A date, a time, or a date with a time and perhaps an offset. A day must be one of its month, and a minute may have 61
seconds. Once a year with its dash or an hour with its colon is read, all that follows must be right; two digits that
are no hour are no part of a time, and what stands before them is read without them.
-/

namespace Cratewright.Toml

open Text (Scan)

/-- Whether a year has a day more. -/
def isLeap (year : Nat) : Bool := year % 4 == 0 && (year % 100 ≠ 0 || year % 400 == 0)

/-- The number of days of a month. -/
def daysOf (year month : Nat) : Nat :=
  if month = 2 then if isLeap year then 29 else 28
  else if month ∈ [4, 6, 9, 11] then 30
  else 31

namespace Reading

/-- Reads two digits whose number lies in a range. -/
def twoDigits (least greatest : Nat) : Reading Nat := do
  let digits := (← get).rest.take 2
  let number := Text.ofDigits 10 digits
  if digits.length = 2 && digits.all (Text.isDigitOf 10) && least ≤ number && number ≤ greatest then
    Scan.skip 2
    return number
  else malformed

/-- Whether a number of digits comes next, with a given character behind them. -/
def digitsBefore (count : Nat) (mark : Char) : Reading Bool := do
  let rest := (← get).rest
  return (rest.take count).all (Text.isDigitOf 10) && (rest.drop count).head? == some mark

/-- Whether an hour comes next, with a colon behind it. -/
def hourBefore : Reading Bool := do
  return (← digitsBefore 2 ':') && Text.ofDigits 10 ((← get).rest.take 2) ≤ 23

/-- Reads a date behind its year. -/
def monthAndDay (year : Nat) : Reading Unit := do
  demand ['-']
  let month ← twoDigits 1 12
  demand ['-']
  let _ ← twoDigits 1 (daysOf year month)

/-- Reads the fraction of a second, if one comes next. -/
def fraction : Reading Unit := do
  match (← get).rest with
  | '.' :: c :: _ =>
    if Text.isDigitOf 10 c then
      Scan.skip 1
      Scan.skipWhile (Text.isDigitOf 10)
  | _ => return

/-- Reads a time. -/
def time : Reading Unit := do
  let _ ← twoDigits 0 23
  demand [':']
  let _ ← twoDigits 0 59
  demand [':']
  let _ ← twoDigits 0 60
  fraction

/-- Reads an offset from universal time, if one comes next. -/
def zone : Reading Unit := do
  match ← Scan.peek? with
  | some 'Z' | some 'z' => Scan.skip 1
  | some '+' | some '-' =>
    Scan.skip 1
    let _ ← twoDigits 0 23
    demand [':']
    let _ ← twoDigits 0 59
  | _ => return

/-- Reads a time and an offset behind a date, if they come next. -/
def timeOfDay : Reading (Option Unit) := Scan.attempt do
  match ← Scan.peek? with
  | some 'T' | some 't' | some ' ' =>
    Scan.skip 1
    unless ← hourBefore do return none
    time
    zone
    return some ()
  | _ => return none

/-- Reads a date or time, if one comes next. Four digits with a dash behind them are a year. -/
def moment? : Reading (Option Scalar) := do
  let start ← get
  if ← digitsBefore 4 '-' then
    let year := Text.ofDigits 10 (start.rest.take 4)
    Scan.skip 4
    monthAndDay year
    let _ ← timeOfDay
  else if ← hourBefore then time
  else return none
  return some (.moment (start.rest.take (start.left - (← get).left)))

end Reading

end Cratewright.Toml
