/-!
# Digits

The value of a digit, and of a number written in digits of a base. Only ASCII has digits here.
-/

namespace Cratewright.Text

/-- The value of a hexadecimal digit in either case; the decimal digits are among them. -/
def digitValue? (c : Char) : Option Nat :=
  if '0' ≤ c && c ≤ '9' then some (c.toNat - '0'.toNat)
  else if 'a' ≤ c && c ≤ 'f' then some (c.toNat - 'a'.toNat + 10)
  else if 'A' ≤ c && c ≤ 'F' then some (c.toNat - 'A'.toNat + 10)
  else none

/-- Whether a character is a digit of a base, which is at most sixteen. -/
def isDigitOf (base : Nat) (c : Char) : Bool := (digitValue? c).any (· < base)

/-- Appends a digit to a number; a character that is no digit counts as zero. -/
def appendDigit (base number : Nat) (digit : Char) : Nat := number * base + (digitValue? digit).getD 0

/-- The number that digits of a base write. -/
def ofDigits (base : Nat) (digits : List Char) : Nat := digits.foldl (appendDigit base) 0

end Cratewright.Text
