import Cratewright.Json.Fault
import Cratewright.Text.Digit

/-!
# Quoted texts of JSON

A text stands in double quotes. A backslash starts an escape, control characters must be escaped, and a character
beyond the first 65536 may be escaped by its two surrogates.
-/

namespace Cratewright.Json

open Text (Scan)

/-- Whether a code is the first of two surrogates. -/
def isLeading (code : Nat) : Bool := 0xD800 ≤ code && code < 0xDC00

/-- Whether a code is the second of two surrogates. -/
def isTrailing (code : Nat) : Bool := 0xDC00 ≤ code && code < 0xE000

/-- The character of two surrogates. -/
def pairedChar (leading trailing : Nat) : Char :=
  Char.ofNat (0x10000 + (leading - 0xD800) * 0x400 + (trailing - 0xDC00))

namespace Reading

/-- Reads four hexadecimal digits. The four bytes they should take count as read even if they hold something else. -/
def hexCode : Reading Nat := do
  let cursor ← get
  if Text.size (cursor.rest.take 4) < 4 then
    throw ⟨.stringEnds, cursor.offset + Text.size cursor.rest⟩
  else
    let digits := cursor.rest.take 4
    if digits.all (Text.isDigitOf 16) then
      Scan.skip 4
      return Text.ofDigits 16 digits
    else throw ⟨.escape, cursor.offset + 4⟩

/-- Reads a character that must follow the first of two surrogates. -/
def afterLeading (expected : Char) : Reading Unit := do
  match ← Scan.peek? with
  | none => failHere .stringEnds
  | some c => if c = expected then Scan.skip 1 else failAhead .surrogateEnds

/-- Reads the code of an escaped character. -/
def codeEscape : Reading Char := do
  let code ← hexCode
  if isTrailing code then failHere .loneSurrogate
  else if isLeading code then
    afterLeading '\\'
    afterLeading 'u'
    let trailing ← hexCode
    if isTrailing trailing then return pairedChar code trailing else failHere .loneSurrogate
  else return Char.ofNat code

/-- Reads an escape behind its backslash. -/
def escape : Reading Char := do
  let named (meant : Char) : Reading Char := do
    Scan.skip 1
    return meant
  match ← Scan.peek? with
  | none => failHere .stringEnds
  | some '"' => named '"'
  | some '\\' => named '\\'
  | some '/' => named '/'
  | some 'b' => named '\x08'
  | some 'f' => named '\x0c'
  | some 'n' => named '\n'
  | some 'r' => named '\r'
  | some 't' => named '\t'
  | some 'u' =>
    Scan.skip 1
    codeEscape
  | some _ => failAhead .escape

/-- Whether a character stands for itself in a quoted text. -/
def isPlain (c : Char) : Bool := c ≠ '"' && c ≠ '\\' && ' ' ≤ c

/-- Reads a part of a quoted text, an escape or as many plain characters as there are; nothing at the closing quote.
-/
def piece : Reading (Option (List Char)) := do
  match ← Scan.peek? with
  | none => failHere .stringEnds
  | some '"' => return none
  | some '\\' =>
    Scan.skip 1
    return some [← escape]
  | some c => if isPlain c then return some (← Scan.takeWhile isPlain) else failAhead .controlCharacter

/-- Reads a text behind its opening quote. -/
def text : Reading String := do
  let pieces ← Scan.many piece
  Scan.skip 1
  return String.ofList pieces.flatten

end Reading

end Cratewright.Json
