import Cratewright.Text.Cursor

/-!
# Faults in JSON texts

A fault is met at an offset. One that the next character shows is put behind the first byte of that character, and at
the end of the text it is put there.
-/

namespace Cratewright.Json

open Text (Scan)

/-- Why a text is no JSON document. -/
inductive Fault
  /-- The text ends where a value should start or go on. -/
  | valueEnds
  /-- The text ends within a quoted text. -/
  | stringEnds
  /-- The text ends within a list. -/
  | listEnds
  /-- The text ends within a record. -/
  | objectEnds
  /-- No value starts here. -/
  | value
  /-- A word is neither true, false nor null. -/
  | word
  /-- A key has no colon behind it. -/
  | colon
  /-- An item of a list has neither a comma nor a bracket behind it. -/
  | listSeparator
  /-- A member of a record has neither a comma nor a brace behind it. -/
  | objectSeparator
  /-- A key is not quoted. -/
  | key
  /-- A comma has nothing behind it. -/
  | trailingComma
  /-- Something stands behind the end. -/
  | trailingCharacters
  /-- A number breaks the grammar. -/
  | number
  /-- A number is too great for double precision. -/
  | numberOutOfRange
  /-- A quoted text holds a control character that is not escaped. -/
  | controlCharacter
  /-- An escape has no meaning. -/
  | escape
  /-- The first of two surrogates has no escape behind it. -/
  | surrogateEnds
  /-- A surrogate stands alone. -/
  | loneSurrogate
  /-- Too many lists and records stand around a value. -/
  | nesting
deriving DecidableEq, Repr

/-- The wording of a fault. -/
def Fault.message : Fault → String
  | .valueEnds => "EOF while parsing a value"
  | .stringEnds => "EOF while parsing a string"
  | .listEnds => "EOF while parsing a list"
  | .objectEnds => "EOF while parsing an object"
  | .value => "expected value"
  | .word => "expected ident"
  | .colon => "expected `:`"
  | .listSeparator => "expected `,` or `]`"
  | .objectSeparator => "expected `,` or `\x7d`"
  | .key => "key must be a string"
  | .trailingComma => "trailing comma"
  | .trailingCharacters => "trailing characters"
  | .number => "invalid number"
  | .numberOutOfRange => "number out of range"
  | .controlCharacter => "control character (\\u0000-\\u001F) found while parsing a string"
  | .escape => "invalid escape"
  | .surrogateEnds => "unexpected end of hex escape"
  | .loneSurrogate => "lone leading surrogate in hex escape"
  | .nesting => "recursion limit exceeded"

/-- A fault and the offset it is met at. -/
structure Failure where
  fault : Fault
  offset : Nat
deriving DecidableEq, Repr

/-- A scan of a JSON text. -/
abbrev Reading := Scan Failure

namespace Reading

variable {Value : Type}

/-- Fails where reading stands. -/
def failHere (fault : Fault) : Reading Value := do throw ⟨fault, ← Scan.offset⟩

/-- Fails at the next character. -/
def failAhead (fault : Fault) : Reading Value := do
  let ahead := if (← Scan.peek?).isSome then 1 else 0
  throw ⟨fault, (← Scan.offset) + ahead⟩

/-- Passes over white space. -/
def skipSpace : Reading Unit := Scan.skipWhile fun c => c == ' ' || c == '\n' || c == '\t' || c == '\r'

/-- Reads the rest of a word whose first letter chose it. -/
def word : List Char → Reading Unit
  | [] => return
  | letter :: letters => do
    match ← Scan.peek? with
    | none => failHere .valueEnds
    | some c =>
      if c = letter then
        Scan.skip 1
        word letters
      else failAhead .word

end Reading

end Cratewright.Json
