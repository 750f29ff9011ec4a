import Cratewright.Text.Cursor
import Cratewright.Toml.Table

/-!
# Reading TOML

A scan of a TOML document fails with a fault and the bytes it is about. A fault of the grammar is about the byte where
reading stands.
-/

namespace Cratewright.Toml

open Text (Scan Span)

/-- A fault and the bytes it is about. -/
structure Failure where
  fault : Fault
  span : Span
deriving DecidableEq, Repr

/-- A scan of a TOML document. -/
abbrev Reading := Scan Failure

namespace Reading

variable {Value : Type}

/-- Fails with a fault about the byte at an offset. -/
def failAt (fault : Fault) (offset : Nat) : Reading Value := throw ⟨fault, ⟨offset, offset + 1⟩⟩

/-- Fails because the text breaks the grammar. -/
def malformed : Reading Value := do failAt .malformed (← Scan.offset)

/-- Demands a given text. -/
def demand (expected : List Char) : Reading Unit := do
  unless ← Scan.accept expected do malformed

/-- The value of a scan and the bytes it read. -/
def spanned (scan : Reading Value) : Reading (Value × Span) := do
  let start ← Scan.offset
  let value ← scan
  return (value, ⟨start, ← Scan.offset⟩)

/-- Reads the end of a line, if it comes next. -/
def newline : Reading Bool := do
  if ← Scan.accept ['\n'] then return true else Scan.accept ['\r', '\n']

/-- Whether a character is a space or a tab. -/
def isSpace (c : Char) : Bool := c == ' ' || c == '\t'

/-- Passes over spaces and tabs. -/
def skipSpace : Reading Unit := Scan.skipWhile isSpace

/-- Passes over a comment up to the end of its line, if one comes next. Of the controls it may hold only a tab. -/
def skipComment : Reading Unit := do
  if ← Scan.accept ['#'] then Scan.skipWhile fun c => c == '\t' || (' ' ≤ c && c ≠ '\x7f')

/-- Reads what may stand behind a value or header on its line, and the end of the line or of the text. -/
def endLine : Reading Unit := do
  skipSpace
  skipComment
  unless ← newline do
    if (← Scan.peek?).isSome then malformed

/-- Passes over spaces, comments and line ends. -/
def skipLines : Reading Unit := do
  let step (_ : Unit) : Reading (Option Unit) := do
    skipSpace
    skipComment
    return if ← newline then some () else none
  Scan.iterate step ()

end Reading

end Cratewright.Toml
