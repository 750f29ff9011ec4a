import Cratewright.Text.Width

/-!
# Lines of a reported source

A source is cut behind every character that ends a line; a carriage return with a newline behind it is one end. An
empty source has no lines. Lines are found by the offset of a character.
-/

namespace Cratewright.Report

open Text (Line)

/-- Whether a character ends a line. -/
def endsLine (c : Char) : Bool :=
  c == '\r' || c == '\n' || c == '\x0b' || c == '\x0c' || c == '\u0085' || c == '\u2028' || c == '\u2029'

/-- The lines of a source, each with the characters that end it. -/
def cut : List Char → List (List Char)
  | [] => []
  | '\r' :: '\n' :: rest => ['\r', '\n'] :: cut rest
  | c :: rest =>
    if endsLine c then [c] :: cut rest
    else match cut rest with
      | [] => [[c]]
      | line :: lines => (c :: line) :: lines

/-- No character is lost by the cut. -/
theorem flatten_cut (source : List Char) : (cut source).flatten = source := by
  fun_induction cut source with
  | case1 => rfl
  | case2 rest ih => simp [ih]
  | case3 c rest _ ends ih => simp [ih]
  | case4 c rest _ _ none ih => simpa [none] using ih
  | case5 c rest _ _ line lines found ih => simpa [found] using ih

/-- A line of a source: how many lines and characters stand before it, and its own characters. -/
structure SourceLine where
  index : Nat
  offset : Nat
  chars : List Char
deriving DecidableEq, Repr

namespace SourceLine

/-- The number of a line, counted from one. -/
def number (line : SourceLine) : Nat := line.index + 1

/-- The characters that are shown. -/
def shown (line : SourceLine) : Line := Text.trimEnd line.chars

/-- The columns of each of the first characters of a line; past the end of what is shown a place takes one. -/
def columnsUpTo (line : SourceLine) (count : Nat) : List Nat :=
  let shown := line.shown
  (shown.take count).zipIdx.map (fun (c, index) => (Text.drawn index c).2) ++
    List.replicate (count - shown.length) 1

end SourceLine

/-- Numbers lines and counts the characters before them. -/
def numbered (index offset : Nat) : List (List Char) → List SourceLine
  | [] => []
  | chars :: rest => ⟨index, offset, chars⟩ :: numbered (index + 1) (offset + chars.length) rest

/-- The lines of a source. -/
def sourceLines (source : String) : List SourceLine := numbered 0 0 (cut source.toList)

/-- The line of the character at an offset. The end of the source belongs to its last line, and beyond it there is
none. -/
def lineAt? (source : String) (offset : Nat) : Option SourceLine :=
  if offset ≤ source.length then
    ((sourceLines source).takeWhile fun line => line.offset ≤ offset).getLast?
  else none

end Cratewright.Report
