import Cratewright.Text.Cursor
import Cratewright.Text.Lines
import Cratewright.Text.Position

/-!
# Excerpts of a document

An excerpt shows the line that a span starts on, with its number in a margin and carets below the span. Columns count
characters; the length of the carets is measured in bytes.
-/

namespace Cratewright.Toml

open Text (Span)

/-- The characters of a text that end before or at an offset. -/
def charsBefore (source : List Char) (offset : Nat) : List Char :=
  match source with
  | [] => []
  | c :: rest => if c.utf8Size ≤ offset then c :: charsBefore rest (offset - c.utf8Size) else []

/-- The place of an offset: the number of lines before it, and of characters before it on its line. -/
def placeOf (source : List Char) (offset : Nat) : Nat × Nat :=
  let before := charsBefore source offset
  (before.count '\n', (before.reverse.takeWhile (· ≠ '\n')).length)

/-- The number of carets below a span: as many as it has bytes on its line, and at least one. -/
def caretsBelow (span : Span) (line : List Char) (column : Nat) : Nat :=
  max 1 (min (span.stop - span.start) (Text.size line - column))

/-- A message below the line it is about. -/
def excerpt (source : String) (span : Span) (message : String) : String :=
  let (line, column) := placeOf source.toList span.start
  let content := (Text.split source.toList)[line]?.getD []
  let number := toString (line + 1)
  let margin := "".pushn ' ' (number.length + 1) ++ "|"
  "TOML parse error at line " ++ number ++ ", column " ++ toString (column + 1) ++ "\n" ++
    margin ++ "\n" ++
    number ++ " | " ++ String.ofList content ++ "\n" ++
    margin ++ "".pushn ' ' (column + 1) ++ "".pushn '^' (caretsBelow span content column) ++ "\n" ++
    message ++ "\n"

end Cratewright.Toml
