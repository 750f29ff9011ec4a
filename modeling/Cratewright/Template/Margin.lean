import Cratewright.Text.Lines

/-!
# The margin of a template

A template may be written with blank lines around it and indented as a whole. `dedent` removes both: the blank lines
at its start and end and the indentation by spaces and tabs that its lines have in common. Other blank characters at
the start of a line are text. Blanks at the end of a line go too, and a blank line inside comes back empty.
-/

namespace Cratewright.Template

open Text (Line blank)

/-- Whether a character counts towards the margin. -/
def isMarginal (c : Char) : Bool := c == ' ' || c == '\t'

/-- The number of spaces and tabs a line starts with. -/
def indentation (line : Line) : Nat := (line.takeWhile isMarginal).length

/-- The indentation that all lines with text have in common. -/
def margin (lines : List Line) : Nat :=
  (((lines.filter (!blank ·)).map indentation).min?).getD 0

/-- Removes the blank lines before the first and after the last line with text. -/
def core (lines : List Line) : List Line := Text.dropEndWhile blank (lines.dropWhile blank)

/-- The lines of a template without its margin. -/
def dedent (template : List Char) : List Line :=
  let body := core (Text.split template)
  let width := margin body
  body.map fun line => if blank line then [] else Text.trimEnd (line.drop width)

end Cratewright.Template
