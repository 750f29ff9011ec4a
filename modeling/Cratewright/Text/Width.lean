import Cratewright.Text.Blank
import Cratewright.Text.WidthTable

/-!
# Columns of characters

The width of a character is the number of columns it takes on a screen. A tab reaches to the next multiple of four
columns, counted by characters, and every other blank character is drawn as a space.
-/

namespace Cratewright.Text

/-- Whether a code point lies in one of some ranges. -/
def inRanges (ranges : List (Nat × Nat)) (code : Nat) : Bool :=
  ranges.any fun (first, last) => first ≤ code && code ≤ last

/-- The columns of a character that is not blank. -/
def columns (c : Char) : Nat :=
  if c.toNat < 0xA0 then 1
  else if inRanges WidthTable.narrow c.toNat then 0
  else if inRanges WidthTable.wide c.toNat then 2
  else if c.toNat = WidthTable.widest then 3
  else 1

/-- The columns between tab stops. -/
def tabWidth : Nat := 4

/-- How a character is drawn when some characters stand before it on its line: the character shown and the columns it
takes. -/
def drawn (before : Nat) (c : Char) : Char × Nat :=
  if c = '\t' then (' ', tabWidth - before % tabWidth)
  else if isBlank c then (' ', 1)
  else (c, columns c)

end Cratewright.Text
