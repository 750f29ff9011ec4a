/-!
# Blank characters and trimming

Blank means the Unicode property `White_Space`. Text is handled as a list of characters, and a line is a text without
a newline. Nothing here looks at the width of a character.
-/

namespace Cratewright.Text

/-- A line of text, as its characters. -/
abbrev Line := List Char

/-- Whether a character has the Unicode property `White_Space`. -/
def isBlank (c : Char) : Bool :=
  let code := c.toNat
  (0x09 ≤ code && code ≤ 0x0D) || code == 0x20 || code == 0x85 || code == 0xA0 || code == 0x1680 ||
    (0x2000 ≤ code && code ≤ 0x200A) || code == 0x2028 || code == 0x2029 || code == 0x202F ||
    code == 0x205F || code == 0x3000

/-- Whether a line has nothing but blank characters. -/
def blank (line : Line) : Bool := line.all isBlank

/-- The blank characters a line starts with. -/
def lead (line : Line) : Line := line.takeWhile isBlank

/-- Removes the characters at the end that satisfy a test. -/
def dropEndWhile {α : Type} (test : α → Bool) (items : List α) : List α :=
  (items.reverse.dropWhile test).reverse

/-- Removes the blank characters at the end. -/
def trimEnd (line : Line) : Line := dropEndWhile isBlank line

@[simp] theorem dropEndWhile_nil {α : Type} (test : α → Bool) : dropEndWhile test [] = [] := rfl

/-- The end of a list decides what is removed from it. -/
theorem dropEndWhile_concat {α : Type} (test : α → Bool) (items : List α) (item : α) :
    dropEndWhile test (items ++ [item]) =
      if test item then dropEndWhile test items else items ++ [item] := by
  by_cases h : test item <;> simp [dropEndWhile, h]

/-- Only the end is removed. -/
theorem dropEndWhile_prefix {α : Type} (test : α → Bool) (items : List α) :
    ∃ removed, items = dropEndWhile test items ++ removed ∧ ∀ item ∈ removed, test item = true := by
  refine ⟨(items.reverse.takeWhile test).reverse, ?_, ?_⟩
  · rw [dropEndWhile, ← List.reverse_append, List.takeWhile_append_dropWhile, List.reverse_reverse]
  · intro item mem
    exact List.all_eq_true.mp List.all_takeWhile item (List.mem_reverse.mp mem)

/-- The newline is blank. -/
theorem isBlank_newline : isBlank '\n' = true := by decide

end Cratewright.Text
