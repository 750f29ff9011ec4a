import Cratewright.Text.Lines

/-!
# Templates in this library

Templates are written as lists of lines, with `⟦` and `⟧` for the braces of the generated code, so that a template
never reads as an interpolated string.
-/

namespace Cratewright.Template

/-- The brace that a bracket stands for. -/
def brace (c : Char) : Char :=
  if c = '⟦' then '\x7b' else if c = '⟧' then '\x7d' else c

/-- The template made of lines. -/
def source (lines : List String) : String :=
  String.ofList (Text.join (lines.map fun line => line.toList.map brace))

end Cratewright.Template
