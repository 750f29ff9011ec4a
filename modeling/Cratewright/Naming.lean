import Cratewright.Text.LetterCase

/-!
# Names in snake case

`snakeCase` writes a name in camel case with underscores: every capital takes its lower-case form, and an underscore
goes before a capital that follows a small letter or an ASCII digit. Runs of capitals stay together.
-/

namespace Cratewright

/-- The characters of a name in snake case, where the flag tells whether a small letter or digit came just before. -/
def snakeChars : Bool → List Char → List Char
  | _, [] => []
  | afterSmall, c :: rest =>
    if Text.isUpper c then
      (if afterSmall then ['_'] else []) ++ Text.lowered c ++ snakeChars false rest
    else c :: snakeChars (Text.isLower c || c.isDigit) rest

/-- A name in snake case. -/
def snakeCase (name : String) : String := String.ofList (snakeChars false name.toList)

end Cratewright
