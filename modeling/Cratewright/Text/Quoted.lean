import Cratewright.Text.EscapeTable

/-!
# Quoted texts

A text between double quotes, in the form of a string literal of the generated language: quote and backslash take a
backslash, five controls have names, and every other character that would not show by itself is written by its code
point. An apostrophe stays as it is.
-/

namespace Cratewright.Text

/-- Whether a character that has no escape of its own is written by its code point. -/
def needsCode (c : Char) : Bool :=
  let code := c.toNat
  if code < 0x80 then code < 0x20 || code == 0x7F
  else EscapeTable.ranges.any fun (first, last) => first ≤ code && code ≤ last

/-- A code point in braces, in lower-case hexadecimal without leading zeros. -/
def codeEscape (c : Char) : String :=
  "\\u\x7b" ++ String.ofList (Nat.toDigits 16 c.toNat) ++ "\x7d"

/-- One character of a quoted text. -/
def quotedChar (c : Char) : String :=
  match c with
  | '\x00' => "\\0"
  | '\t' => "\\t"
  | '\r' => "\\r"
  | '\n' => "\\n"
  | '"' => "\\\""
  | '\\' => "\\\\"
  | other => if needsCode other then codeEscape other else String.singleton other

/-- A text in double quotes. -/
def quoted (text : String) : String :=
  "\"" ++ String.join (text.toList.map quotedChar) ++ "\""

end Cratewright.Text
