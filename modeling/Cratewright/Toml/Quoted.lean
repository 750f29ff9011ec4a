import Cratewright.Text.Digit
import Cratewright.Toml.Failure

/-!
# Quoted texts of TOML

A text stands in quotes, or in triple quotes if it has several lines. Between double quotes a backslash starts an
escape; between single quotes every character stands for itself. A line end in a text counts as a newline.
-/

namespace Cratewright.Toml

open Text (Scan)

/-- The two kinds of quotes. -/
inductive Quote
  | double
  | single
deriving DecidableEq, Repr

/-- The character of a quote. -/
def Quote.char : Quote → Char
  | .double => '"'
  | .single => '\''

/-- Whether a character stands for itself between quotes. -/
def Quote.isPlain (quote : Quote) (c : Char) : Bool :=
  (c == '\t' || ' ' ≤ c) && c ≠ '\x7f' && c ≠ quote.char && (quote == .single || c ≠ '\\')

namespace Reading

/-- Reads the code of a character with a fixed number of hexadecimal digits. -/
def code (count : Nat) : Reading Char := do
  let digits := (← get).rest.take count
  let code := Text.ofDigits 16 digits
  if digits.length = count && digits.all (Text.isDigitOf 16) && code.isValidChar then
    Scan.skip count
    return Char.ofNat code
  else malformed

/-- Reads an escape behind its backslash. -/
def escape : Reading Char := do
  let letter ← Scan.peek?
  Scan.skip 1
  match letter with
  | some 'b' => return '\x08'
  | some 't' => return '\t'
  | some 'n' => return '\n'
  | some 'f' => return '\x0c'
  | some 'r' => return '\r'
  | some '"' => return '"'
  | some '\\' => return '\\'
  | some 'u' => code 4
  | some 'U' => code 8
  | _ => malformed

/-- Reads a part of a text on one line, an escape or as many plain characters as there are. -/
def piece (quote : Quote) : Reading (Option (List Char)) := do
  if quote == .double then
    if ← Scan.accept ['\\'] then return some [← escape]
  let chars ← Scan.takeWhile quote.isPlain
  return if chars.isEmpty then none else some chars

/-- Reads a text on one line behind its opening quote. -/
def lineText (quote : Quote) : Reading String := do
  let pieces ← Scan.many (piece quote)
  demand [quote.char]
  return String.ofList pieces.flatten

/-- Reads a backslash at the end of a line, with all space and line ends behind it. -/
def joinedLine : Reading (Option Unit) := Scan.attempt do
  unless ← Scan.accept ['\\'] do return none
  skipSpace
  unless ← newline do return none
  let step (_ : Unit) : Reading (Option Unit) := do
    skipSpace
    return if ← newline then some () else none
  return some (← Scan.iterate step ())

/-- Reads a part of a text of several lines. One or two quotes belong to the text if no quote follows them. -/
def linesPiece (quote : Quote) : Reading (Option (List Char)) := do
  let quotes := (← get).rest.takeWhile (· == quote.char)
  if 3 ≤ quotes.length then return none
  else if !quotes.isEmpty then
    Scan.skip quotes.length
    return some quotes
  else if ← newline then return some ['\n']
  else if quote == .double then
    match ← joinedLine with
    | some _ => return some []
    | none => piece quote
  else piece quote

/-- Reads a text of several lines behind its opening quotes. A line end right behind them is dropped, and up to two
quotes may stand before the closing ones. -/
def linesText (quote : Quote) : Reading String := do
  let _ ← newline
  let pieces ← Scan.many (linesPiece quote)
  let quotes := (← get).rest.takeWhile (· == quote.char)
  let inner := min (quotes.length - 3) 2
  Scan.skip inner
  demand (List.replicate 3 quote.char)
  return String.ofList (pieces.flatten ++ List.replicate inner quote.char)

/-- Reads a text with either kind of quotes. -/
def text (quote : Quote) : Reading String := do
  if ← Scan.accept (List.replicate 3 quote.char) then linesText quote
  else
    demand [quote.char]
    lineText quote

end Reading

end Cratewright.Toml
