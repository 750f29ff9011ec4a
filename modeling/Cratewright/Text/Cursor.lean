import Cratewright.Action

/-!
# Reading a text from left to right

A cursor holds what is still to be read of a text and counts the bytes before it. A scan is an action on a cursor: it
reads some characters and yields a value, or fails where it stands. `iterate` repeats a scan and ends without a bound,
because a step that reads nothing is its last.
-/

namespace Cratewright.Text

/-- The characters of a text still to be read, how many they are, and the number of bytes before them. -/
structure Cursor where
  rest : List Char
  offset : Nat := 0
  left : Nat := rest.length
  left_eq : left = rest.length := by rfl

/-- The cursor in front of a text. -/
def Cursor.ofText (text : String) : Cursor := { rest := text.toList }

/-- The bytes that characters take in UTF-8. -/
def size (chars : List Char) : Nat := chars.foldr (fun c total => c.utf8Size + total) 0

/-- The cursor behind the next characters. -/
def Cursor.drop (cursor : Cursor) (count : Nat) : Cursor where
  rest := cursor.rest.drop count
  offset := cursor.offset + size (cursor.rest.take count)
  left := cursor.left - count
  left_eq := by rw [cursor.left_eq, List.length_drop]

/-- An action on a cursor. -/
abbrev Scan (Failure : Type) := Action Failure Cursor

namespace Scan

variable {Failure Result Value : Type}

/-- The next character, which stays unread. -/
def peek? : Scan Failure (Option Char) := return (← get).rest.head?

/-- The number of bytes read. -/
def offset : Scan Failure Nat := return (← get).offset

/-- Reads a number of characters. -/
def skip (count : Nat) : Scan Failure Unit := modify (·.drop count)

/-- Reads a given text if it comes next, and tells whether it did. -/
def accept (expected : List Char) : Scan Failure Bool := do
  if expected.isPrefixOf (← get).rest then
    skip expected.length
    return true
  else return false

/-- Reads characters as long as they pass a test. -/
def takeWhile (test : Char → Bool) : Scan Failure (List Char) := do
  let taken := (← get).rest.takeWhile test
  skip taken.length
  return taken

/-- Passes over characters as long as they pass a test. -/
def skipWhile (test : Char → Bool) : Scan Failure Unit := do
  let _ ← takeWhile test

/-- Returns to the place where a scan began if it yields nothing. -/
def attempt (scan : Scan Failure (Option Result)) : Scan Failure (Option Result) := do
  let start ← get
  match ← scan with
  | some result => return some result
  | none =>
    set start
    return none

/-- Changes how a scan reports a failure. -/
def mapFailure {Other : Type} (report : Failure → Other) (scan : Scan Failure Result) : Scan Other Result :=
  fun cursor =>
    match scan cursor with
    | .ok result cursor => .ok result cursor
    | .error failure cursor => .error (report failure) cursor

/-- Repeats a step on a value until it yields nothing; a step that reads nothing is the last. -/
def iterate (step : Value → Scan Failure (Option Value)) (value : Value) : Scan Failure Value := fun cursor =>
  match step value cursor with
  | .error failure next => .error failure next
  | .ok none next => .ok value next
  | .ok (some value) next =>
    if next.left < cursor.left then iterate step value next else .ok value next
termination_by cursor => cursor.left

/-- The values of a scan that is repeated until it yields nothing; a scan that reads nothing is the last. -/
def many (scan : Scan Failure (Option Result)) : Scan Failure (List Result) := do
  let step (results : List Result) : Scan Failure (Option (List Result)) := do
    return (← scan).map (· :: results)
  return (← iterate step []).reverse

end Scan

end Cratewright.Text
