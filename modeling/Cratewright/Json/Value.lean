import Cratewright.Json.Number
import Cratewright.Json.Quoted

/-!
# JSON values

A value with the numbers told apart by their written form: one with a point or an exponent is of double precision even
if it is whole. The members of a record keep the order in which they are written.
-/

namespace Cratewright.Json

open Text (Scan)

/-- A JSON value. -/
inductive Value
  | null
  | boolean (value : Bool)
  | number (value : Number)
  | text (value : String)
  | list (items : List Value)
  | record (members : List (String × Value))

namespace Reading

/-- Reads the key of a member and the colon behind it. -/
def colon : Reading Unit := do
  skipSpace
  match ← Scan.peek? with
  | some ':' => Scan.skip 1
  | some _ => failAhead .colon
  | none => failAhead .objectEnds

/-- Passes to the next item of a list, and tells whether there is one; the closing bracket stays unread. -/
def nextItem (first : Bool) : Reading Bool := do
  skipSpace
  match ← Scan.peek? with
  | none => failAhead .listEnds
  | some ']' => return false
  | some c =>
    if first then return true
    else if c = ',' then
      Scan.skip 1
      skipSpace
      match ← Scan.peek? with
      | none => failAhead .valueEnds
      | some ']' => failAhead .trailingComma
      | some _ => return true
    else failAhead .listSeparator

/-- Passes to the key of the next member of a record, and tells whether there is one; the closing brace stays unread.
-/
def nextKey (first : Bool) : Reading Bool := do
  let quote : Reading Bool := do
    match ← Scan.peek? with
    | some '"' =>
      Scan.skip 1
      return true
    | _ => failAhead .key
  skipSpace
  match ← Scan.peek? with
  | none => failAhead .objectEnds
  | some '\x7d' => return false
  | some c =>
    if first then quote
    else if c = ',' then
      Scan.skip 1
      skipSpace
      match ← Scan.peek? with
      | none => failAhead .valueEnds
      | some '\x7d' => failAhead .trailingComma
      | some _ => quote
    else failAhead .objectSeparator

/-- Reads the closing bracket of a list. -/
def endList : Reading Unit := do
  skipSpace
  match ← Scan.peek? with
  | none => failAhead .listEnds
  | some ']' => Scan.skip 1
  | some ',' =>
    Scan.skip 1
    skipSpace
    match ← Scan.peek? with
    | some ']' => failAhead .trailingComma
    | _ => failAhead .trailingCharacters
  | some _ => failAhead .trailingCharacters

/-- Reads the closing brace of a record. -/
def endRecord : Reading Unit := do
  skipSpace
  match ← Scan.peek? with
  | none => failAhead .objectEnds
  | some '\x7d' => Scan.skip 1
  | some ',' => failAhead .trailingComma
  | some _ => failAhead .trailingCharacters

/-- Reads a value that is neither list nor record. -/
def scalar : Reading Value := do
  match ← Scan.peek? with
  | some 'n' =>
    Scan.skip 1
    word ['u', 'l', 'l']
    return .null
  | some 't' =>
    Scan.skip 1
    word ['r', 'u', 'e']
    return .boolean true
  | some 'f' =>
    Scan.skip 1
    word ['a', 'l', 's', 'e']
    return .boolean false
  | some '-' =>
    Scan.skip 1
    return .number (← number true)
  | some '"' =>
    Scan.skip 1
    return .text (← text)
  | some c => if c.isDigit then return .number (← number false) else failAhead .value
  | none => failAhead .valueEnds

/-- Reads a value with at most `depth` lists and records around each scalar. -/
def value : Nat → Reading Value
  | 0 => do
    skipSpace
    match ← Scan.peek? with
    | some '[' | some '\x7b' => failAhead .nesting
    | _ => scalar
  | depth + 1 => do
    skipSpace
    match ← Scan.peek? with
    | some '[' =>
      Scan.skip 1
      let step (items : List Value) : Reading (Option (List Value)) := do
        if ← nextItem items.isEmpty then return some ((← value depth) :: items) else return none
      let items ← Scan.iterate step []
      endList
      return .list items.reverse
    | some '\x7b' =>
      Scan.skip 1
      let step (members : List (String × Value)) : Reading (Option (List (String × Value))) := do
        if ← nextKey members.isEmpty then
          let key ← text
          colon
          return some ((key, ← value depth) :: members)
        else return none
      let members ← Scan.iterate step []
      endRecord
      return .record members.reverse
    | _ => scalar

/-- Reads the end of a document. -/
def endDocument : Reading Unit := do
  skipSpace
  if (← Scan.peek?).isSome then failAhead .trailingCharacters

end Reading

/-- The number of lists and records that may stand around a value. -/
def deepest : Nat := 127

/-- Reads a text that holds a single value. -/
def parse (source : String) : Except Failure Value :=
  let document : Reading Value := do
    let value ← Reading.value deepest
    Reading.endDocument
    return value
  match document (.ofText source) with
  | .ok value _ => .ok value
  | .error failure _ => .error failure

/-- The member of a record under a key, the last of several. -/
def Value.member? (value : Value) (key : String) : Option Value :=
  match value with
  | .record members => (members.reverse.find? (·.1 == key)).map (·.2)
  | _ => none

end Cratewright.Json
