import Cratewright.Toml.Moment
import Cratewright.Toml.Number

/-!
# TOML documents

A document is read line by line: an entry goes to the table that the last header opened, and entries before the first
header go to the document. Main definition: `parse` gives the entries of a document, or the first fault met.
-/

namespace Cratewright.Toml

open Text (Scan Span)

namespace Reading

/-- Whether a character may stand in a key without quotes. -/
def isBare (c : Char) : Bool := c.isAlphanum || c == '_' || c == '-'

/-- Reads a key, if one comes next. -/
def key? : Reading (Option Key) := do
  let quoted (quote : Quote) : Reading (Option Key) := do
    let (text, span) ← spanned do
      demand [quote.char]
      lineText quote
    return some ⟨text, span⟩
  match ← Scan.peek? with
  | some '"' => quoted .double
  | some '\'' => quoted .single
  | _ =>
    let (chars, span) ← spanned (Scan.takeWhile isBare)
    return if chars.isEmpty then none else some ⟨String.ofList chars, span⟩

/-- The number of parts a key may have, and one more than the number of brackets and braces around a value. -/
def limit : Nat := 79

/-- Reads a dotted key, if one comes next: the keys that lead to a value and the key of the value itself. A dot without
a key behind it is left, and what has too many parts is no key. -/
def dottedKey? : Reading (Option (List Key × Key)) := do
  skipSpace
  match ← key? with
  | none => return none
  | some first =>
    skipSpace
    let step (keys : List Key × Key) : Reading (Option (List Key × Key)) := Scan.attempt do
      unless ← Scan.accept ['.'] do return none
      skipSpace
      match ← key? with
      | none => return none
      | some key =>
        skipSpace
        return some (keys.1 ++ [keys.2], key)
    let keys ← Scan.iterate step ([], first)
    return if limit < keys.1.length + 1 then none else some keys

/-- Reads a dotted key. -/
def dottedKey : Reading (List Key × Key) := do
  match ← dottedKey? with
  | some keys => return keys
  | none => malformed

/-- Reads a value without parts. -/
def scalar : Reading Scalar := do
  match ← Scan.peek? with
  | some '"' => return .text (← text .double)
  | some '\'' => return .text (← text .single)
  | some 't' =>
    demand ['t', 'r', 'u', 'e']
    return .boolean true
  | some 'f' =>
    demand ['f', 'a', 'l', 's', 'e']
    return .boolean false
  | _ =>
    match ← moment? with
    | some moment => return moment
    | none => number

/-- An entry of a table in braces: the keys that lead to a value, its own key, and the value. -/
structure Pair where
  path : List Key
  key : Key
  node : Node

/-- The entries of a table in braces. -/
def ofPairs (pairs : List Pair) : Except Fault Entries :=
  pairs.foldlM (fun entries pair => entries.insert .inBraces pair.key pair.node pair.path) []

/-- Reads the items of a list with its brackets. -/
def list (value : Reading Node) : Reading (List Node) := do
  demand ['[']
  let step (items : List Node) : Reading (Option (List Node)) := do
    skipLines
    unless items.isEmpty do
      unless ← Scan.accept [','] do return none
      skipLines
    if (← Scan.peek?) == some ']' then return none
    return some ((← value) :: items)
  let items ← Scan.iterate step []
  demand [']']
  return items.reverse

/-- Reads the next pair of a table in braces, if there is one, with the comma before it. -/
def pair? (value : Reading Node) (first : Bool) : Reading (Option Pair) := Scan.attempt do
  skipSpace
  unless first do
    unless ← Scan.accept [','] do return none
  match ← dottedKey? with
  | none => return none
  | some (path, key) =>
    demand ['=']
    skipSpace
    return some ⟨path, key, ← value⟩

/-- Reads the entries of a table with its braces, which stand on one line. That two entries clash is known as soon as
the last pair is read, before the closing brace. -/
def braces (value : Reading Node) : Reading Entries := do
  demand ['\x7b']
  let start ← Scan.offset
  let step (pairs : List Pair) : Reading (Option (List Pair)) := do
    return (← pair? value pairs.isEmpty).map (· :: pairs)
  let pairs ← Scan.iterate step []
  match ofPairs pairs.reverse with
  | .error fault => failAt fault start
  | .ok entries =>
    skipSpace
    demand ['\x7d']
    return entries

/-- Reads a value with at most `depth` brackets and braces around each part. -/
def value : Nat → Reading Node
  | 0 => do
    let (value, span) ← spanned scalar
    return .scalar value span
  | depth + 1 => do
    match ← Scan.peek? with
    | some '[' =>
      let (items, span) ← spanned (list (value depth))
      return .list items span
    | some '\x7b' =>
      let (entries, span) ← spanned (braces (value depth))
      return .table .braces (some span) entries
    | _ => do
      let (value, span) ← spanned scalar
      return .scalar value span

/-- Accepts a change of the document, or fails with its fault at an offset. -/
def accept (change : Except Fault Draft) (offset : Nat) : Reading Draft :=
  match change with
  | .ok draft => return draft
  | .error fault => failAt fault offset

/-- Reads a header. -/
def header (draft : Draft) : Reading Draft := do
  let start ← Scan.offset
  let listed ← Scan.accept ['[', '[']
  unless listed do demand ['[']
  let (path, key) ← dottedKey
  demand (if listed then [']', ']'] else [']'])
  let span : Span := ⟨start, ← Scan.offset⟩
  endLine
  accept (if listed then draft.openListed path key span else draft.openTable path key span) start

/-- Reads an entry. -/
def entry (draft : Draft) : Reading Draft := do
  let start ← Scan.offset
  let (path, key) ← dottedKey
  demand ['=']
  skipSpace
  let node ← value limit
  endLine
  accept (draft.insert path key node) start

/-- Reads a line, if there is one. -/
def line (draft : Draft) : Reading (Option Draft) := do
  skipSpace
  match ← Scan.peek? with
  | none => return none
  | some '#' =>
    endLine
    return some draft
  | some '[' => return some (← header draft)
  | some c =>
    if ← newline then return some draft
    else if c = '\r' then malformed
    else return some (← entry draft)

/-- Reads a document. A byte order mark at the front is passed over. -/
def document : Reading Entries := do
  let _ ← Scan.accept ['\uFEFF']
  let draft ← Scan.iterate line {}
  match draft.close with
  | .ok entries => return entries
  | .error fault => failAt fault (← Scan.offset)

end Reading

/-- The entries of a document. -/
def parse (source : String) : Except Failure Entries :=
  match Reading.document (.ofText source) with
  | .ok entries _ => .ok entries
  | .error failure _ => .error failure

end Cratewright.Toml
