import Cratewright.Text.Position

/-!
# Tables of a TOML document

A table holds its entries in the order in which their keys were first written. What may be added to a table depends on
how it came to be: a header opens a table once, and a dotted key reaches only tables that dotted keys made. `insert`
adds a value by its dotted key, and `follow` goes along the keys of a header.
-/

namespace Cratewright.Toml

open Text (Span)

/-- A key and where it is written. -/
structure Key where
  text : String
  span : Span
deriving DecidableEq, Repr

/-- A value without parts. -/
inductive Scalar
  | text (value : String)
  | integer (value : Int)
  | float (value : Float)
  | boolean (value : Bool)
  /-- A date, a time or both, as it is written. -/
  | moment (written : List Char)

/-- How a table came to be. -/
inductive Origin
  /-- A header names it. -/
  | header
  /-- It lies on the way to a table that a header names. -/
  | way
  /-- It lies on the way to a value that a dotted key names. -/
  | dotted
  /-- It is written in braces. -/
  | braces
deriving DecidableEq, Repr

/-- What stands under a key. A header in double brackets adds a table to a list of tables. -/
inductive Node
  | scalar (value : Scalar) (span : Span)
  | list (items : List Node) (span : Span)
  | table (origin : Origin) (span : Option Span) (entries : List (Key × Node))
  | tables (items : List (Span × List (Key × Node)))

/-- The entries of a table. -/
abbrev Entries := List (Key × Node)

/-- Where a node is written, if it is written in one piece. -/
def Node.span? : Node → Option Span
  | .scalar _ span => some span
  | .list _ span => some span
  | .table _ span _ => span
  | .tables [] => none
  | .tables (first :: items) => some ⟨first.1.start, ((first :: items).getLast (List.cons_ne_nil _ _)).1.stop⟩

/-- Why a text is no TOML document. -/
inductive Fault
  /-- The text breaks the grammar. -/
  | malformed
  /-- A key names a value twice; the keys of the header above are given unless the value stands in braces or under a
  table that the key may not reach. -/
  | repeatedKey (key : String) (header : Option (List String))
  /-- A header opens a table a second time. -/
  | repeatedTable (key : String)
  /-- A key leads through something that is no table. -/
  | noTable (key : String)
deriving DecidableEq, Repr

/-- Where entries are added. -/
inductive Place
  /-- Below the header with these keys. -/
  | below (header : List String)
  /-- In braces. -/
  | inBraces
deriving DecidableEq, Repr

/-- The keys of the header, if there is one. -/
def Place.header? : Place → Option (List String)
  | .below header => some header
  | .inBraces => none

namespace Entries

/-- What stands under a key. -/
def get? (entries : Entries) (key : Key) : Option Node :=
  (entries.find? fun entry => entry.1.text == key.text).map (·.2)

/-- Puts a node in place of what stands under a key, or behind all entries if the key is new. -/
def put (entries : Entries) (key : Key) (node : Node) : Entries :=
  match entries with
  | [] => [(key, node)]
  | entry :: rest =>
    if entry.1.text = key.text then (entry.1, node) :: rest else entry :: put rest key node

/-- Takes a key away. -/
def remove (entries : Entries) (key : Key) : Entries := entries.filter fun entry => entry.1.text ≠ key.text

/-- Adds a value by its dotted key, given the keys that lead to it and its own. -/
def insert (place : Place) (key : Key) (node : Node) : List Key → Entries → Except Fault Entries
  | [], entries =>
    if (entries.get? key).isSome then .error (.repeatedKey key.text place.header?)
    else .ok (entries.put key node)
  | step :: steps, entries =>
    match entries.get? step with
    | none => do return entries.put step (.table .dotted none (← insert place key node steps []))
    | some (.table .dotted span inner) => do
      return entries.put step (.table .dotted span (← insert place key node steps inner))
    | some (.table .way span inner) =>
      if steps.isEmpty then .error (.repeatedKey key.text none)
      else do return entries.put step (.table .way span (← insert place key node steps inner))
    | some (.table .header _ _) => .error (.repeatedKey step.text none)
    | some (.table .braces _ _) =>
      .error (if place = .inBraces then .repeatedKey step.text none else .noTable step.text)
    | some (.tables items) =>
      match items.getLast? with
      | none => .error (.noTable step.text)
      | some (span, inner) =>
        if steps.isEmpty then .error (.repeatedKey key.text none)
        else do return entries.put step (.tables (items.dropLast ++ [(span, ← insert place key node steps inner)]))
    | some _ => .error (.noTable step.text)

/-- Changes the table that the keys of a header lead to. Tables that are missing are made on the way, and a list of
tables leads to its last. -/
def follow {Result : Type} (change : Entries → Except Fault (Result × Entries)) :
    List Key → Entries → Except Fault (Result × Entries)
  | [], entries => change entries
  | step :: steps, entries =>
    match entries.get? step with
    | none => do
      let (result, inner) ← follow change steps []
      return (result, entries.put step (.table .way none inner))
    | some (.table .braces _ _) => .error (.noTable step.text)
    | some (.table origin span inner) => do
      let (result, inner) ← follow change steps inner
      return (result, entries.put step (.table origin span inner))
    | some (.tables items) =>
      match items.getLast? with
      | none => .error (.noTable step.text)
      | some (span, inner) => do
        let (result, inner) ← follow change steps inner
        return (result, entries.put step (.tables (items.dropLast ++ [(span, inner)])))
    | some _ => .error (.noTable step.text)

end Entries

/-- A table that a header opened and whose entries are being read. -/
structure OpenTable where
  path : List Key
  key : Key
  span : Span
  /-- Whether the table is added to a list of tables. -/
  listed : Bool
  entries : Entries

/-- A document as far as it is read. The entries above the first header belong to the document itself. -/
structure Draft where
  entries : Entries := []
  table : Option OpenTable := none

namespace Draft

/-- The entries with the open table among them. -/
def close (draft : Draft) : Except Fault Entries :=
  match draft.table with
  | none => .ok draft.entries
  | some table =>
    let change (entries : Entries) : Except Fault (Unit × Entries) :=
      match table.listed, entries.get? table.key with
      | true, some (.tables items) =>
        .ok ((), entries.put table.key (.tables (items ++ [(table.span, table.entries)])))
      | true, none => .ok ((), entries.put table.key (.tables [(table.span, table.entries)]))
      | false, none => .ok ((), entries.put table.key (.table .header (some table.span) table.entries))
      | _, some _ => .error (.repeatedTable table.key.text)
    return (← Entries.follow change table.path draft.entries).2

/-- Opens the table of a header. A table that lies on the way to another is taken up again. -/
def openTable (draft : Draft) (path : List Key) (key : Key) (span : Span) : Except Fault Draft := do
  let change (entries : Entries) : Except Fault (Entries × Entries) :=
    match entries.get? key with
    | none => .ok ([], entries)
    | some (.table .way _ inner) => .ok (inner, entries.remove key)
    | some _ => .error (.repeatedTable key.text)
  let (inner, entries) ← Entries.follow change path (← draft.close)
  return { entries, table := some { path, key, span, listed := false, entries := inner } }

/-- Opens a table that is added to a list of tables. -/
def openListed (draft : Draft) (path : List Key) (key : Key) (span : Span) : Except Fault Draft := do
  let change (entries : Entries) : Except Fault (Unit × Entries) :=
    match entries.get? key with
    | none => .ok ((), entries.put key (.tables []))
    | some (.tables _) => .ok ((), entries)
    | some _ => .error (.repeatedTable key.text)
  let (_, entries) ← Entries.follow change path (← draft.close)
  return { entries, table := some { path, key, span, listed := true, entries := [] } }

/-- Adds a value by its dotted key; the open table then reaches to the end of the value. -/
def insert (draft : Draft) (path : List Key) (key : Key) (node : Node) : Except Fault Draft := do
  match draft.table with
  | none => return { draft with entries := ← draft.entries.insert (.below []) key node path }
  | some table =>
    let header := (table.path ++ [table.key]).map Key.text
    let span := ⟨table.span.start, (node.span?.getD table.span).stop⟩
    return { draft with
      table := some { table with span, entries := ← table.entries.insert (.below header) key node path } }

end Draft

end Cratewright.Toml
