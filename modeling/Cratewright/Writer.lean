import Cratewright.Manifest
import Cratewright.RuntimeConfig
import Cratewright.Reference
import Cratewright.Template.Assignment

/-!
# The writer

A writer collects the lines of one module and the dependencies they need. A template is written line by line: its
placeholders are filled in order, and only when the whole template is filled do its lines reach the module. What is
filled in continues at the indentation of the line it stands in. A line that held placeholders and came out blank is
left out. Dependencies recorded before a failure stay recorded.
-/

namespace Cratewright

open Text (Line)
open Template (Arguments AssignedLine Piece)

/-- The state of writing one module. -/
structure Writer where
  config : RuntimeConfig
  modulePath : String
  lines : List Line := []
  level : Nat := 0
  manifest : Manifest := ∅

/-- An action on a writer. -/
abbrev Writing := Action CodegenError Writer

/-- A value for a placeholder: given the indentation it stands at, the text to fill in. -/
abbrev Filler := Line → Writing (List Char)

namespace Writer

/-- A writer for a module, with nothing written. -/
def new (config : RuntimeConfig) (modulePath : String) : Writer := { config, modulePath }

/-- The source written so far. -/
def contents (writer : Writer) : String := String.ofList (Text.terminated writer.lines)

/-- The blanks of one level of indentation. -/
def indent : Line := [' ', ' ', ' ', ' ']

/-- The indentation of a level. -/
def indentAt (level : Nat) : Line := (List.replicate level indent).flatten

/-- A line as it reaches the module: indented, without blanks at its end, and empty if it is blank. -/
def layOut (level : Nat) (line : Line) : Line :=
  if Text.blank line then [] else indentAt level ++ Text.trimEnd line

/-- Appends the lines of a text at the current level. -/
def emit (text : List Char) : Writing Unit :=
  modify fun writer => { writer with lines := writer.lines ++ (Text.split text).map (layOut writer.level) }

/-- Raises the level. -/
def indentBy (levels : Nat) : Writing Unit :=
  modify fun writer => { writer with level := writer.level + levels }

/-- Lowers the level, at most to zero. -/
def dedentBy (levels : Nat) : Writing Unit :=
  modify fun writer => { writer with level := writer.level - levels }

/-- Acts on the manifest of the writer. -/
def onManifest {Value : Type} (registration : Registration Value) : Writing Value := fun writer =>
  match registration writer.manifest with
  | .ok value manifest => .ok value { writer with manifest }
  | .error failure manifest => .error failure { writer with manifest }

/-- Records a dependency without writing anything. -/
def register (dependency : Dependency) : Writing Unit := do
  let _ ← onManifest (Manifest.register dependency)

/-- Resolves a reference for the module and records its dependency. -/
def resolve (reference : Reference) : Writing String := do
  match reference.resolve (← get).modulePath with
  | .error failure => throw failure
  | .ok resolved =>
    if let some dependency := resolved.dependency then
      register dependency
    return resolved.text

/-- Fills in the pieces of a line, from left to right. -/
def fill (leading : Line) : List (Piece Filler) → Writing (List Char)
  | [] => return []
  | .text text :: rest => do
    return text ++ (← fill leading rest)
  | .value filler :: rest => do
    let text ← filler leading
    return text ++ (← fill leading rest)

/-- Fills in lines from top to bottom, leaving out those with placeholders that come out blank. -/
def fillLines : List (AssignedLine Filler) → Writing (List (List Char))
  | [] => return []
  | line :: rest => do
    let text ← fill line.leading line.pieces
    let texts ← fillLines rest
    return if line.hasValue && Text.blank text then texts else text :: texts

/-- Appends texts one after another. -/
def emitAll : List (List Char) → Writing Unit
  | [] => return
  | text :: rest => do
    emit text
    emitAll rest

/-- Writes a template with its arguments. -/
def render (template : String) (arguments : Arguments Filler) : Writing Unit := do
  let assignment := Template.assign template arguments
  let texts ← fillLines assignment.lines
  match assignment.fault with
  | some fault => throw (.template fault)
  | none => emitAll texts

/-- Fills in a text as it is. -/
def fillText (text : String) : Filler := fun leading => return Text.hang leading text.toList

/-- Fills in what an action writes from the left margin of the same module, and records what it needs; blank lines at
its end are dropped. -/
def fillWritten (action : Writing Unit) : Filler := fun leading writer =>
  match action (new writer.config writer.modulePath) with
  | .error failure _ => .error failure writer
  | .ok () written =>
    match Manifest.merge written.manifest writer.manifest with
    | .error failure manifest => .error failure { writer with manifest }
    | .ok () manifest =>
      .ok (Text.hang leading (Text.join (Text.dropEndWhile List.isEmpty written.lines))) { writer with manifest }

end Writer

end Cratewright
