import Cratewright.Configuration.Field
import Cratewright.Json.Value
import Cratewright.Keyed

/-!
# Configurations from JSON

A configuration document is a record with the fields as members, or a list of at most two texts that stand for the
fields in order. A value that is at hand already is visited in ascending order of its keys, where a key written twice
has its last value. A text is checked while it is read: the first fault ends reading, and nothing behind it matters.
-/

namespace Cratewright.Configuration

open Text (Scan)

/-- JSON writes a number positionally if its first digit counts 0.00001 to 10 ^ 15. A last digit halfway between two
becomes even. -/
def jsonForm : Decimal.Form := ⟨fun power => -5 ≤ power && power ≤ 15, .even⟩

/-- How a fault tells of a JSON value. -/
def Found.ofJson : Json.Value → Found
  | .null => .null
  | .boolean value => .boolean value
  | .number (.integer value) => .integer value
  | .number (.float value) => .float value
  | .text value => .text value
  | .list _ => .list
  | .record _ => .record

/-- The text that a value must be. -/
def textOfJson : Json.Value → Except FieldFault String
  | .text value => .ok value
  | other => .error (.wrongType (.ofJson other) .text)

/-- Sets a member of a record. -/
def Settings.setMember (settings : Settings) (member : String × Json.Value) : Except FieldFault Settings := do
  let field ← settings.fieldToSet member.1
  return settings.set (← textOfJson member.2) field

/-- The configuration that a JSON value describes. -/
def ofJson (document : Json.Value) : Except FieldFault RuntimeConfig :=
  match document with
  | .record members => do
    let ordered : Keyed (Prod.fst : String × Json.Value → String) := .ofList members
    return (← ordered.items.foldlM Settings.setMember {}).configuration
  | .list items => do
    let texts ← (items.take 2).mapM textOfJson
    if 2 < items.length then .error (.surplusItems items.length)
    else return (Settings.ofItems texts).configuration
  | other => .error (.wrongType (.ofJson other) .configuration)

/-- The configuration of a document that may be absent. -/
def ofDocument : Option Json.Value → Except FieldFault RuntimeConfig
  | none => .ok {}
  | some document => ofJson document

/-- Why a text gives no configuration. -/
inductive JsonFault
  | malformed (fault : Json.Fault)
  | field (fault : FieldFault)

/-- The wording of a fault. -/
def JsonFault.message : JsonFault → String
  | .malformed fault => fault.message
  | .field fault => fault.message jsonForm

/-- A fault and the offset it is met at. -/
structure JsonFailure where
  fault : JsonFault
  offset : Nat

/-- A scan of a configuration text. -/
abbrev JsonReading := Scan JsonFailure

namespace JsonReading

instance : MonadLift Json.Reading JsonReading where
  monadLift := Scan.mapFailure fun failure => ⟨.malformed failure.fault, failure.offset⟩

variable {Value : Type}

/-- Reports a fault where reading stands. -/
def failHere (fault : FieldFault) : JsonReading Value := do throw ⟨.field fault, ← Scan.offset⟩

/-- Reports what comes in place of what is expected. Of a list or record nothing is read. -/
def failOnType (expected : Expected) : JsonReading Value := do
  let found ← match ← Scan.peek? with
    | some '[' => pure Found.list
    | some '\x7b' => pure Found.record
    | _ => do pure (Found.ofJson (← Json.Reading.scalar))
  failHere (.wrongType found expected)

/-- Reads a text. -/
def text : JsonReading String := do
  Json.Reading.skipSpace
  if ← Scan.accept ['"'] then Json.Reading.text else failOnType .text

/-- Reads a member, if there is one. Two faults are put off until the record is read on: a key that is unknown and one
that is repeated. -/
def member (outcome : Except FieldFault Settings) : JsonReading (Option (Except FieldFault Settings)) := do
  match outcome with
  | .error _ => return none
  | .ok settings =>
    if ← Json.Reading.nextKey (settings = {}) then
      match settings.fieldToSet (← Json.Reading.text) with
      | .error fault => return some (.error fault)
      | .ok field =>
        Json.Reading.colon
        return some (.ok (settings.set (← text) field))
    else return none

/-- Reads the members of a record and its closing brace. After a fault that was put off, a brace is still read if it
comes next. -/
def members : JsonReading Settings := do
  match ← Scan.iterate member (.ok {}) with
  | .ok settings =>
    Json.Reading.endRecord
    return settings
  | .error fault =>
    Json.Reading.skipSpace
    let _ ← Scan.accept ['\x7d']
    failHere fault

/-- Reads the items of a list, at most two, and its closing bracket. -/
def items : JsonReading Settings := do
  let item (texts : List String) : JsonReading (Option (List String)) := do
    if texts.length = 2 then return none
    if ← Json.Reading.nextItem texts.isEmpty then return some (texts ++ [← text]) else return none
  let texts ← Scan.iterate item []
  Json.Reading.endList
  return .ofItems texts

/-- Reads a whole document. -/
def document : JsonReading RuntimeConfig := do
  Json.Reading.skipSpace
  let settings ← match ← Scan.peek? with
    | some '[' => do
      Scan.skip 1
      items
    | some '\x7b' => do
      Scan.skip 1
      members
    | _ => failOnType .configuration
  Json.Reading.endDocument
  return settings.configuration

end JsonReading

/-- The configuration that a JSON text describes. -/
def ofJsonText (source : String) : Except JsonFailure RuntimeConfig :=
  match JsonReading.document (.ofText source) with
  | .ok config _ => .ok config
  | .error failure _ => .error failure

end Cratewright.Configuration
