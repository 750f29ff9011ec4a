import Cratewright.Decimal.Form
import Cratewright.RuntimeConfig
import Cratewright.Text.Quoted

/-!
# Fields of a configuration document

A document has two optional fields, both texts. A field that is absent keeps its default. What a document holds in
place of what is expected is described the same way for every format; only numbers are written as the format writes
them.
-/

namespace Cratewright.Configuration

/-- A field of a configuration document. -/
inductive Field
  | cratePrefix
  | relativePath
deriving DecidableEq, Repr

/-- The key of a field. -/
def Field.key : Field → String
  | .cratePrefix => "cratePrefix"
  | .relativePath => "relativePath"

/-- The field of a key. -/
def Field.ofKey? (key : String) : Option Field :=
  [Field.cratePrefix, Field.relativePath].find? fun field => field.key == key

/-- A value of a document, as far as a fault tells of it. -/
inductive Found
  | null
  | boolean (value : Bool)
  | integer (value : Int)
  | float (value : Float)
  | text (value : String)
  | list
  | record

/-- Describes a value. -/
def Found.description (form : Decimal.Form) : Found → String
  | .null => "null"
  | .boolean value => "boolean `" ++ (if value then "true" else "false") ++ "`"
  | .integer value => "integer `" ++ toString value ++ "`"
  | .float value => "floating point `" ++ form.text value ++ "`"
  | .text value => "string " ++ Text.quoted value
  | .list => "sequence"
  | .record => "map"

/-- What a place in a document should hold. -/
inductive Expected
  | text
  | configuration
deriving DecidableEq, Repr

/-- Describes what is expected. -/
def Expected.description : Expected → String
  | .text => "a string"
  | .configuration => "struct RuntimeConfig"

/-- What is wrong with the content of a well-formed document. -/
inductive FieldFault
  | wrongType (found : Found) (expected : Expected)
  | unknownKey (key : String)
  | repeatedKey (field : Field)
  | surplusItems (count : Nat)

/-- The wording of a fault. -/
def FieldFault.message (form : Decimal.Form) : FieldFault → String
  | .wrongType found expected =>
    "invalid type: " ++ found.description form ++ ", expected " ++ expected.description
  | .unknownKey key =>
    "unknown field `" ++ key ++ "`, expected `" ++ Field.cratePrefix.key ++ "` or `" ++ Field.relativePath.key ++ "`"
  | .repeatedKey field => "duplicate field `" ++ field.key ++ "`"
  | .surplusItems count => "invalid length " ++ toString count ++ ", expected fewer elements in array"

/-- The fields that a document sets. -/
structure Settings where
  cratePrefix : Option String := none
  relativePath : Option String := none
deriving DecidableEq, Repr

namespace Settings

/-- The value of a field, if it is set. -/
def get? (settings : Settings) : Field → Option String
  | .cratePrefix => settings.cratePrefix
  | .relativePath => settings.relativePath

/-- Sets a field. -/
def set (settings : Settings) (value : String) : Field → Settings
  | .cratePrefix => { settings with cratePrefix := some value }
  | .relativePath => { settings with relativePath := some value }

/-- The field of a key that may still be set. -/
def fieldToSet (settings : Settings) (key : String) : Except FieldFault Field :=
  match Field.ofKey? key with
  | none => .error (.unknownKey key)
  | some field => if (settings.get? field).isSome then .error (.repeatedKey field) else .ok field

/-- The settings of a list: its first item is the crate prefix and its second the path. -/
def ofItems : List String → Settings
  | [] => {}
  | [cratePrefix] => { cratePrefix }
  | cratePrefix :: relativePath :: _ => { cratePrefix, relativePath }

/-- The configuration with the fields that are set, and the default for the others. -/
def configuration (settings : Settings) : RuntimeConfig :=
  let default : RuntimeConfig := {}
  { cratePrefix := settings.cratePrefix.getD default.cratePrefix
    relativePath := settings.relativePath.getD default.relativePath }

end Settings

end Cratewright.Configuration
