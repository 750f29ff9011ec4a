import Cratewright.Configuration.Field
import Cratewright.Toml.Document

/-!
# Configurations from TOML

The document is read as a whole, and then its entries are visited in their order. A fault of a field is about the key
if the key is unknown, and about the value if it has the wrong type; a table that is not written in one piece is
spoken of by its key.
-/

namespace Cratewright.Configuration

open Text (Span)
open Toml (Node)

/-- TOML writes every number positionally. A last digit halfway between two becomes the greater. -/
def tomlForm : Decimal.Form := ⟨fun _ => true, .greater⟩

/-- How a fault tells of a TOML node. -/
def Found.ofToml : Node → Found
  | .scalar (.text value) _ => .text value
  | .scalar (.integer value) _ => .integer value
  | .scalar (.float value) _ => .float value
  | .scalar (.boolean value) _ => .boolean value
  | .scalar (.moment _) _ => .record
  | .list _ _ => .list
  | .table _ _ _ => .record
  | .tables _ => .list

/-- Why a text gives no configuration. -/
inductive TomlFault
  | malformed (fault : Toml.Fault)
  | field (fault : FieldFault)

/-- The wording of a fault of a TOML document. -/
def grammarMessage : Toml.Fault → String
  | .malformed => "malformed document"
  | .repeatedKey key none => "duplicate key `" ++ key ++ "`"
  | .repeatedKey key (some []) => "duplicate key `" ++ key ++ "` in document root"
  | .repeatedKey key (some header) => "duplicate key `" ++ key ++ "` in table `" ++ ".".intercalate header ++ "`"
  | .repeatedTable key => "table `" ++ key ++ "` is opened twice"
  | .noTable key => "key `" ++ key ++ "` leads through a value that is no table"

/-- The wording of a fault. -/
def TomlFault.message : TomlFault → String
  | .malformed fault => grammarMessage fault
  | .field fault => fault.message tomlForm

/-- A fault and the bytes it is about. -/
structure TomlFailure where
  fault : TomlFault
  span : Span

/-- The text that a node must be. -/
def textOfToml (key : Toml.Key) : Node → Except TomlFailure String
  | .scalar (.text value) _ => .ok value
  | other => .error ⟨.field (.wrongType (.ofToml other) .text), other.span?.getD key.span⟩

/-- Sets an entry of the document. -/
def Settings.setEntry (settings : Settings) (entry : Toml.Key × Node) : Except TomlFailure Settings :=
  match settings.fieldToSet entry.1.text with
  | .error fault => .error ⟨.field fault, entry.1.span⟩
  | .ok field => do return settings.set (← textOfToml entry.1 entry.2) field

/-- The configuration that a TOML text describes. -/
def ofTomlText (source : String) : Except TomlFailure RuntimeConfig :=
  match Toml.parse source with
  | .error failure => .error ⟨.malformed failure.fault, failure.span⟩
  | .ok entries => do return (← entries.foldlM Settings.setEntry {}).configuration

end Cratewright.Configuration
