import Cratewright.Configuration.JsonDocument
import Cratewright.Configuration.TomlDocument
import Cratewright.Text.Position
import Cratewright.Toml.Excerpt

/-!
# Errors of configuration documents

An error keeps its fault and where it was met. A fault of a JSON value that was never a text has no position. A fault
of a TOML text keeps the text, because its message shows the line.
-/

namespace Cratewright.Configuration

open Text (Position Span)

/-- Why a file gives no text. -/
inductive FileFault
  | missing
  | notText
deriving DecidableEq, Repr

/-- The wording of a fault of a file. -/
def FileFault.message : FileFault → String
  | .missing => "No such file or directory (os error 2)"
  | .notText => "stream did not contain valid UTF-8"

/-- Why there is no configuration. -/
inductive Error
  | file (fault : FileFault)
  | json (fault : JsonFault) (position : Option Position)
  | toml (fault : TomlFault) (span : Span) (source : String)

namespace Error

/-- A message with the position it belongs to. -/
def positioned (message : String) : Option Position → String
  | none => message
  | some position =>
    message ++ " at line " ++ toString position.line ++ " column " ++ toString position.column

/-- The wording of an error. -/
def message : Error → String
  | .file fault => "Failed to read configuration file: " ++ fault.message
  | .json fault position => "Failed to parse configuration JSON: " ++ positioned fault.message position
  | .toml fault span source => "Failed to parse configuration TOML: " ++ Toml.excerpt source span fault.message

/-- The bytes of a text that an error is about; a file that gives no text is about nothing. A JSON error without a
position is about the first byte. -/
def span? (source : String) : Error → Option Span
  | .file _ => none
  | .json _ position =>
    let bytes := Text.bytes source
    let start := Text.offsetOf bytes (position.getD ⟨0, 0⟩)
    some ⟨start, min (start + 1) bytes.length⟩
  | .toml _ span _ => some span

end Error

/-- The configuration of a JSON value that may be absent. -/
def load (document : Option Json.Value) : Except Error RuntimeConfig :=
  (ofDocument document).mapError fun fault => .json (.field fault) none

/-- The configuration of a JSON text. -/
def loadJson (source : String) : Except Error RuntimeConfig :=
  (ofJsonText source).mapError fun failure =>
    .json failure.fault (some (Text.readUpTo (Text.bytes source) failure.offset))

/-- The configuration of a TOML text. -/
def loadToml (source : String) : Except Error RuntimeConfig :=
  (ofTomlText source).mapError fun failure => .toml failure.fault failure.span source

/-- Whether the name of a file ends in the extension of JSON. A point at the front of the name starts no extension. -/
def isJsonName (name : String) : Bool :=
  let extension := (name.toList.reverse.takeWhile (· ≠ '.')).reverse
  extension == ['j', 's', 'o', 'n'] && extension.length + 1 < name.length

/-- The configuration of a file, given its name and its bytes if it exists; the name chooses the format. -/
def loadFile (name : String) (content : Option ByteArray) : Except Error RuntimeConfig :=
  match content with
  | none => .error (.file .missing)
  | some bytes =>
    match String.fromUTF8? bytes with
    | none => .error (.file .notText)
    | some source => if isJsonName name then loadJson source else loadToml source

end Cratewright.Configuration
