import Cratewright.Reference
import Cratewright.RuntimeConfig

/-!
# Crates and items that generated code builds on

Support crates lie in the configured directory under the configured prefix, except the shared types, which keep their
own name. Registry crates and the standard library do not depend on the configuration.
-/

namespace Cratewright

/-- Crates that generated code builds on. -/
inductive KnownCrate
  | types
  | http
  | json
  | xml
  | query
  | client
  | sharedTypes
  | httpMessages
  | bytes
  | fastrand
  | serdeJson
  | tower
deriving DecidableEq, Repr

/-- The declaration of a known crate under a configuration. -/
def KnownCrate.declaration (config : RuntimeConfig) : KnownCrate → CrateDependency
  | .types => config.supportCrate "types"
  | .http => config.supportCrate "http"
  | .json => config.supportCrate "json"
  | .xml => config.supportCrate "xml"
  | .query => config.supportCrate "query"
  | .client => config.supportCrate "client"
  | .sharedTypes => .directory "aws-types" (config.directory "aws-types")
  | .httpMessages => .registry "http" "0.2"
  | .bytes => .registry "bytes" "1"
  | .fastrand => .registry "fastrand" "1"
  | .serdeJson => .registry "serde_json" "1"
  | .tower => .registry "tower" "0.4"

/-- Wire formats of timestamps. -/
inductive TimestampFormat
  | epochSeconds
  | dateTime
  | httpDate
deriving DecidableEq, Repr

/-- The name of a timestamp format in the support crates. -/
def TimestampFormat.variantName : TimestampFormat → String
  | .epochSeconds => "EpochSeconds"
  | .dateTime => "DateTime"
  | .httpDate => "HttpDate"

/-- Items of known crates that generated code mentions. -/
inductive SupportItem
  | instant
  | blob
  | document
  | genericError
  | retryKind
  | timestampFormat (format : TimestampFormat)
  | base64Encode
  | base64Decode
  | body
  | operation
  | operationModule
  | parseStrictResponse
  | buildError
  | retryConfig
  | region
  | requestBuilder
  | response
  | xmlDecode
  | randomSource
  | jsonValue
deriving DecidableEq, Repr

namespace SupportItem

/-- The crate that defines an item. -/
def owner : SupportItem → KnownCrate
  | .instant | .blob | .document | .genericError | .retryKind | .timestampFormat _ | .base64Encode
  | .base64Decode => .types
  | .body | .operation | .operationModule | .parseStrictResponse | .buildError => .http
  | .retryConfig => .client
  | .region => .sharedTypes
  | .requestBuilder | .response => .httpMessages
  | .xmlDecode => .xml
  | .randomSource => .fastrand
  | .jsonValue => .serdeJson

/-- The module of an item inside its crate, empty for the root. -/
def path : SupportItem → String
  | .instant | .blob | .document | .genericError | .response | .randomSource | .jsonValue => ""
  | .retryKind | .retryConfig => "retry"
  | .timestampFormat _ => "instant::Format"
  | .base64Encode | .base64Decode => "base64"
  | .body => "body"
  | .operation | .operationModule | .buildError => "operation"
  | .parseStrictResponse => "response"
  | .region => "region"
  | .requestBuilder => "request"
  | .xmlDecode => "decode"

/-- The name of an item; a module has none. -/
def name : SupportItem → Option String
  | .instant => some "Instant"
  | .blob => some "Blob"
  | .document => some "Document"
  | .genericError => some "Error"
  | .retryKind => some "RetryKind"
  | .timestampFormat format => some format.variantName
  | .base64Encode => some "encode"
  | .base64Decode => some "decode"
  | .body => some "SdkBody"
  | .operation => some "Operation"
  | .operationModule => none
  | .parseStrictResponse => some "ParseStrictResponse"
  | .buildError => some "BuildError"
  | .retryConfig => some "Config"
  | .region => some "Region"
  | .requestBuilder => some "Builder"
  | .response => some "Response"
  | .xmlDecode => none
  | .randomSource => some "Rng"
  | .jsonValue => some "Value"

/-- The reference to an item under a configuration. -/
def reference (config : RuntimeConfig) (item : SupportItem) : Reference :=
  let declaration := item.owner.declaration config
  { name := item.name
    dependency := some (.crate declaration)
    modulePath :=
      if item.path.isEmpty then declaration.modulePath else declaration.modulePath ++ "::" ++ item.path }

end SupportItem

/-- Items of the standard library, which needs no declaration. -/
inductive StandardItem
  | fmt
  | error
  | option
  | string
  | vec
  | hashMap
  | conversion
  | default
  | debug
  | arc
  | mutex
deriving DecidableEq, Repr

namespace StandardItem

/-- The module of an item of the standard library. -/
def path : StandardItem → String
  | .fmt | .debug => "std::fmt"
  | .error => "std::error"
  | .option => "std::option"
  | .string => "std::string"
  | .vec => "std::vec"
  | .hashMap => "std::collections"
  | .conversion => "std::convert"
  | .default => "std::default"
  | .arc | .mutex => "std::sync"

/-- The name of an item of the standard library; the formatting module has none. -/
def name : StandardItem → Option String
  | .fmt => none
  | .error => some "Error"
  | .option => some "Option"
  | .string => some "String"
  | .vec => some "Vec"
  | .hashMap => some "HashMap"
  | .conversion => some "From"
  | .default => some "Default"
  | .debug => some "Debug"
  | .arc => some "Arc"
  | .mutex => some "Mutex"

/-- The reference to an item of the standard library. -/
def reference (item : StandardItem) : Reference := ⟨item.name, none, item.path⟩

end StandardItem

end Cratewright
