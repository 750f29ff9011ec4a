import Cratewright.CompilationUnit

/-!
# Diagnostic texts

`inspect` shows a value with its structure, for a reader who debugs a generator: the name of the form, then its fields
in braces or its content in parentheses, with every text quoted. Two dots stand for content that is not shown.
-/

namespace Cratewright

namespace Inspect

/-- A form with named fields. -/
def record (form : String) (fields : List (String × String)) : String :=
  form ++ " \x7b " ++ ", ".intercalate (fields.map fun (field, text) => field ++ ": " ++ text) ++ " \x7d"

/-- A form with named fields and content that is not shown. -/
def openRecord (form : String) (fields : List (String × String)) : String :=
  form ++ " \x7b " ++ ", ".intercalate (fields.map fun (field, text) => field ++ ": " ++ text) ++ ", .. \x7d"

/-- A form with a single content. -/
def wrapped (form text : String) : String := form ++ "(" ++ text ++ ")"

/-- A value that may be absent. -/
def optional : Option String → String
  | none => "None"
  | some text => wrapped "Some" text

/-- A set of texts. -/
def set (texts : List String) : String := "\x7b" ++ ", ".intercalate texts ++ "\x7d"

/-- A list of texts. -/
def list (texts : List String) : String := "[" ++ ", ".intercalate texts ++ "]"

end Inspect

open Inspect
open Text (quoted)

/-- The diagnostic text of a location. -/
def Location.inspect : Location → String
  | .registry version => record "CratesIo" [("version", quoted version)]
  | .directory path => record "Local" [("path", quoted path)]

/-- The diagnostic text of a scope. -/
def Scope.inspect : Scope → String
  | .compile => "Compile"
  | .dev => "Dev"

/-- The diagnostic text of a crate declaration; its features are a set. -/
def CrateDependency.inspect (declaration : CrateDependency) : String :=
  record "CargoDependency" [
    ("name", quoted declaration.name),
    ("location", declaration.location.inspect),
    ("scope", declaration.scope.inspect),
    ("features", set (declaration.features.items.map quoted))
  ]

mutual

/-- The diagnostic text of a dependency; what the renderer of an inline module writes is not shown. -/
def Dependency.inspect : Dependency → String
  | .crate declaration => wrapped "Cargo" declaration.inspect
  | .inline ⟨name, moduleName, extras, _⟩ =>
    wrapped "Inline" (openRecord "InlineDependency" [
      ("name", quoted name),
      ("module", quoted moduleName),
      ("extra_dependencies", list (inspectAll extras))
    ])

/-- The diagnostic texts of dependencies. -/
def inspectAll : List Dependency → List String
  | [] => []
  | dependency :: rest => dependency.inspect :: inspectAll rest

end

/-- The diagnostic text of a reference. -/
def Reference.inspect (reference : Reference) : String :=
  record "Reference" [
    ("name", optional (reference.name.map quoted)),
    ("dependency", optional (reference.dependency.map Dependency.inspect)),
    ("namespace", quoted reference.modulePath)
  ]

/-- The diagnostic text of a writable, which tells only whether it is nothing. -/
def Writable.inspect : Writable → String
  | .empty => "Writable(empty)"
  | .program _ => "Writable(..)"

/-- The diagnostic text of an argument; a target shows the reference it means for a writer. -/
def Argument.inspect (config : RuntimeConfig) (modulePath : String) : Argument → String
  | .target meant => wrapped "Reference" (meant.referenceFor config modulePath).inspect
  | .text words => wrapped "Text" (quoted words)
  | .writable content => wrapped "Writable" content.inspect

/-- The diagnostic text of a unit; its program is not shown. -/
def CompilationUnit.inspect (unit : CompilationUnit) : String :=
  openRecord "CompilationUnit" [("module", quoted unit.modulePath)]

/-- The diagnostic text of an error, where a chain and a template fault are shown by their wording. -/
def CodegenError.inspect : CodegenError → String
  | .unsupportedTraitValue traitId value =>
    record "UnsupportedTraitVariant" [("trait_id", quoted traitId), ("value", quoted value)]
  | .cyclicInline chain => record "CyclicInlineDependency" [("chain", quoted (" -> ".intercalate chain))]
  | .emptyModulePath name => record "EmptyNamespace" [("name", quoted name)]
  | .conflictingCrate name existing incoming =>
    record "ConflictingDependency"
      [("name", quoted name), ("existing", quoted existing.text), ("incoming", quoted incoming.text)]
  | .template fault => record "Template" [("message", quoted fault.message)]
  | .customization slot name message =>
    record "Section" [("section", quoted slot), ("customization", quoted name), ("message", quoted message)]

/-- The diagnostic text of a slot of the service configuration. -/
def ServiceConfigSlot.inspect (slot : ServiceConfigSlot) : String := slot.name

/-- The diagnostic text of a slot of an operation, with what it binds. -/
def OperationSlot.inspect : OperationSlot → String
  | .implBlock => "ImplBlock"
  | .mutateInput input config => record "MutateInput" [("input", quoted input), ("config", quoted config)]
  | .plugin operation config => record "Plugin" [("operation", quoted operation), ("config", quoted config)]

end Cratewright
