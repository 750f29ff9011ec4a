import Cratewright.Crate

/-!
# Errors of code generation

Each error keeps its cause as data; the wording is in `message` alone. A template fault that a caller raises by itself
carries its own words.
-/

namespace Cratewright

/-- What is wrong with a template or with the arguments it is given. -/
inductive TemplateFault
  | emptyPlaceholder (line : String)
  | unterminatedPlaceholder (line : String)
  | tooFewArguments (given : Nat)
  | positionalAmongNamed
  | namedAmongPositional (name : String)
  | unknownName (name : String)
  | unusedPositional (count : Nat)
  | unusedNamed (names : List String)
  | raised (message : String)
deriving DecidableEq, Repr

/-- The wording of a template fault. -/
def TemplateFault.message : TemplateFault → String
  | .emptyPlaceholder line => "empty placeholder in `" ++ line ++ "`"
  | .unterminatedPlaceholder line => "unterminated placeholder in `" ++ line ++ "`"
  | .tooFewArguments given => "template expects more than " ++ toString given ++ " positional argument(s)"
  | .positionalAmongNamed => "positional placeholder `#T` in a template with named arguments"
  | .namedAmongPositional name =>
    "named placeholder `#\x7b" ++ name ++ "\x7d` in a template with positional arguments"
  | .unknownName name => "no argument named `" ++ name ++ "`"
  | .unusedPositional count => toString count ++ " positional argument(s) unused"
  | .unusedNamed names => "unused named argument(s): " ++ ", ".intercalate names
  | .raised message => message

/-- Why code could not be generated. -/
inductive CodegenError
  /-- A trait has a value that has no meaning here. -/
  | unsupportedTraitValue (traitId value : String)
  /-- Inline modules require one another in a circle; the chain ends with its first link. -/
  | cyclicInline (chain : List String)
  /-- A reference has no module path. -/
  | emptyModulePath (name : String)
  /-- A crate is declared at two places. -/
  | conflictingCrate (name : String) (existing incoming : Location)
  /-- A template and its arguments do not fit. -/
  | template (fault : TemplateFault)
  /-- A customization cannot contribute to a slot. -/
  | customization (slot name message : String)
deriving DecidableEq, Repr

/-- The wording of an error. -/
def CodegenError.message : CodegenError → String
  | .unsupportedTraitValue traitId value => "unsupported value '" ++ value ++ "' for trait " ++ traitId
  | .cyclicInline chain => "cyclic inline dependency: " ++ " -> ".intercalate chain
  | .emptyModulePath name => "reference '" ++ name ++ "' has an empty namespace"
  | .conflictingCrate name existing incoming =>
    "conflicting declarations for dependency '" ++ name ++ "': " ++ existing.text ++ " vs " ++ incoming.text
  | .template fault => "template error: " ++ fault.message
  | .customization slot name message =>
    "customization '" ++ name ++ "' failed in section " ++ slot ++ ": " ++ message

end Cratewright
