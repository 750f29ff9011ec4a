import Cratewright.Dependency
import Cratewright.Error

/-!
# References

A reference names an item, or a module as a whole, by a module path, and carries the dependency that code mentioning
it needs. Resolving it for a module gives the text to write there. A path into the generated crate starts with
`crate`; any other is written with a leading `::`, so that a module of the generated crate never hides a crate of the
same name.
-/

namespace Cratewright

/-- The first segment of a path into the generated crate. -/
def localRoot : String := "crate"

/-- An item that generated code may mention; without a name, a module. -/
structure Reference where
  name : Option String
  dependency : Option Dependency
  modulePath : String

/-- What a reference stands for at a place of use: the text to write and the dependency to record. -/
structure Resolved where
  text : String
  dependency : Option Dependency

namespace Reference

/-- An item of the generated crate. -/
def generated (path name : String) : Reference where
  name := some name
  dependency := none
  modulePath := if path.isEmpty then localRoot else localRoot ++ "::" ++ path

/-- A module that stands for nothing when it is written from inside itself. -/
def placeholder (modulePath : String) : Reference := ⟨none, none, modulePath⟩

/-- An item of the module path of a crate, or of a module below it. -/
def inCrate (declaration : CrateDependency) (path name : String) : Reference where
  name := some name
  dependency := some (.crate declaration)
  modulePath := if path.isEmpty then declaration.modulePath else declaration.modulePath ++ "::" ++ path

/-- The same reference with another dependency. -/
def withDependency (reference : Reference) (dependency : Dependency) : Reference :=
  { reference with dependency := some dependency }

/-- An item below the path of a reference, with the same dependency. -/
def member (reference : Reference) (name : String) : Reference where
  name := some name
  dependency := reference.dependency
  modulePath := match reference.name with
    | some own => reference.modulePath ++ "::" ++ own
    | none => reference.modulePath

/-- Whether the first segment of the module path is the generated crate. -/
def isLocal (reference : Reference) : Bool :=
  reference.modulePath == localRoot || (localRoot ++ "::").toList.isPrefixOf reference.modulePath.toList

/-- The full path, as it is written in code. -/
def fullPath (reference : Reference) : String :=
  let start := if reference.isLocal then reference.modulePath else "::" ++ reference.modulePath
  match reference.name with
  | some name => start ++ "::" ++ name
  | none => start

/-- What a reference stands for in a module. -/
def resolve (reference : Reference) (currentModule : String) : Except CodegenError Resolved :=
  if reference.modulePath.isEmpty then
    .error (.emptyModulePath (reference.name.getD ""))
  else if reference.name.isNone && reference.dependency.isNone && reference.modulePath == currentModule then
    .ok ⟨"", none⟩
  else
    .ok ⟨reference.fullPath, reference.dependency⟩

/-- A resolved reference records no dependency but its own. -/
theorem dependency_of_resolve {reference : Reference} {currentModule : String} {resolved : Resolved}
    (outcome : reference.resolve currentModule = .ok resolved) :
    ∀ dependency ∈ resolved.dependency, dependency ∈ reference.dependency := by
  intro dependency found
  unfold resolve at outcome
  split at outcome
  · cases outcome
  · split at outcome <;> cases outcome
    · cases found
    · exact found

/-- Whether two references count as equal, where their dependencies are compared by `Dependency.same`. -/
def same (one other : Reference) : Bool :=
  one.name == other.name && one.modulePath == other.modulePath &&
    match one.dependency, other.dependency with
    | some first, some second => first.same second
    | none, none => true
    | _, _ => false

end Reference

/-- A reference to what a dependency brings, as a module. -/
def Dependency.reference (dependency : Dependency) : Reference := ⟨none, some dependency, dependency.modulePath⟩

/-- A reference to an item of an inline module. -/
def InlineModule.item (definition : InlineDependency) (name : String) : Reference :=
  ⟨some name, some (.inline definition), definition.modulePath⟩

end Cratewright
