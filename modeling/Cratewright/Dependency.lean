import Cratewright.Crate

/-!
# Dependencies

A generated module depends on crates and on inline modules, which are generated along with it. An inline dependency
names the renderer of its module; what the renderer writes is kept apart, in a catalogue. Its identity is its name and
its module, so two inline dependencies may be the same and still declare different extras.
-/

namespace Cratewright

/-- The inline modules that come with this library. -/
inductive StandardModule
  | idempotencyToken
  | wrappedErrors
  | jsonDocument
deriving DecidableEq, Repr

/-- What writes an inline module: a standard module's renderer, or one defined in a catalogue. -/
inductive Renderer
  | standard (which : StandardModule)
  | defined (id : String)
deriving DecidableEq, Repr

/-- An inline module: its name, the module of the generated crate it becomes, the dependencies it declares and its
renderer. -/
structure InlineModule (Declared : Type) where
  name : String
  moduleName : String
  extras : List Declared
  renderer : Renderer

/-- Something a generated module needs in order to compile. -/
inductive Dependency
  | crate (declaration : CrateDependency)
  | inline (definition : InlineModule Dependency)

/-- A dependency on an inline module. -/
abbrev InlineDependency := InlineModule Dependency

/-- The identity of a dependency. -/
inductive DependencyKey
  | crate (name : String)
  | inline (moduleName name : String)
deriving DecidableEq, Repr

namespace DependencyKey

/-- The key as it is named in messages. -/
def text : DependencyKey → String
  | .crate name => name
  | .inline moduleName name => moduleName ++ "::" ++ name

/-- Crates come before inline modules. -/
def kind : DependencyKey → Nat
  | .crate _ => 0
  | .inline _ _ => 1

/-- The module of an inline key, the name of a crate. -/
def major : DependencyKey → String
  | .crate name => name
  | .inline moduleName _ => moduleName

/-- The name of an inline key. -/
def minor : DependencyKey → String
  | .crate _ => ""
  | .inline _ name => name

/-- Crates by name, then inline modules by module and by name. -/
instance : Ord DependencyKey where
  compare := compareLex (compareOn kind) (compareLex (compareOn major) (compareOn minor))

instance : Std.TransOrd DependencyKey :=
  inferInstanceAs (Std.TransCmp (compareLex (compareOn kind) (compareLex (compareOn major) (compareOn minor))))

instance : Std.LawfulEqOrd DependencyKey where
  eq_of_compare {one other} equal := by
    have parts : compareLex (compareOn kind) (compareLex (compareOn major) (compareOn minor)) one other = .eq := equal
    simp only [compareLex, compareOn, Ordering.then_eq_eq, Std.compare_eq_iff_eq] at parts
    cases one <;> cases other <;> simp_all [kind, major, minor]

end DependencyKey

namespace InlineModule

variable {Declared : Type}

/-- The identity of an inline module. -/
def key (definition : InlineModule Declared) : DependencyKey := .inline definition.moduleName definition.name

/-- The path of an inline module inside the generated crate. -/
def modulePath (definition : InlineModule Declared) : String := "crate::" ++ definition.moduleName

end InlineModule

namespace Dependency

/-- The identity of a dependency. -/
def key : Dependency → DependencyKey
  | .crate declaration => .crate declaration.name
  | .inline definition => definition.key

/-- The module path under which code names the dependency. -/
def modulePath : Dependency → String
  | .crate declaration => declaration.modulePath
  | .inline definition => definition.modulePath

/-- Whether two dependencies count as equal: crates by everything declared, inline modules by their identity. -/
def same : Dependency → Dependency → Bool
  | .crate one, .crate other => one == other
  | .inline one, .inline other => one.moduleName == other.moduleName && one.name == other.name
  | _, _ => false

mutual

/-- The keys of the inline modules in a dependency: its own and those of its extras at any depth. -/
def inlineKeys : Dependency → List DependencyKey
  | .crate _ => []
  | .inline ⟨name, moduleName, extras, _⟩ => .inline moduleName name :: inlineKeysOfAll extras

/-- The inline keys in a list of dependencies. -/
def inlineKeysOfAll : List Dependency → List DependencyKey
  | [] => []
  | dependency :: rest => dependency.inlineKeys ++ inlineKeysOfAll rest

end

/-- The inline keys of dependencies are those of each one. -/
theorem mem_inlineKeysOfAll {wanted : DependencyKey} {dependencies : List Dependency} :
    wanted ∈ inlineKeysOfAll dependencies ↔ ∃ dependency ∈ dependencies, wanted ∈ dependency.inlineKeys := by
  induction dependencies with
  | nil => simp [inlineKeysOfAll]
  | cons first rest ih => simp [inlineKeysOfAll, ih]

/-- The inline keys of a module have its own among them. -/
theorem key_mem_inlineKeys (definition : InlineDependency) :
    definition.key ∈ (Dependency.inline definition).inlineKeys := by
  simp [inlineKeys, InlineModule.key]

end Dependency

end Cratewright
