import Cratewright.Customizations
import Cratewright.Materialize

/-!
# Compilation units

A unit is one module of the generated crate, given as a program. Generating it writes its source and materializes the
inline modules that it requires. Generating a crate does so for each unit by itself and then combines the manifests in
order; a unit that disagrees with the units before it on where a crate lies fails and adds nothing.
-/

namespace Cratewright

/-- A module of the generated crate and the program that writes it. -/
structure CompilationUnit where
  modulePath : String
  program : Program

namespace CompilationUnit

/-- The unit of a service configuration. -/
def serviceConfig (generator : ServiceConfig) : CompilationUnit := ⟨"crate::config", generator.program⟩

/-- The unit of an operation, in a module named after it. -/
def operation (generator : Operation) : CompilationUnit :=
  ⟨"crate::operation::" ++ snakeCase generator.name, generator.program⟩

end CompilationUnit

/-- A generated module: its source, the inline modules it requires and everything it depends on. -/
structure GeneratedUnit where
  modulePath : String
  source : String
  inlineModules : List RenderedModule
  manifest : Manifest

/-- A unit that could not be generated. -/
structure UnitFailure where
  modulePath : String
  error : CodegenError

/-- The failure as it is reported. -/
def UnitFailure.message (failure : UnitFailure) : String := failure.modulePath ++ ": " ++ failure.error.message

/-- The outcome of each unit, in order, and the dependencies of all units that were generated. -/
structure GeneratedCrate where
  units : List (Except UnitFailure GeneratedUnit)
  manifest : Manifest

namespace Catalogue

/-- Generates one unit. -/
def generate (catalogue : Catalogue) (config : RuntimeConfig) (unit : CompilationUnit) :
    Except CodegenError GeneratedUnit :=
  match runAll unit.program (Writer.new config unit.modulePath) with
  | .error failure _ => .error failure
  | .ok () written => do
    let materialized ← written.manifest.materialize catalogue config
    return {
      modulePath := unit.modulePath
      source := written.contents
      inlineModules := materialized.modules
      manifest := materialized.manifest }

/-- Generates one unit and adds its dependencies to those of the units before it. -/
def generateNext (catalogue : Catalogue) (config : RuntimeConfig) (unit : CompilationUnit) (manifest : Manifest) :
    Except UnitFailure GeneratedUnit × Manifest :=
  match catalogue.generate config unit with
  | .error error => (.error ⟨unit.modulePath, error⟩, manifest)
  | .ok generated =>
    match Manifest.merge generated.manifest manifest with
    | .error error _ => (.error ⟨unit.modulePath, error⟩, manifest)
    | .ok () merged => (.ok generated, merged)

/-- Generates units after others whose dependencies are given. -/
def generateAfter (catalogue : Catalogue) (config : RuntimeConfig) :
    List CompilationUnit → Manifest → GeneratedCrate
  | [], manifest => ⟨[], manifest⟩
  | unit :: rest, manifest =>
    let (outcome, manifest) := catalogue.generateNext config unit manifest
    let after := generateAfter catalogue config rest manifest
    ⟨outcome :: after.units, after.manifest⟩

/-- Generates every unit of a crate. -/
def generateAll (catalogue : Catalogue) (config : RuntimeConfig) (units : List CompilationUnit) : GeneratedCrate :=
  catalogue.generateAfter config units ∅

end Catalogue

end Cratewright
