import Cratewright.Program.Run
import Cratewright.StandardModules

/-!
# Materializing inline modules

An inline module is rendered on a writer of its own. It requires the dependencies it declares and those its program
recorded, except itself, and these may be inline modules again. `materialize` renders everything that is required from
given roots, each module once and after the modules it requires, and gathers all dependencies in one manifest. A
module that is met again while its requirements are being visited is a cyclic requirement.

The visit ends because the programs of a catalogue mention finitely many inline modules and a module is never entered
twice on one path.
-/

namespace Cratewright

/-- The programs of the renderers that do not come with the library; a renderer that is not listed writes nothing. -/
structure Catalogue where
  definitions : List (String × Program) := []

instance : Inhabited Catalogue := ⟨{}⟩

namespace Catalogue

/-- The program of a renderer. -/
def program (catalogue : Catalogue) : Renderer → Program
  | .standard which => which.program
  | .defined id => (catalogue.definitions.lookup id).getD []

/-- The dependencies that the programs of a catalogue mention. -/
def dependencies (catalogue : Catalogue) : List Dependency :=
  catalogue.definitions.flatMap fun (_, program) => programDependencies program

/-- The programs of the standard modules name no dependencies. -/
theorem programDependencies_standard (which : StandardModule) : programDependencies which.program = [] := by
  cases which <;> rfl

/-- A definition that is found is one of the list. -/
theorem mem_of_lookup {definitions : List (String × Program)} {id : String} {program : Program}
    (found : definitions.lookup id = some program) : (id, program) ∈ definitions := by
  induction definitions with
  | nil => simp at found
  | cons definition rest ih =>
    obtain ⟨name, first⟩ := definition
    rw [List.lookup_cons] at found
    split at found
    · simp_all
    · exact List.mem_cons_of_mem _ (ih found)

/-- A renderer mentions no dependencies besides those of the catalogue. -/
theorem programDependencies_program_subset (catalogue : Catalogue) (renderer : Renderer) :
    ∀ dependency ∈ programDependencies (catalogue.program renderer), dependency ∈ catalogue.dependencies := by
  intro dependency mem
  cases renderer with
  | standard which =>
    rw [program, programDependencies_standard] at mem
    cases mem
  | defined id =>
    rw [program] at mem
    cases found : catalogue.definitions.lookup id with
    | none =>
      rw [found] at mem
      simp [programDependencies] at mem
    | some listed =>
      rw [found] at mem
      exact List.mem_flatMap.mpr ⟨(id, listed), mem_of_lookup found, mem⟩

/-- What the program of an inline module writes, and the dependencies it records, on a fresh writer for the module. -/
def render (catalogue : Catalogue) (config : RuntimeConfig) (definition : InlineDependency) :
    Except CodegenError (String × Manifest) :=
  match runAll (catalogue.program definition.renderer) (Writer.new config definition.modulePath) with
  | .ok () written => .ok (written.contents, written.manifest)
  | .error failure _ => .error failure

/-- A rendered module records only inline keys that the catalogue mentions. -/
theorem within_of_render {catalogue : Catalogue} {config : RuntimeConfig} {definition : InlineDependency}
    {allowed : List DependencyKey} (closed : ∀ dependency ∈ catalogue.dependencies, dependency.Within allowed)
    {source : String} {written : Manifest} (rendered : catalogue.render config definition = .ok (source, written)) :
    written.Within allowed := by
  let invariant := Manifest.Invariant.every (Dependency.hereditary_within allowed)
  have kept : Keeps (Writer.Satisfies invariant) (runAll (catalogue.program definition.renderer)) :=
    keeps_runAll fun dependency mem =>
      closed dependency (catalogue.programDependencies_program_subset definition.renderer dependency mem)
  replace kept := kept (Writer.new config definition.modulePath) invariant.holds_empty
  unfold render at rendered
  split at rendered <;> cases rendered
  rename_i run
  rw [run] at kept
  exact kept

end Catalogue

/-- The source of an inline module. -/
structure RenderedModule where
  moduleName : String
  name : String
  source : String
deriving DecidableEq, Repr

/-- The identity of the inline module that was rendered. -/
def RenderedModule.key (rendered : RenderedModule) : DependencyKey := .inline rendered.moduleName rendered.name

/-- Rendered modules, each after those it requires, and every dependency met on the way. -/
structure Materialized where
  modules : List RenderedModule := []
  manifest : Manifest := ∅

namespace Materialized

/-- Whether the module of a key has been rendered. -/
def has (materialized : Materialized) (key : DependencyKey) : Bool :=
  materialized.modules.any (·.key == key)

/-- Records a dependency in the manifest. -/
def record (materialized : Materialized) (dependency : Dependency) : Except CodegenError Materialized :=
  match Manifest.register dependency materialized.manifest with
  | .ok _ manifest => .ok { materialized with manifest }
  | .error failure _ => .error failure

/-- Adds the module of an inline dependency. -/
def add (materialized : Materialized) (definition : InlineDependency) (source : String) : Materialized :=
  { materialized with modules := materialized.modules ++ [⟨definition.moduleName, definition.name, source⟩] }

end Materialized

namespace InlineModule

/-- What a module requires: the dependencies it declares and then those its program recorded, except itself. -/
def requirements (definition : InlineDependency) (written : Manifest) : List Dependency :=
  definition.extras ++ written.items.filter (·.key ≠ definition.key)

/-- What a module requires stays within the keys that the module and what it has written stay within. -/
theorem within_requirements {definition : InlineDependency} {written : Manifest} {allowed : List DependencyKey}
    (within : (Dependency.inline definition).Within allowed) (recorded : written.Within allowed) :
    ∀ required ∈ definition.requirements written, required.Within allowed := by
  intro required mem
  rcases List.mem_append.mp mem with mem | mem
  · exact within.extra mem
  · exact recorded required (List.mem_filter.mp mem).1

end InlineModule

/-- The path from the first time a key was entered to the key itself, in the order of entering. -/
def requirementCycle (entered : List DependencyKey) (key : DependencyKey) : List DependencyKey :=
  entered.dropWhile (· != key) ++ [key]

/-- Entering a key leaves fewer keys to enter. -/
theorem length_not_entered_lt {allowed entered : List DependencyKey} {key : DependencyKey} (listed : key ∈ allowed)
    (new : key ∉ entered) :
    (allowed.filter (· ∉ entered ++ [key])).length < (allowed.filter (· ∉ entered)).length := by
  have same : allowed.filter (· ∉ entered ++ [key]) = (allowed.filter (· ∉ entered)).filter (· ≠ key) := by
    rw [List.filter_filter]
    congr 1
    funext candidate
    simp [and_comm]
  rw [same]
  refine Nat.lt_of_le_of_ne (List.length_filter_le ..) fun equal => ?_
  have all := List.length_filter_eq_length_iff.mp equal key (List.mem_filter.mpr ⟨listed, by simpa using new⟩)
  simp at all

/-- Renders a dependency and what it requires, unless that has been done. The keys in `entered` are the modules whose
requirements are being visited, outermost first. -/
def Catalogue.visit (catalogue : Catalogue) (config : RuntimeConfig) (allowed : List DependencyKey)
    (closed : ∀ dependency ∈ catalogue.dependencies, dependency.Within allowed) (entered : List DependencyKey)
    (materialized : Materialized) :
    { dependency : Dependency // dependency.Within allowed } → Except CodegenError Materialized
  | ⟨.crate declaration, _⟩ => materialized.record (.crate declaration)
  | ⟨.inline definition, within⟩ =>
    if materialized.has definition.key then .ok materialized
    else if _new : definition.key ∈ entered then
      .error (.cyclicInline ((requirementCycle entered definition.key).map DependencyKey.text))
    else
      match rendered : catalogue.render config definition with
      | .error failure => .error failure
      | .ok (source, written) => do
        let required := (definition.requirements written).attachWith (·.Within allowed)
          (InlineModule.within_requirements within (Catalogue.within_of_render closed rendered))
        let after ← required.foldlM
          (fun after dependency => visit catalogue config allowed closed (entered ++ [definition.key]) after dependency)
          materialized
        return (← after.record (.inline definition)).add definition source
termination_by (allowed.filter (· ∉ entered)).length
decreasing_by exact length_not_entered_lt within.key_mem _new

/-- Renders every inline module that is required from the roots and gathers all dependencies. -/
def Catalogue.materialize (catalogue : Catalogue) (config : RuntimeConfig) (roots : List Dependency) :
    Except CodegenError Materialized :=
  let allowed := Dependency.inlineKeysOfAll (roots ++ catalogue.dependencies)
  let admitted := roots.attachWith (·.Within allowed) fun _ mem =>
    Dependency.within_inlineKeysOfAll (List.mem_append_left _ mem)
  admitted.foldlM
    (catalogue.visit config allowed
      (fun _ mem => Dependency.within_inlineKeysOfAll (List.mem_append_right _ mem)) []) {}

/-- Renders the inline modules that a manifest requires. -/
def Manifest.materialize (manifest : Manifest) (catalogue : Catalogue) (config : RuntimeConfig) :
    Except CodegenError Materialized :=
  catalogue.materialize config manifest.items

/-- Renders one inline module and those it requires. -/
def InlineModule.materialize (definition : InlineDependency) (catalogue : Catalogue) (config : RuntimeConfig) :
    Except CodegenError Materialized :=
  catalogue.materialize config [.inline definition]

end Cratewright
