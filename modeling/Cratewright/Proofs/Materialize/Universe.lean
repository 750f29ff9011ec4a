import Cratewright.Materialize
import Cratewright.Proofs.Manifest.Union
import Mathlib.Logic.Relation

/-!
# Requirements between inline modules

A `Universe` is a family that also has every inline module its renderers record. In it a key stands for one inline
module, so that keys can be said to require keys. `Arises` follows the same steps among dependencies and keeps the
crates that are met on the way. What the requirements are depends on the programs of the renderers alone, not on the
order of a walk.
-/

namespace Cratewright

open Relation (ReflTransGen)

/-- The manifest that the renderer of an inline module leaves on a fresh writer for the module. -/
def Catalogue.written (catalogue : Catalogue) (config : RuntimeConfig) (definition : InlineDependency) : Manifest :=
  (stateAfter (runAll (catalogue.program definition.renderer) (Writer.new config definition.modulePath))).manifest

/-- A rendered module is what its program wrote. -/
theorem Catalogue.render_eq_ok_iff {catalogue : Catalogue} {config : RuntimeConfig} {definition : InlineDependency}
    {source : String} {written : Manifest} :
    catalogue.render config definition = .ok (source, written) ↔
      ∃ writer, runAll (catalogue.program definition.renderer) (Writer.new config definition.modulePath) =
        .ok () writer ∧ source = writer.contents ∧ written = writer.manifest := by
  rw [render]
  cases runAll (catalogue.program definition.renderer) (Writer.new config definition.modulePath) with
  | ok _ writer => simp [eq_comm]
  | error failure writer => simp

/-- What a renderer has written is what its catalogue says that it writes. -/
theorem Catalogue.written_of_render {catalogue : Catalogue} {config : RuntimeConfig} {definition : InlineDependency}
    {source : String} {written : Manifest} (rendered : catalogue.render config definition = .ok (source, written)) :
    written = catalogue.written config definition := by
  obtain ⟨writer, run, -, rfl⟩ := render_eq_ok_iff.mp rendered
  rw [Catalogue.written, run]
  rfl

/-- Inline modules of which a key stands for one, together with all that they declare or their renderers record. -/
structure Universe (catalogue : Catalogue) (config : RuntimeConfig) extends Family where
  recorded : ∀ {definition required : InlineDependency}, Member definition →
    .inline required ∈ (catalogue.written config definition).items → Member required

namespace Universe

variable {catalogue : Catalogue} {config : RuntimeConfig}

/-- A family with all that the programs of its renderers mention. -/
def ofFamily (family : Family)
    (mentioned : ∀ {definition : InlineDependency}, family.Member definition →
      ∀ dependency ∈ programDependencies (catalogue.program definition.renderer), family.Holds dependency) :
    Universe catalogue config where
  toFamily := family
  recorded := fun {definition required} member recorded =>
    have kept : Keeps (Writer.Satisfies family.coherence) (runAll (catalogue.program definition.renderer)) :=
      keeps_runAll (mentioned member)
    (kept (Writer.new config definition.modulePath) family.coherent_empty).held (.inline required) recorded

/-- Whether one dependency is declared by an inline module or recorded by its renderer. -/
def Brings (catalogue : Catalogue) (config : RuntimeConfig) (definition : InlineDependency) (dependency : Dependency) :
    Prop :=
  dependency ∈ definition.extras ∨ dependency ∈ (catalogue.written config definition).items

variable (world : Universe catalogue config)

/-- Whether the inline module of one key declares that of another, or its renderer records it. -/
def Requires (key other : DependencyKey) : Prop :=
  ∃ definition required : InlineDependency, world.Member definition ∧ definition.key = key ∧ required.key = other ∧
    Brings catalogue config definition (.inline required)

/-- Whether a key can be reached from the inline modules among some dependencies. -/
def Reachable (roots : List Dependency) (key : DependencyKey) : Prop :=
  ∃ root : InlineDependency, .inline root ∈ roots ∧ ReflTransGen world.Requires root.key key

/-- The dependencies that are met on the way from some roots. -/
inductive Arises (catalogue : Catalogue) (config : RuntimeConfig) (roots : List Dependency) : Dependency → Prop where
  | root {dependency} (listed : dependency ∈ roots) : Arises catalogue config roots dependency
  | brought {definition dependency} (prior : Arises catalogue config roots (.inline definition))
      (brings : Brings catalogue config definition dependency) : Arises catalogue config roots dependency

/-- What the dependencies that arise from some roots say. -/
def demands (catalogue : Catalogue) (config : RuntimeConfig) (roots : List Dependency) : Set Need :=
  {need | ∃ dependency, Arises catalogue config roots dependency ∧ need ∈ dependency.own}

variable {world} {roots others : List Dependency}

/-- What arises from dependencies that arise themselves arises from their roots. -/
theorem Arises.trans (arise : ∀ dependency ∈ others, Arises catalogue config roots dependency) {dependency : Dependency}
    (arises : Arises catalogue config others dependency) : Arises catalogue config roots dependency := by
  induction arises with
  | root listed => exact arise _ listed
  | brought _ brings ih => exact .brought ih brings

/-- Dependencies that arise from some roots demand no more than the roots. -/
theorem demands_subset (arise : ∀ dependency ∈ others, Arises catalogue config roots dependency) :
    demands catalogue config others ⊆ demands catalogue config roots := by
  rintro need ⟨dependency, arises, found⟩
  exact ⟨dependency, arises.trans arise, found⟩

/-- What arises from some roots says nothing by itself that they do not demand. -/
theorem own_subset_demands {dependency : Dependency} (arises : Arises catalogue config roots dependency) :
    dependency.own ⊆ demands catalogue config roots := fun _ found => ⟨dependency, arises, found⟩

/-- What a module of a universe brings is in the universe. -/
theorem holds_of_brings {definition : InlineDependency} {dependency : Dependency} (member : world.Member definition)
    (brings : Brings catalogue config definition dependency) : world.Holds dependency := by
  cases dependency with
  | crate => trivial
  | inline required =>
    rcases brings with declared | recorded
    · exact world.extras member declared
    · exact world.recorded member recorded

/-- What arises from roots of the universe is in the universe. -/
theorem holds_of_arises (held : ∀ dependency ∈ roots, world.Holds dependency) {dependency : Dependency}
    (arises : Arises catalogue config roots dependency) : world.Holds dependency := by
  induction arises with
  | root listed => exact held _ listed
  | brought _ brings member => exact holds_of_brings member brings

/-- The keys that can be reached are those of the inline modules that arise. -/
theorem reachable_iff (held : ∀ dependency ∈ roots, world.Holds dependency) {key : DependencyKey} :
    world.Reachable roots key ↔
      ∃ definition : InlineDependency, Arises catalogue config roots (.inline definition) ∧ definition.key = key := by
  constructor
  · rintro ⟨root, listed, path⟩
    induction path with
    | refl => exact ⟨root, .root listed, rfl⟩
    | tail _ step ih =>
      obtain ⟨definition, arises, same⟩ := ih
      obtain ⟨requirer, required, member, key, rfl, brings⟩ := step
      have equal : requirer = definition :=
        world.determined member (holds_of_arises held arises) (key.trans same.symm)
      exact ⟨required, .brought arises (equal ▸ brings), rfl⟩
  · rintro ⟨definition, arises, rfl⟩
    generalize shape : Dependency.inline definition = dependency at arises
    induction arises generalizing definition with
    | root listed => exact ⟨definition, shape ▸ listed, .refl⟩
    | @brought requirer _ prior brings ih =>
      subst shape
      obtain ⟨root, listed, path⟩ := ih requirer rfl
      exact ⟨root, listed, path.tail ⟨requirer, definition, holds_of_arises held prior, rfl, rfl, brings⟩⟩

/-- What a module requires is among what it brings. -/
theorem brings_of_mem_requirements {definition : InlineDependency} {required : Dependency}
    (mem : required ∈ definition.requirements (catalogue.written config definition)) :
    Brings catalogue config definition required := by
  rcases List.mem_append.mp mem with declared | recorded
  · exact .inl declared
  · exact .inr (List.mem_filter.mp recorded).1

/-- No inline module declares itself. -/
theorem not_mem_own_extras (definition : InlineDependency) : .inline definition ∉ definition.extras := by
  intro declared
  have smaller := List.sizeOf_lt_of_mem declared
  obtain ⟨name, moduleName, extras, renderer⟩ := definition
  simp only [Dependency.inline.sizeOf_spec, InlineModule.mk.sizeOf_spec] at smaller
  omega

/-- What an inline module requires besides itself has another key. -/
theorem mem_requirements_iff {definition required : InlineDependency} (member : world.Member definition) :
    .inline required ∈ definition.requirements (catalogue.written config definition) ↔
      Brings catalogue config definition (.inline required) ∧ required.key ≠ definition.key := by
  rw [InlineModule.requirements, List.mem_append, List.mem_filter, Brings]
  have elsewhere : .inline required ∈ definition.extras → required.key ≠ definition.key := by
    intro declared same
    have equal : required = definition := world.determined (world.extras member declared) member same
    exact not_mem_own_extras definition (equal ▸ declared)
  constructor
  · rintro (declared | ⟨recorded, other⟩)
    · exact ⟨.inl declared, elsewhere declared⟩
    · exact ⟨.inr recorded, of_decide_eq_true other⟩
  · rintro ⟨declared | recorded, other⟩
    · exact .inl declared
    · exact .inr ⟨recorded, decide_eq_true other⟩

end Universe

end Cratewright
