import Cratewright.Proofs.CrateGeneration

/-!
# The manifest of a generated unit

Declarations of crates reach the manifest of a unit on several ways: from the unit itself, from the extras of inline
modules, and from what the renderers of these modules record, at any depth. `Gathered` says that no way is lost for
the modules that have been rendered; every rule of a walk keeps it. So a materialization says exactly what arises from
its roots. Main statement: the manifest of a unit has one entry for each crate that the unit or one of its inline
modules declares, at the place that all declarations name, with all their features and the widest of their scopes.
-/

namespace Cratewright

/-- Whether a manifest has exactly one entry for each crate among some declarations, and the entry needs what they need
together. -/
structure Manifest.Combines (manifest : Manifest) (declared : CrateDependency → Prop) : Prop where
  names : ∀ name, (∃ entry, manifest.crate? name = some entry) ↔
    ∃ declaration, declared declaration ∧ declaration.name = name
  location : ∀ name entry, manifest.crate? name = some entry →
    ∀ declaration, declared declaration → declaration.name = name → declaration.location = entry.location
  features : ∀ name entry, manifest.crate? name = some entry → ∀ feature, feature ∈ entry.features.items ↔
    ∃ declaration, declared declaration ∧ declaration.name = name ∧ feature ∈ declaration.features.items
  scope : ∀ name entry, manifest.crate? name = some entry → (entry.scope = .compile ↔
    ∃ declaration, declared declaration ∧ declaration.name = name ∧ declaration.scope = .compile)

/-- A manifest that says of crates what some declarations say combines these declarations. -/
theorem Manifest.combines_of_mem_needs_iff {manifest : Manifest} {declared : CrateDependency → Prop}
    (said : ∀ need name, need.crateName? = some name →
      (need ∈ manifest.needs ↔ ∃ declaration, declared declaration ∧ need ∈ declaration.needs)) :
    manifest.Combines declared := by
  -- Under a name the manifest says what its entry says, so each field compares the entry with the declarations.
  have entered : ∀ {name entry}, manifest.crate? name = some entry → ∀ need, need.crateName? = some name →
      (need ∈ entry.needs ↔ ∃ declaration, declared declaration ∧ need ∈ declaration.needs) := by
    intro name entry found need about
    obtain ⟨mem, rfl⟩ := crate?_eq_some_iff.mp found
    rw [← mem_needs_iff_of_crate mem about, said need entry.name about]
  constructor
  · intro name
    constructor
    · rintro ⟨entry, found⟩
      obtain ⟨-, named⟩ := crate?_eq_some_iff.mp found
      obtain ⟨declaration, listed, same, -⟩ :=
        (entered found (.located name entry.location) rfl).mp ⟨named.symm, rfl⟩
      exact ⟨declaration, listed, same.symm⟩
    · rintro ⟨declaration, listed, rfl⟩
      have located : .located declaration.name declaration.location ∈ manifest.needs :=
        (said _ declaration.name rfl).mpr ⟨declaration, listed, rfl, rfl⟩
      obtain ⟨entry, mem, named, -⟩ := located_mem_needs_iff.mp located
      exact ⟨entry, crate?_eq_some_iff.mpr ⟨mem_crates.mp mem, named⟩⟩
  · rintro name entry found declaration listed rfl
    exact ((entered found (.located declaration.name declaration.location) rfl).mpr ⟨declaration, listed, rfl, rfl⟩).2
  · intro name entry found feature
    obtain ⟨-, rfl⟩ := crate?_eq_some_iff.mp found
    simpa [eq_comm] using entered found (.featured entry.name feature) rfl
  · intro name entry found
    obtain ⟨-, rfl⟩ := crate?_eq_some_iff.mp found
    simpa [eq_comm] using entered found (.compiled entry.name) rfl

namespace Universe

variable {catalogue : Catalogue} {config : RuntimeConfig} {world : Universe catalogue config}
  {entered : List DependencyKey} {before next after inner out : Materialized} {definition : InlineDependency}
  {source : String} {roots : List Dependency}

/-- Whether what the rendered modules declare or record has reached the manifest. -/
def Gathered (world : Universe catalogue config) (materialized : Materialized) : Prop :=
  ∀ definition, world.Member definition → definition.key ∈ materialized.keys →
    ∀ dependency, Brings catalogue config definition dependency → dependency.own ⊆ materialized.manifest.needs

/-- Before any module is rendered there is nothing that could be missing. -/
theorem gathered_empty (world : Universe catalogue config) : world.Gathered {} := fun _ _ mem => nomatch mem

/-- Recording a crate loses nothing and renders nothing. -/
theorem Gathered.crate {declaration : CrateDependency} (gathered : world.Gathered before) (sound : world.Sound before)
    (recorded : before.record (.crate declaration) = .ok next) : world.Gathered next := by
  have advances : world.Advances [] before [.crate declaration] next := advances_crate sound recorded
  have keys : next.keys = before.keys := Materialized.keys_of_record recorded
  intro definition member mem dependency brings
  exact (gathered definition member (keys ▸ mem) dependency brings).trans advances.grows

/-- What a module brings is among its requirements, unless it is the module itself. -/
theorem own_subset_of_brings {needs : Set Need} {dependency : Dependency}
    (brings : Brings catalogue config definition dependency) (generated : .generated definition.key ∈ needs)
    (met : ∀ required ∈ definition.requirements (catalogue.written config definition), required.own ⊆ needs) :
    dependency.own ⊆ needs := by
  by_cases own : dependency.key = definition.key
  · cases dependency with
    | crate declaration => simp [Dependency.key, InlineModule.key] at own
    | inline required =>
      have same : required.key = definition.key := own
      exact Set.singleton_subset_iff.mpr (same ▸ generated)
  · apply met
    rcases brings with declared | recorded
    · exact List.mem_append_left _ declared
    · exact List.mem_append_right _ (List.mem_filter.mpr ⟨recorded, decide_eq_true own⟩)

/-- Rendering a module whose requirements are met gathers what it brings. -/
theorem Gathered.rendered (gathered : world.Gathered inner) (sound : world.Sound inner)
    (member : world.Member definition)
    (met : ∀ required ∈ definition.requirements (catalogue.written config definition),
      required.own ⊆ inner.manifest.needs)
    (recorded : inner.record (.inline definition) = .ok next) : world.Gathered (next.add definition source) := by
  have needs : next.manifest.needs = insert (.generated definition.key) inner.manifest.needs :=
    needs_of_record_inline sound member (fun extra mem => met extra (List.mem_append_left _ mem)) recorded
  have grows : inner.manifest.needs ⊆ next.manifest.needs := needs ▸ Set.subset_insert _ _
  intro other memberOther mem dependency brings
  rw [keys_add recorded, List.mem_append, List.mem_singleton] at mem
  rcases mem with mem | same
  · exact (gathered other memberOther mem dependency brings).trans grows
  · obtain rfl := world.determined memberOther member same
    have generated : .generated other.key ∈ next.manifest.needs := needs ▸ Set.mem_insert _ _
    exact own_subset_of_brings brings generated fun required mem => (met required mem).trans grows

/-- A walk that comes to an end has gathered what the modules it rendered bring. -/
theorem gathered_walk {visited : List Dependency} {result : Except CodegenError Materialized}
    (walk : Walk catalogue config entered before visited result)
    (held : ∀ dependency ∈ visited, world.Holds dependency) (sound : world.Sound before)
    (gathered : world.Gathered before) (ended : result = .ok after) : world.Gathered after := by
  induction walk generalizing after with
  | nil =>
    cases ended
    exact gathered
  | @crate entered before declaration next rest _ recorded _ onward =>
    rw [List.forall_mem_cons] at held
    have advances : world.Advances entered before [.crate declaration] next := advances_crate sound recorded
    exact onward held.2 advances.sound (gathered.crate sound recorded) ended
  | done _ _ onward =>
    rw [List.forall_mem_cons] at held
    exact onward held.2 sound gathered ended
  | @rendered entered before definition source _ inner next rest _ absent new rendered walked recorded _ inside
      onward =>
    rw [List.forall_mem_cons] at held
    cases Catalogue.written_of_render rendered
    have required : ∀ dependency ∈ definition.requirements (catalogue.written config definition),
        world.Holds dependency := fun dependency mem => holds_of_brings held.1 (brings_of_mem_requirements mem)
    have advances := advances_walk walked required sound rfl
    have step : world.Advances entered before [.inline definition] (next.add definition source) :=
      advances_walk (.rendered absent new rendered walked recorded .nil) (List.forall_mem_singleton.mpr held.1) sound
        rfl
    have gatheredNext : world.Gathered (next.add definition source) :=
      (inside required sound gathered rfl).rendered advances.sound held.1 advances.brought recorded
    exact onward held.2 step.sound gatheredNext ended
  | conflict => cases ended
  | cycle => cases ended
  | unrendered => cases ended
  | stopped => cases ended
  | refused => cases ended

/-- What arises from dependencies that have been brought has been brought. -/
theorem own_subset_of_arises (sound : world.Sound out) (gathered : world.Gathered out)
    (held : ∀ dependency ∈ roots, world.Holds dependency)
    (brought : ∀ dependency ∈ roots, dependency.own ⊆ out.manifest.needs) {dependency : Dependency}
    (arises : Arises catalogue config roots dependency) : dependency.own ⊆ out.manifest.needs := by
  induction arises with
  | root listed => exact brought _ listed
  | @brought definition dependency prior brings ih =>
    have rendered := (sound.generated definition.key).mp (ih rfl)
    exact gathered definition (holds_of_arises held prior) rendered dependency brings

/-- The modules of a materialization have been gathered in its manifest. -/
theorem gathered_materialize (held : ∀ dependency ∈ roots, world.Holds dependency)
    (run : catalogue.materialize config roots = .ok out) : world.Gathered out :=
  gathered_walk (catalogue.walk_materialize config roots) held world.sound_empty world.gathered_empty run

/-- A materialization says exactly what arises from its roots. -/
theorem needs_of_materialize (held : ∀ dependency ∈ roots, world.Holds dependency)
    (run : catalogue.materialize config roots = .ok out) : out.manifest.needs = demands catalogue config roots := by
  have advances := advances_materialize held run
  apply Set.Subset.antisymm
  · have bounded := advances.bounded
    rwa [Manifest.needs_empty, Set.empty_union] at bounded
  · rintro need ⟨dependency, arises, found⟩
    exact own_subset_of_arises advances.sound (gathered_materialize held run) held advances.brought arises found

variable {unit : CompilationUnit} {generated : GeneratedUnit}

/-- Whether a declaration of a crate is recorded by a unit, or declared or recorded by an inline module that was
generated with it. -/
inductive Declares (world : Universe catalogue config) (unit : CompilationUnit) (generated : GeneratedUnit) :
    CrateDependency → Prop where
  | unit {declaration} (recorded : .crate declaration ∈ (unit.recorded config).items) :
      Declares world unit generated declaration
  | extra {definition declaration} (member : world.Member definition)
      (rendered : definition.key ∈ generated.inlineModules.map RenderedModule.key)
      (declared : .crate declaration ∈ definition.extras) : Declares world unit generated declaration
  | written {definition declaration} (member : world.Member definition)
      (rendered : definition.key ∈ generated.inlineModules.map RenderedModule.key)
      (recorded : .crate declaration ∈ (catalogue.written config definition).items) :
      Declares world unit generated declaration

/-- The declarations of a unit and its inline modules are the crates that arise from what the unit recorded. -/
theorem declares_iff_arises {out : Materialized}
    (held : ∀ dependency ∈ (unit.recorded config).items, world.Holds dependency)
    (run : catalogue.materialize config (unit.recorded config).items = .ok out)
    (modules : generated.inlineModules = out.modules) {declaration : CrateDependency} :
    world.Declares unit generated declaration ↔
      Arises catalogue config (unit.recorded config).items (.crate declaration) := by
  have advances := advances_materialize held run
  have keys : generated.inlineModules.map RenderedModule.key = out.keys :=
    congrArg (List.map RenderedModule.key) modules
  -- A rendered module arises itself, since its key can be reached and stands for one module.
  have arises_of_rendered : ∀ {definition : InlineDependency}, world.Member definition →
      definition.key ∈ generated.inlineModules.map RenderedModule.key →
      Arises catalogue config (unit.recorded config).items (.inline definition) := by
    intro definition member rendered
    rw [keys, advances.mem_keys_iff held, reachable_iff held] at rendered
    obtain ⟨other, arises, same⟩ := rendered
    exact world.determined (holds_of_arises held arises) member same ▸ arises
  constructor
  · rintro (recorded | ⟨member, rendered, declared⟩ | ⟨member, rendered, recorded⟩)
    · exact .root recorded
    · exact .brought (arises_of_rendered member rendered) (.inl declared)
    · exact .brought (arises_of_rendered member rendered) (.inr recorded)
  · intro arises
    cases arises with
    | root recorded => exact .unit recorded
    | @brought definition _ prior brings =>
      have rendered : definition.key ∈ generated.inlineModules.map RenderedModule.key := by
        rw [keys, advances.mem_keys_iff held, reachable_iff held]
        exact ⟨definition, prior, rfl⟩
      rcases brings with declared | recorded
      · exact .extra (holds_of_arises held prior) rendered declared
      · exact .written (holds_of_arises held prior) rendered recorded

/-- The manifest of a generated unit combines all that the unit and its inline modules declare. -/
theorem combines_of_generate (world : Universe catalogue config) (covers : world.Covers unit)
    (run : catalogue.generate config unit = .ok generated) :
    generated.manifest.Combines (world.Declares unit generated) := by
  obtain ⟨out, materialized, modules, manifest⟩ := Catalogue.materialize_of_generate run
  have held : ∀ dependency ∈ (unit.recorded config).items, world.Holds dependency := covers.coherent_recorded.held
  apply Manifest.combines_of_mem_needs_iff
  intro need name about
  rw [manifest, needs_of_materialize held materialized]
  constructor
  · rintro ⟨dependency, arises, found⟩
    cases dependency with
    | inline definition =>
      cases found
      cases about
    | crate declaration => exact ⟨declaration, (declares_iff_arises held materialized modules).mpr arises, found⟩
  · rintro ⟨declaration, declares, found⟩
    exact ⟨.crate declaration, (declares_iff_arises held materialized modules).mp declares, found⟩

/-- A crate that is declared three times, with other features and scopes. -/
def logCrate : CrateDependency := .registry "log" "0.4"

/-- A module that declares the crate for development and whose renderer uses it and another module. -/
def auditModule : InlineDependency :=
  ⟨"audit", "audit", [.crate { logCrate.withFeature "std" with scope := .dev }], .defined "audit"⟩

/-- The program of the module. -/
def auditCatalogue : Catalogue where
  definitions :=
    [("audit", [.register (.crate (logCrate.withFeature "kv")),
      .write "use #T;" [.target (.fixed (clockModule.item "now"))]])]

/-- A unit that mentions the module and declares the crate for development itself. -/
def auditUnit : CompilationUnit :=
  ⟨"crate::client",
    [.register (.crate { logCrate with scope := .dev }), .write "#T();" [.target (.fixed (auditModule.item "record"))]]⟩

/-- The modules of the unit as a universe. -/
def auditUniverse : Universe auditCatalogue {} :=
  .ofFamily (.listed [auditModule, clockModule] (by decide) (by simp [auditModule, clockModule])) <| by
    intro definition member dependency mem
    rcases List.mem_pair.mp member with rfl | rfl
    · have mentioned : dependency = .crate (logCrate.withFeature "kv") ∨ dependency = .inline clockModule :=
        List.mem_pair.mp mem
      rcases mentioned with rfl | rfl
      · trivial
      · exact List.mem_pair.mpr (.inr rfl)
    · cases mem

/-- A unit and its module need one crate in different scopes and with different features, which its manifest combines.
-/
theorem combines_auditUnit :
    ∃ generated, auditCatalogue.generate {} auditUnit = .ok generated ∧
      generated.manifest.Combines (auditUniverse.Declares auditUnit generated) := by
  have covers : auditUniverse.Covers auditUnit := by
    have audit : auditUniverse.Holds (.inline auditModule) := List.mem_cons_self
    exact List.forall_mem_cons.mpr ⟨trivial, List.forall_mem_singleton.mpr audit⟩
  have succeeds : (auditCatalogue.generate {} auditUnit).isOk = true := by decide +kernel
  cases run : auditCatalogue.generate {} auditUnit with
  | ok generated => exact ⟨generated, rfl, auditUniverse.combines_of_generate covers run⟩
  | error failure =>
    rw [run] at succeeds
    cases succeeds

end Universe

end Cratewright
