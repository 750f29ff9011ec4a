import Cratewright.Proofs.LibraryUnits
import Cratewright.Proofs.Program.Retargets

/-!
# Units of the library under another prefix

A `Blueprint` says of a generated unit all that does not depend on the prefix of the support crates: the fragments of
its source and of the sources of its inline modules, between which the prefix stands with its hyphens rewritten, and
the crates by their role. Main statement: each unit of the generators of the library, with its own customizations, has
one blueprint that fits what is generated under every prefix of one line and without a colon. So another prefix
retargets the paths and dependencies of the support crates and changes nothing else.
-/

namespace Cratewright

open Text (Line Sketch)
open Universe (Arises demands)

namespace KnownCrate

/-- A known crate is needed by the generated code itself and without features, and its name fixes its place. -/
theorem declaration_eq (config : RuntimeConfig) (known : KnownCrate) :
    known.declaration config =
      ⟨(known.declaration config).name, config.place (known.declaration config).name, .compile, ∅⟩ := by
  rw [← location_declaration config known]
  cases known <;> rfl

/-- Known crates of one name have one declaration. -/
theorem declaration_eq_of_name {config : RuntimeConfig} {known other : KnownCrate}
    (same : (known.declaration config).name = (other.declaration config).name) :
    known.declaration config = other.declaration config := by
  rw [declaration_eq, same, ← declaration_eq]

/-- The prefix is the start of the name of every support crate and has no influence on any other name. -/
theorem name_declaration (config : RuntimeConfig) (known : KnownCrate) :
    (known.declaration config).name =
      match known.supportName? with
      | some name => config.cratePrefix ++ ("-" ++ name)
      | none => (known.declaration {}).name := by
  cases named : known.supportName? with
  | some name =>
    rw [declaration_of_supportName? config named]
    exact String.append_assoc ..
  | none => exact name_of_supportName? config named

/-- The name of a known crate, unless it depends on the prefix. -/
def ownName? (known : KnownCrate) : Option String :=
  if known.supportName?.isNone then some (known.declaration {}).name else none

/-- What follows the prefix in the name of a known crate. -/
def suffix? (known : KnownCrate) : Option String := known.supportName?.map ("-" ++ ·)

/-- The name of a known crate is its own or the prefix with its suffix. -/
theorem name_eq_iff {config : RuntimeConfig} {known : KnownCrate} {name : String} :
    (known.declaration config).name = name ↔
      known.ownName? = some name ∨ ∃ suffix, known.suffix? = some suffix ∧ name = config.cratePrefix ++ suffix := by
  rw [name_declaration, ownName?, suffix?]
  cases known.supportName? with
  | some support => simp [eq_comm]
  | none => simp

end KnownCrate

section

variable {catalogue : Catalogue} {config : RuntimeConfig} {manifest : Manifest} {roots : List Dependency}

/-- The token module is generated and needs one crate. -/
theorem needs_idempotencyToken (config : RuntimeConfig) :
    (Dependency.inline idempotencyToken).needs =
      insert (.generated idempotencyToken.key) (KnownCrate.fastrand.declaration config).needs := by
  have extras : idempotencyToken.extras = [.crate (KnownCrate.fastrand.declaration config)] := rfl
  rw [Dependency.needs_inline, extras, Dependency.needsOfAll, Dependency.needsOfAll, Set.union_empty,
    Dependency.needs_crate]

/-- The token module uses no crate that it does not declare. -/
theorem needs_written_idempotencyToken (catalogue : Catalogue) (config : RuntimeConfig) :
    (catalogue.written config idempotencyToken).needs ⊆ (Dependency.inline idempotencyToken).needs := by
  have agree : Agree (Dependency.inline idempotencyToken).needs :=
    (agree_placed config).mono (needs_idempotencyToken_subset_placed config)
  have declared : (Dependency.crate (KnownCrate.fastrand.declaration config)).needs ⊆
      (Dependency.inline idempotencyToken).needs := by
    rw [needs_idempotencyToken config, Dependency.needs_crate]
    exact Set.subset_insert _ _
  have covers : (Bond.confined _ agree).Covers config
      (programDependencies StandardModule.idempotencyToken.program)
      (programSupportItems StandardModule.idempotencyToken.program) := by
    refine ⟨nofun, fun item mem => ?_⟩
    cases List.mem_singleton.mp mem
    exact declared
  have inside : idempotencyToken.modulePath ≠ "" := by decide
  have completes := completes_runAll agree inside covers StandardModule.standard_idempotencyToken.fits
  obtain ⟨_, after, run, ready⟩ := completes _ (ready_new _ config idempotencyToken.modulePath)
  have program : catalogue.program idempotencyToken.renderer = StandardModule.idempotencyToken.program := rfl
  rw [Catalogue.written, program, run]
  exact ready.confined.needs

/-- Nothing arises from a manifest of crates and the token module that it does not say. -/
theorem needs_subset_of_arises (coherent : idempotencyFamily.Coherent manifest) {dependency : Dependency}
    (arises : Arises catalogue config manifest.items dependency) : dependency.needs ⊆ manifest.needs := by
  have held : ∀ root ∈ manifest.items, (idempotencyUniverse catalogue config).Holds root := coherent.held
  induction arises with
  | root listed => exact coherent.needs_subset (coherent.held _ listed) (Manifest.own_subset_needs listed)
  | @brought definition dependency prior brings ih =>
    have same : definition = idempotencyToken := eq_idempotencyToken (Universe.holds_of_arises held prior)
    subst same
    rcases brings with declared | recorded
    · refine Set.Subset.trans (fun need found => ?_) ih
      rw [Dependency.needs_inline]
      exact .inr (Dependency.mem_needsOfAll.mpr ⟨dependency, declared, found⟩)
    · cases dependency with
      | crate declaration =>
        rw [Dependency.needs_crate]
        exact (Manifest.own_subset_needs recorded).trans ((needs_written_idempotencyToken catalogue config).trans ih)
      | inline required =>
        have again : required = idempotencyToken :=
          eq_idempotencyToken ((idempotencyUniverse catalogue config).recorded (List.mem_singleton_self _) recorded)
        rwa [again]

/-- A coherent manifest demands what it says, as the token module brings nothing that it does not declare. -/
theorem demands_items (coherent : idempotencyFamily.Coherent manifest) :
    demands catalogue config manifest.items = manifest.needs := by
  apply Set.Subset.antisymm
  · rintro need ⟨dependency, arises, found⟩
    exact needs_subset_of_arises coherent arises (dependency.own_subset_needs found)
  · rintro need ⟨dependency, listed, found⟩
    exact ⟨dependency, .root listed, found⟩

end

/-- A list whose items all have one key, each of them another one, has at most one item. -/
theorem eq_nil_or_singleton_of_nodup_map {α β : Type} {key : α → β} {items : List α} {only : β}
    (distinct : (items.map key).Nodup) (same : ∀ item ∈ items, key item = only) :
    items = [] ∨ ∃ item, items = [item] := by
  match items with
  | [] => exact .inl rfl
  | [item] => exact .inr ⟨item, rfl⟩
  | first :: second :: rest =>
    have apart := (List.nodup_cons.mp distinct).1
    rw [same first (by simp)] at apart
    exact absurd (List.mem_cons.mpr (.inl (same second (by simp)).symm)) apart

namespace Outline

variable {config : RuntimeConfig} {modulePath : String} {writer : Writer}

/-- The source of an outline, cut where the prefix stands. -/
def fragments {family : Family} (outline : Outline family) : List String :=
  (Sketch.fragments ['_'] (outline.lines.flatMap (· ++ [some '\n']))).map String.ofList

/-- What a drawn writer has written is its fragments with the prefix between them. -/
theorem Draws.contents {family : Family} {outline : Outline family}
    (draws : outline.Draws config modulePath writer) :
    writer.contents = (underscored config.cratePrefix).intercalate outline.fragments := by
  have terminated : Text.terminated (outline.lines.map (Sketch.fill config.stem)) =
      Sketch.fill config.stem (outline.lines.flatMap (· ++ [some '\n'])) := by
    rw [Text.terminated, List.flatMap_map, Sketch.fill, List.flatMap_assoc]
    refine congrArg (outline.lines.flatMap ·) (funext fun line => ?_)
    exact (Sketch.fill_append line [some '\n']).symm
  have texts : outline.fragments.map String.toList =
      Sketch.fragments ['_'] (outline.lines.flatMap (· ++ [some '\n'])) := by
    rw [fragments, List.map_map]
    exact (List.map_congr_left fun text _ => String.toList_ofList).trans (List.map_id _)
  rw [← String.toList_inj, String.toList_intercalate, texts, ← Sketch.fill_append_eq_intercalate, Writer.contents,
    String.toList_ofList, draws.lines, terminated, RuntimeConfig.stem]

/-- The known crates of an outline and those that its inline modules declare. -/
def allCrates (outline : Outline idempotencyFamily) : List KnownCrate :=
  outline.crates ++ outline.modules.map fun _ => .fastrand

variable {outline : Outline idempotencyFamily} {manifest : Manifest}

/-- All that is said of crates is said of the known crates of the outline. -/
theorem mem_needs_brought_iff {need : Need} {name : String} (about : need.crateName? = some name) :
    need ∈ Dependency.needsOfAll (outline.brought config) ↔
      ∃ known ∈ outline.allCrates, need ∈ (known.declaration config).needs := by
  have module_iff : ∀ definition : {definition : InlineDependency // idempotencyFamily.Member definition},
      need ∈ (Dependency.inline definition.val).needs ↔ need ∈ (KnownCrate.fastrand.declaration config).needs := by
    rintro ⟨definition, member⟩
    cases List.mem_singleton.mp member
    have other : need ≠ .generated idempotencyToken.key := by
      rintro rfl
      cases about
    rw [needs_idempotencyToken config, Set.mem_insert_iff, or_iff_right other]
  rw [Dependency.mem_needsOfAll]
  simp only [brought, allCrates, List.mem_append, List.mem_map, or_and_right, exists_or, exists_exists_and_eq_and,
    Dependency.needs_crate, module_iff]

/-- The crates of a manifest that says what an outline brings. -/
theorem mem_crates_iff (needs : manifest.needs = Dependency.needsOfAll (outline.brought config))
    {declaration : CrateDependency} :
    declaration ∈ manifest.crates ↔ ∃ known ∈ outline.allCrates, known.declaration config = declaration := by
  have said : ∀ {need : Need} {name : String}, need.crateName? = some name →
      (need ∈ manifest.needs ↔ ∃ known ∈ outline.allCrates, need ∈ (known.declaration config).needs) := by
    intro need name about
    rw [needs]
    exact mem_needs_brought_iff about
  have known_of_mem : ∀ {declaration : CrateDependency}, declaration ∈ manifest.crates →
      ∃ known ∈ outline.allCrates, known.declaration config = declaration := by
    intro declaration mem
    have stored : .crate declaration ∈ manifest.items := Manifest.mem_crates.mp mem
    have located : .located declaration.name declaration.location ∈ manifest.needs :=
      Manifest.own_subset_needs stored ⟨rfl, rfl⟩
    obtain ⟨known, listed, named, -⟩ := (said rfl).mp located
    refine ⟨known, listed, CrateDependency.eq_of_needs_eq (Set.ext fun need => ?_)⟩
    -- Both say the same of the one crate that they are about, as all known crates of its name have one declaration.
    constructor
    · intro found
      have about := CrateDependency.crateName?_of_mem_needs found
      rw [← named] at about
      exact (Manifest.mem_needs_iff_of_crate stored about).mp ((said about).mpr ⟨known, listed, found⟩)
    · intro found
      have about := CrateDependency.crateName?_of_mem_needs found
      obtain ⟨other, -, foundOther⟩ := (said about).mp (Manifest.own_subset_needs stored found)
      have aboutOther := CrateDependency.crateName?_of_mem_needs foundOther
      have same : (known.declaration config).name = (other.declaration config).name := by
        rw [← named, ← Option.some.injEq, ← about, aboutOther]
      rwa [KnownCrate.declaration_eq_of_name same]
  refine ⟨known_of_mem, ?_⟩
  rintro ⟨known, listed, rfl⟩
  have located : .located (known.declaration config).name (known.declaration config).location ∈ manifest.needs :=
    (said rfl).mpr ⟨known, listed, rfl, rfl⟩
  obtain ⟨stored, mem, named, -⟩ := Manifest.located_mem_needs_iff.mp located
  obtain ⟨other, -, rfl⟩ := known_of_mem mem
  rwa [KnownCrate.declaration_eq_of_name named.symm]

/-- The token module is generated if the outline brings it. -/
theorem generated_mem_brought_iff {key : DependencyKey} :
    .generated key ∈ Dependency.needsOfAll (outline.brought config) ↔
      key = idempotencyToken.key ∧ outline.modules ≠ [] := by
  have module_iff : ∀ definition : {definition : InlineDependency // idempotencyFamily.Member definition},
      .generated key ∈ (Dependency.inline definition.val).needs ↔ key = idempotencyToken.key := by
    rintro ⟨definition, member⟩
    cases List.mem_singleton.mp member
    rw [needs_idempotencyToken config, Set.mem_insert_iff, Need.generated.injEq]
    exact or_iff_left CrateDependency.generated_not_mem_needs
  rw [Dependency.mem_needsOfAll]
  simp only [brought, List.mem_append, List.mem_map, or_and_right, exists_or, exists_exists_and_eq_and,
    Dependency.needs_crate, module_iff, CrateDependency.generated_not_mem_needs]
  cases outline.modules with
  | nil => simp
  | cons first rest => simp [and_comm]

end Outline

/-- A manifest has no two inline modules of one key. -/
theorem Manifest.nodup_keys_inlines (manifest : Manifest) : (manifest.inlines.map InlineModule.key).Nodup := by
  rw [List.Nodup, List.pairwise_map, Manifest.inlines]
  refine manifest.ascending.filterMap _ fun one other below definition found required foundOther => ?_
  cases one <;> cases found
  cases other <;> cases foundOther
  exact Keyed.ne_of_compare_lt below

/-- What a unit generates whatever the prefix is: the fragments of its source, its inline modules with their names and
fragments, the names of its crates without a prefix and what follows the prefix in those of the others, its crates by
their role, and the inline modules in its manifest. -/
structure Blueprint where
  modulePath : String
  source : List String
  modules : List (String × String × List String)
  names : List String
  suffixes : List String
  crates : List KnownCrate
  inlines : List InlineDependency

/-- Whether a generated unit is what a blueprint says under a configuration. -/
structure Blueprint.Fits (blueprint : Blueprint) (config : RuntimeConfig) (generated : GeneratedUnit) : Prop where
  modulePath : generated.modulePath = blueprint.modulePath
  source : generated.source = (underscored config.cratePrefix).intercalate blueprint.source
  modules : generated.inlineModules = blueprint.modules.map fun (moduleName, name, fragments) =>
    ⟨moduleName, name, (underscored config.cratePrefix).intercalate fragments⟩
  names : ∀ name, name ∈ generated.manifest.crates.map CrateDependency.name ↔
    name ∈ blueprint.names ∨ ∃ suffix ∈ blueprint.suffixes, name = config.cratePrefix ++ suffix
  crates : ∀ declaration, declaration ∈ generated.manifest.crates ↔
    ∃ known ∈ blueprint.crates, known.declaration config = declaration
  inlines : generated.manifest.inlines = blueprint.inlines

namespace Outline

variable {catalogue : Catalogue} {config : RuntimeConfig} {outline : Outline idempotencyFamily}
  {modulePath : String} {tokenFragments : List String}

/-- The blueprint of an outline, given the path of its module and the fragments of the token module. -/
def blueprint (outline : Outline idempotencyFamily) (modulePath : String) (tokenFragments : List String) :
    Blueprint where
  modulePath := modulePath
  source := outline.fragments
  modules := if outline.modules = [] then [] else
    [(idempotencyToken.moduleName, idempotencyToken.name, tokenFragments)]
  names := outline.allCrates.filterMap KnownCrate.ownName?
  suffixes := outline.allCrates.filterMap KnownCrate.suffix?
  crates := outline.allCrates
  inlines := if outline.modules = [] then [] else [idempotencyToken]

/-- The names of the crates in an outline are the names of its blueprint and the prefix with each of its suffixes. -/
theorem mem_names_iff (outline : Outline idempotencyFamily) (modulePath : String) (tokenFragments : List String)
    (config : RuntimeConfig) (name : String) :
    (∃ known ∈ outline.allCrates, (known.declaration config).name = name) ↔
      name ∈ (outline.blueprint modulePath tokenFragments).names ∨
        ∃ suffix ∈ (outline.blueprint modulePath tokenFragments).suffixes, name = config.cratePrefix ++ suffix := by
  simp only [KnownCrate.name_eq_iff, blueprint, List.mem_filterMap, and_or_left, exists_or]
  refine or_congr_right ⟨?_, ?_⟩
  · rintro ⟨known, listed, suffix, named, rfl⟩
    exact ⟨suffix, ⟨known, listed, named⟩, rfl⟩
  · rintro ⟨suffix, ⟨known, listed, named⟩, rfl⟩
    exact ⟨known, listed, suffix, named, rfl⟩

/-- A manifest that needs what an outline brings has the inline modules of the blueprint. -/
theorem inlines_eq_blueprint {manifest : Manifest} (coherent : idempotencyFamily.Coherent manifest)
    (needs : manifest.needs = Dependency.needsOfAll (outline.brought config)) :
    manifest.inlines = (outline.blueprint modulePath tokenFragments).inlines := by
  have only : ∀ definition ∈ manifest.inlines, definition = idempotencyToken := fun definition mem =>
    List.mem_singleton.mp (coherent.held _ (Manifest.mem_inlines.mp mem))
  have generated : (∃ definition ∈ manifest.inlines, definition.key = idempotencyToken.key) ↔ outline.modules ≠ [] := by
    rw [← Manifest.generated_mem_needs_iff, needs, generated_mem_brought_iff]
    exact and_iff_right rfl
  change manifest.inlines = if outline.modules = [] then [] else [idempotencyToken]
  rcases eq_nil_or_singleton_of_nodup_map manifest.nodup_keys_inlines
    fun definition mem => congrArg InlineModule.key (only definition mem) with none | ⟨definition, one⟩
  · rw [none] at generated ⊢
    rw [if_pos (by simpa using generated)]
  · rw [one] at only generated ⊢
    cases only definition List.mem_cons_self
    rw [if_neg (generated.mp ⟨_, List.mem_cons_self, rfl⟩)]

/-- The inline modules that are materialized are that of the tokens, with its own source, or none. -/
theorem modules_eq_blueprint {out : Materialized}
    (sound : (idempotencyUniverse catalogue config).Sound out)
    (needs : out.manifest.needs = Dependency.needsOfAll (outline.brought config))
    (token : ∀ {source : String},
      catalogue.render config idempotencyToken = .ok (source, catalogue.written config idempotencyToken) →
      source = (underscored config.cratePrefix).intercalate tokenFragments) :
    out.modules = (outline.blueprint modulePath tokenFragments).modules.map fun (moduleName, name, fragments) =>
      ⟨moduleName, name, (underscored config.cratePrefix).intercalate fragments⟩ := by
  have only : ∀ rendered ∈ out.modules, rendered =
      ⟨idempotencyToken.moduleName, idempotencyToken.name,
        (underscored config.cratePrefix).intercalate tokenFragments⟩ := by
    rintro ⟨moduleName, name, source⟩ mem
    obtain ⟨definition, member, same, ran⟩ := sound.renders _ mem
    cases eq_idempotencyToken member
    cases same
    exact congrArg (RenderedModule.mk _ _) (token ran)
  have generated : idempotencyToken.key ∈ out.keys ↔ outline.modules ≠ [] := by
    rw [← sound.generated, needs, generated_mem_brought_iff]
    exact and_iff_right rfl
  rw [blueprint]
  rcases eq_nil_or_singleton_of_nodup_map sound.distinct
    fun rendered mem => congrArg RenderedModule.key (only rendered mem) with none | ⟨rendered, one⟩
  · rw [Materialized.keys, none] at generated
    rw [none, if_pos (by simpa using generated)]
    rfl
  · rw [one] at only
    cases only rendered List.mem_cons_self
    rw [Materialized.keys, one] at generated
    rw [one, if_neg (generated.mp List.mem_cons_self)]
    rfl

end Outline

/-- A generated unit has the module path of the unit and the source that its program wrote. -/
theorem Catalogue.written_of_generate {catalogue : Catalogue} {config : RuntimeConfig} {unit : CompilationUnit}
    {generated : GeneratedUnit} {writer : Writer} (success : catalogue.generate config unit = .ok generated)
    (run : runAll unit.program (Writer.new config unit.modulePath) = .ok () writer) :
    generated.modulePath = unit.modulePath ∧ generated.source = writer.contents := by
  rw [generate, run] at success
  cases materialized : writer.manifest.materialize catalogue config with
  | error failure => simp [materialized, Bind.bind, Except.bind] at success
  | ok out =>
    simp only [materialized] at success
    cases success
    exact ⟨rfl, rfl⟩

/-- Every unit of the library's generators has one blueprint for all prefixes of one line and without a colon. -/
theorem Catalogue.generate_retargets {unit : CompilationUnit} (standard : unit.Standard) :
    ∃ blueprint : Blueprint, ∀ (catalogue : Catalogue) (config : RuntimeConfig),
      ':' ∉ config.cratePrefix.toList → '\n' ∉ config.cratePrefix.toList →
      ∃ generated, catalogue.generate config unit = .ok generated ∧ blueprint.Fits config generated := by
  have named : ∀ dependency ∈ programDependencies unit.program, idempotencyFamily.Names dependency := by
    intro dependency mem
    rw [standard.program.token dependency mem]
    exact List.mem_singleton_self _
  obtain ⟨outline, draws⟩ := exists_outline unit.modulePath named
  obtain ⟨token, drawsToken⟩ := exists_outline idempotencyToken.modulePath
    (show ∀ dependency ∈ programDependencies StandardModule.idempotencyToken.program,
      idempotencyFamily.Names dependency from nofun)
  -- From here on the blueprint is fixed, and only then is a configuration given.
  refine ⟨outline.blueprint unit.modulePath token.fragments, fun catalogue config foreign whole => ?_⟩
  have plain : config.Plain := ⟨whole, foreign⟩
  obtain ⟨written, run, -⟩ := standard.program.runs config standard.modulePath_ne_empty
  have drawn := draws plain run
  obtain ⟨generated, success, -⟩ := catalogue.generate_standard config standard
  obtain ⟨out, materialized, modules, manifest⟩ := Catalogue.materialize_of_generate success
  have recorded : unit.recorded config = written.manifest := by
    rw [CompilationUnit.recorded, run]
    rfl
  rw [recorded] at materialized
  have held : ∀ dependency ∈ written.manifest.items, (idempotencyUniverse catalogue config).Holds dependency :=
    drawn.coherent.held
  have sound := (Universe.advances_materialize held materialized).sound
  have needs : out.manifest.needs = Dependency.needsOfAll (outline.brought config) := by
    rw [Universe.needs_of_materialize held materialized, demands_items drawn.coherent, drawn.needs]
  have tokenSource : ∀ {source : String},
      catalogue.render config idempotencyToken = .ok (source, catalogue.written config idempotencyToken) →
      source = (underscored config.cratePrefix).intercalate token.fragments := by
    intro source rendered
    obtain ⟨writer, ran, contents, -⟩ := Catalogue.render_eq_ok_iff.mp rendered
    rw [contents]
    exact (drawsToken plain ran).contents
  obtain ⟨path, source⟩ := Catalogue.written_of_generate success run
  refine ⟨generated, success, path, source.trans drawn.contents, ?_, fun name => ?_, fun declaration => ?_, ?_⟩
  · rw [modules]
    exact Outline.modules_eq_blueprint sound needs tokenSource
  · rw [manifest, List.mem_map, ← outline.mem_names_iff]
    simp only [Outline.mem_crates_iff needs, exists_exists_and_eq_and]
  · rw [manifest]
    exact Outline.mem_crates_iff needs
  · rw [manifest]
    exact Outline.inlines_eq_blueprint sound.coherent needs

/-- A service configuration with customizations that mention a support crate and the token module. -/
def tokenConfigUnit : CompilationUnit := .serviceConfig ⟨[Retry.forConfig, IdempotencyToken.forConfig]⟩

/-- A service configuration with retries and a token, under a prefix with a hyphen and under an empty one. -/
theorem Catalogue.generate_retargets_tokenConfigUnit :
    tokenConfigUnit.Standard ∧ ∃ blueprint : Blueprint,
      (∃ generated, Catalogue.generate {} ⟨"my-co", "../"⟩ tokenConfigUnit = .ok generated ∧
        blueprint.Fits ⟨"my-co", "../"⟩ generated) ∧
      ∃ generated, Catalogue.generate {} ⟨"", ""⟩ tokenConfigUnit = .ok generated ∧
        blueprint.Fits ⟨"", ""⟩ generated := by
  have standard : tokenConfigUnit.Standard := by
    refine .serviceConfig _ fun customization mem => ?_
    simp only [defaultConfigCustomizations, List.mem_cons, List.not_mem_nil, or_false] at mem ⊢
    tauto
  obtain ⟨blueprint, fits⟩ := Catalogue.generate_retargets standard
  exact ⟨standard, blueprint, fits {} ⟨"my-co", "../"⟩ (by decide) (by decide),
    fits {} ⟨"", ""⟩ (by decide) (by decide)⟩

end Cratewright
