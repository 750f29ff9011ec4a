import Cratewright.Proofs.CrateGeneration
import Cratewright.Proofs.Flattening
import Cratewright.Proofs.GeneratedCode
import Cratewright.Proofs.Materialize.Cycle
import Cratewright.Proofs.Program.Success

/-!
# Units of the library

The generators of the library with its own customizations write units that cannot fail. Their templates take what they
are given, so that no name and no prefix is ever read as a placeholder; the crates they build on lie at one place for
each name, whatever the prefix is; and the only inline module they bring, that of the tokens, requires no other. Main
statement: generating any list of such units succeeds for each of them.
-/

namespace Cratewright

open Universe (Arises demands)

/-- The known crates that come from the registry, with their versions. -/
def registryCrates : List (String × String) :=
  [("http", "0.2"), ("bytes", "1"), ("fastrand", "1"), ("serde_json", "1"), ("tower", "0.4")]

/-- The place of a crate of a name, if it is a known crate. -/
def RuntimeConfig.place (config : RuntimeConfig) (name : String) : Location :=
  match registryCrates.lookup name with
  | some version => .registry version
  | none => .directory (config.directory name)

/-- All that can be said of crates that lie at their places. -/
def placed (config : RuntimeConfig) : Set Need :=
  {need | ∀ name location, need = .located name location → location = config.place name}

/-- What is placed puts no crate at two places. -/
theorem agree_placed (config : RuntimeConfig) : Agree (placed config) :=
  fun name one other mem memOther => (mem name one rfl).trans (memOther name other rfl).symm

/-- No crate from the registry has a hyphen in its name, as every support crate does. -/
theorem lookup_registryCrates_eq_none {name : String} (hyphen : '-' ∈ name.toList) :
    registryCrates.lookup name = none := by
  have plain : ∀ pair ∈ registryCrates, '-' ∉ pair.1.toList := by decide
  cases found : registryCrates.lookup name with
  | none => rfl
  | some version => exact absurd hyphen (plain _ (mem_of_lookup found))

/-- A support crate lies where its name is placed. -/
theorem location_supportCrate (config : RuntimeConfig) (name : String) :
    (config.supportCrate name).location = config.place (config.supportCrate name).name := by
  have hyphen : '-' ∈ (config.supportCrate name).name.toList := by
    simp [RuntimeConfig.supportCrate, CrateDependency.directory]
  rw [RuntimeConfig.place, lookup_registryCrates_eq_none hyphen]
  rfl

/-- The name of a known crate fixes its place, whatever the prefix is. -/
theorem KnownCrate.location_declaration (config : RuntimeConfig) (known : KnownCrate) :
    (known.declaration config).location = config.place (known.declaration config).name := by
  cases known with
  | types | http | json | xml | query | client => exact location_supportCrate config _
  | sharedTypes | httpMessages | bytes | fastrand | serdeJson | tower => rfl

/-- What a known crate declares is placed. -/
theorem KnownCrate.needs_subset_placed (config : RuntimeConfig) (known : KnownCrate) :
    (known.declaration config).needs ⊆ placed config := by
  rintro need found name location rfl
  obtain ⟨rfl, rfl⟩ := CrateDependency.located_mem_needs.mp found
  exact known.location_declaration config

/-- What the token module brings is placed. -/
theorem needs_idempotencyToken_subset_placed (config : RuntimeConfig) :
    (Dependency.inline idempotencyToken).needs ⊆ placed config := by
  rw [Dependency.needs_inline, Set.insert_subset_iff]
  refine ⟨nofun, fun need found => ?_⟩
  obtain ⟨dependency, mem, found⟩ := Dependency.mem_needsOfAll.mp found
  rw [List.mem_singleton.mp mem, Dependency.needs_crate] at found
  exact KnownCrate.needs_subset_placed config .fastrand found

/-- A program that brings no dependency but the token module stays inside the places of its crates. -/
theorem covers_placed {config : RuntimeConfig} {dependencies : List Dependency}
    (token : ∀ dependency ∈ dependencies, dependency = .inline idempotencyToken) (items : List SupportItem) :
    (Bond.confined _ (agree_placed config)).Covers config dependencies items := by
  refine ⟨fun dependency mem => ?_, fun item _ => ?_⟩
  · rw [token dependency mem]
    exact needs_idempotencyToken_subset_placed config
  · change (Dependency.crate _).needs ⊆ _
    rw [Dependency.needs_crate]
    exact KnownCrate.needs_subset_placed config item.owner

/-- Whether an argument fits and brings no dependency but the token module. -/
structure Argument.Standard (argument : Argument) : Prop where
  fits : argument.fits = true
  token : ∀ dependency ∈ argument.dependencies, dependency = .inline idempotencyToken

/-- Whether a writable fits and brings no dependency but the token module. -/
structure Writable.Standard (writable : Writable) : Prop where
  fits : writable.fits = true
  token : ∀ dependency ∈ writable.dependencies, dependency = .inline idempotencyToken

namespace Argument

/-- A text brings nothing. -/
theorem standard_text (text : String) : (Argument.text text).Standard := ⟨rfl, nofun⟩

/-- A support item brings no inline module. -/
theorem standard_support (item : SupportItem) : (Argument.target (.support item)).Standard := ⟨rfl, nofun⟩

/-- An item of the module itself brings nothing. -/
theorem standard_own (name : String) : (Argument.target (.own name)).Standard := ⟨rfl, nofun⟩

/-- An item of a generated module brings nothing by itself. -/
theorem standard_generated (path name : String) : (Argument.target (.fixed (.generated path name))).Standard := by
  refine ⟨?_, nofun⟩
  have inside := Reference.modulePath_generated_ne_empty path name
  simpa [Argument.fits, Target.fits] using inside

/-- An item of the token module brings the token module. -/
theorem standard_token (name : String) : (Argument.target (IdempotencyToken.item name)).Standard := by
  refine ⟨?_, fun dependency mem => List.mem_singleton.mp mem⟩
  simp [Argument.fits, Target.fits, IdempotencyToken.item, InlineModule.item, InlineModule.modulePath]

end Argument

/-- A standard writable is a standard argument. -/
theorem Writable.Standard.argument {writable : Writable} (standard : writable.Standard) :
    (Argument.writable writable).Standard := ⟨standard.fits, standard.token⟩

namespace Writable

/-- Writing nothing is standard. -/
theorem standard_empty : Standard .empty := ⟨rfl, nofun⟩

/-- Writing a template with standard arguments is standard if it takes as many as there are. -/
theorem standard_write {template : String} {arguments : List Argument}
    (fits : Template.fits template (.ofList (List.replicate arguments.length ())) = true)
    (standard : ∀ argument ∈ arguments, argument.Standard) : Standard (.program [.write template arguments]) where
  fits := by
    have fitArguments : argumentsFit arguments = true := by
      rw [argumentsFit_eq_all, List.all_eq_true]
      exact fun argument mem => (standard argument mem).fits
    rw [← Template.fits_ofList] at fits
    simp [Writable.fits, programFits, Op.fits, fits, fitArguments]
  token := by
    rw [Writable.dependencies, programDependencies, programDependencies, List.append_nil, Op.dependencies,
      argumentDependencies_eq_flatMap]
    intro dependency mem
    obtain ⟨argument, given, mentioned⟩ := List.mem_flatMap.mp mem
    exact (standard argument given).token dependency mentioned

/-- A template with one placeholder for an item is standard if the item is. -/
theorem standard_mention {template : String} {target : Target}
    (fits : Template.fits template (.ofList [()]) = true) (standard : (Argument.target target).Standard) :
    (mention template target).Standard :=
  standard_write fits (List.forall_mem_singleton.mpr standard)

/-- Writing a template with standard arguments by name is standard if it takes these names. -/
theorem standard_writeNamed {template : String} {arguments : List (String × Argument)}
    (fits : Template.fits template (.ofPairs arguments) = true)
    (standard : ∀ pair ∈ arguments, pair.2.Standard) : Standard (.program [.writeNamed template arguments]) where
  fits := by
    have fitArguments : namedArgumentsFit arguments = true := by
      rw [namedArgumentsFit_eq_all, List.all_eq_true]
      exact fun pair mem => (standard pair mem).fits
    simp [Writable.fits, programFits, Op.fits, fits, fitArguments]
  token := by
    rw [Writable.dependencies, programDependencies, programDependencies, List.append_nil, Op.dependencies,
      namedArgumentDependencies_eq_flatMap]
    intro dependency mem
    obtain ⟨pair, given, mentioned⟩ := List.mem_flatMap.mp mem
    exact (standard pair given).token dependency mentioned

/-- Writables one after another are standard if each of them is. -/
theorem standard_concat {parts : List Writable} (standard : ∀ part ∈ parts, part.Standard) :
    Standard (.concat parts) where
  fits := fits_concat fun part mem => (standard part mem).fits
  token := by
    rw [dependencies_concat]
    intro dependency mem
    obtain ⟨part, given, mentioned⟩ := List.mem_flatMap.mp mem
    exact (standard part given).token dependency mentioned

end Writable

/-- The region of a service configuration is standard in every slot. -/
theorem Region.standard_forConfig (slot : ServiceConfigSlot) : (forConfig.contribution slot).Standard := by
  cases slot with
  | builderBuild => exact Writable.standard_write (by rw [Template.fits_source]; decide +kernel) nofun
  | configStruct | configImpl | builderStruct | builderImpl =>
    exact Writable.standard_mention (by rw [Template.fits_source]; decide +kernel) (Argument.standard_support .region)

/-- The retries of a service configuration are standard in every slot. -/
theorem Retry.standard_forConfig (slot : ServiceConfigSlot) : (forConfig.contribution slot).Standard := by
  cases slot with
  | builderBuild => exact Writable.standard_write (by rw [Template.fits_source]; decide +kernel) nofun
  | configStruct | configImpl | builderStruct | builderImpl =>
    exact Writable.standard_mention (by rw [Template.fits_source]; decide +kernel)
      (Argument.standard_support .retryConfig)

/-- The token provider of a service configuration is standard in every slot. -/
theorem IdempotencyToken.standard_forConfig (slot : ServiceConfigSlot) : (forConfig.contribution slot).Standard := by
  cases slot with
  | configImpl => exact Writable.standard_empty
  | configStruct | builderStruct | builderImpl | builderBuild =>
    exact Writable.standard_mention (by rw [Template.fits_source]; decide +kernel) (Argument.standard_token _)

/-- The region of an operation is standard in every slot. -/
theorem Region.standard_forOperation (slot : OperationSlot) : (forOperation.contribution slot).Standard := by
  cases slot with
  | implBlock | mutateInput => exact Writable.standard_empty
  | plugin operation config =>
    -- The texts do not matter, so it is checked with nothing in their places.
    have fits : Template.fits pluginTemplate (.ofList [(), ()]) = true := by
      rw [pluginTemplate, Template.fits_source]
      decide +kernel
    exact Writable.standard_write fits (List.forall_mem_cons.mpr
      ⟨Argument.standard_text config, List.forall_mem_singleton.mpr (Argument.standard_text operation)⟩)

/-- The token of an operation is standard in every slot, whatever the token field is. -/
theorem IdempotencyToken.standard_forOperation (tokenField : Option String) (slot : OperationSlot) :
    ((forOperation tokenField).contribution slot).Standard := by
  cases slot with
  | implBlock | plugin => exact Writable.standard_empty
  | mutateInput input config =>
    cases tokenField with
    | none => exact Writable.standard_empty
    | some field =>
      have fits : Template.fits adjustmentTemplate
          (.ofPairs [("input", ()), ("field", ()), ("config", ())]) = true := by
        rw [adjustmentTemplate, Template.fits_source]
        decide +kernel
      refine Writable.standard_writeNamed ?_ ?_
      · rw [Template.fits_ofPairs]
        exact fits
      · simp [Argument.standard_text]

/-- Units of the generators of the library, with its customizations in any order and number. -/
inductive CompilationUnit.Standard : CompilationUnit → Prop
  | serviceConfig (generator : ServiceConfig)
      (registered : ∀ customization ∈ generator.customizations, customization ∈ defaultConfigCustomizations) :
      Standard (.serviceConfig generator)
  | operation (generator : Operation)
      (registered : ∀ customization ∈ generator.customizations,
        ∃ model input, customization ∈ defaultOperationCustomizations model input) :
      Standard (.operation generator)

/-- What standard customizations contribute to a slot is standard together. -/
theorem standard_contributions {Place : Type} {customizations : List (Customization Place)}
    (standard : ∀ customization ∈ customizations, ∀ slot, (customization.contribution slot).Standard) (slot : Place) :
    (Argument.writable (contributions customizations slot)).Standard := by
  refine (Writable.standard_concat fun part mem => ?_).argument
  obtain ⟨customization, registered, rfl⟩ := List.mem_map.mp mem
  exact standard customization registered slot

/-- The program of a service configuration with customizations of the library is standard. -/
theorem ServiceConfig.standard_program {generator : ServiceConfig}
    (registered : ∀ customization ∈ generator.customizations, customization ∈ defaultConfigCustomizations) :
    (Writable.program generator.program).Standard := by
  have standard : ∀ customization ∈ generator.customizations, ∀ slot,
      (customization.contribution slot).Standard := by
    intro customization mem
    have shipped := registered customization mem
    simp only [defaultConfigCustomizations, List.mem_cons, List.not_mem_nil, or_false] at shipped
    rcases shipped with rfl | rfl | rfl
    · exact Region.standard_forConfig
    · exact IdempotencyToken.standard_forConfig
    · exact Retry.standard_forConfig
  refine Writable.standard_writeNamed (Template.fits_of_takes framework.takes) fun pair mem => ?_
  obtain ⟨slot, -, rfl⟩ := List.mem_map.mp mem
  exact standard_contributions standard slot

/-- The program of an operation with customizations of the library is standard, for any models and inputs. -/
theorem Operation.standard_program {operation : Operation}
    (registered : ∀ customization ∈ operation.customizations,
      ∃ model input, customization ∈ defaultOperationCustomizations model input) :
    (Writable.program operation.program).Standard := by
  have standard : ∀ customization ∈ operation.customizations, ∀ slot,
      (customization.contribution slot).Standard := by
    intro customization mem
    obtain ⟨model, input, shipped⟩ := registered customization mem
    rcases List.mem_pair.mp shipped with rfl | rfl
    · exact IdempotencyToken.standard_forOperation _
    · exact Region.standard_forOperation
  refine Writable.standard_writeNamed (Template.fits_of_takes framework.takes) ?_
  simp [Argument.standard_text, Argument.standard_generated, Argument.standard_support, Argument.standard_own,
    standard_contributions standard]

/-- The program of the token module is standard. -/
theorem StandardModule.standard_idempotencyToken :
    (Writable.program StandardModule.idempotencyToken.program).Standard := by
  have fits : Template.fits idempotencyTokenTemplate
      (.ofPairs [("Arc", ()), ("Mutex", ()), ("Rng", ()), ("String", ())]) = true := by
    rw [idempotencyTokenTemplate, Template.fits_source]
    decide +kernel
  refine Writable.standard_writeNamed ?_ ?_
  · rw [Template.fits_ofPairs]
    exact fits
  · have item : ∀ which : StandardItem, (Argument.target (.fixed which.reference)).Standard := fun which =>
      ⟨by cases which <;> decide, by cases which <;> nofun⟩
    simp [Argument.standard_support, item]

namespace CompilationUnit.Standard

variable {unit : CompilationUnit}

/-- A standard unit has a module path. -/
theorem modulePath_ne_empty (standard : unit.Standard) : unit.modulePath ≠ "" := by
  cases standard with
  | serviceConfig generator =>
    change "crate::config" ≠ ""
    decide
  | operation generator =>
    change "crate::operation::" ++ snakeCase generator.name ≠ ""
    simp

/-- The program of a standard unit is standard. -/
theorem program (standard : unit.Standard) : (Writable.program unit.program).Standard := by
  cases standard with
  | serviceConfig generator registered => exact ServiceConfig.standard_program registered
  | operation generator registered => exact Operation.standard_program registered

end CompilationUnit.Standard

/-- A standard program succeeds, and its crates lie at their places. -/
theorem Writable.Standard.runs {operations : Program} (standard : (Writable.program operations).Standard)
    (config : RuntimeConfig) {modulePath : String} (inside : modulePath ≠ "") :
    ∃ after, runAll operations (Writer.new config modulePath) = .ok () after ∧
      after.manifest.Confined (placed config) := by
  have completes := completes_runAll (agree_placed config) inside (covers_placed standard.token _) standard.fits
  obtain ⟨_, after, run, ready⟩ := completes _ (ready_new _ config modulePath)
  exact ⟨after, run, ready.confined⟩

/-- The token module by itself, which declares a crate only. -/
def idempotencyFamily : Family := .listed [idempotencyToken] (by simp) (by simp [idempotencyToken])

/-- The token module mentions no inline module in its program either. -/
def idempotencyUniverse (catalogue : Catalogue) (config : RuntimeConfig) : Universe catalogue config :=
  .ofFamily idempotencyFamily <| by
    intro definition member dependency mem
    rw [List.mem_singleton.mp member] at mem
    cases mem

/-- Whether the crates of a manifest lie at their places, and it has no inline module but that of the tokens. -/
structure Manifest.Placed (config : RuntimeConfig) (manifest : Manifest) : Prop where
  coherent : idempotencyFamily.Coherent manifest
  inside : manifest.needs ⊆ placed config

section

variable {catalogue : Catalogue} {config : RuntimeConfig} {roots : List Dependency} {manifest : Manifest}
  {unit : CompilationUnit}

/-- The token module is the only inline module of its universe. -/
theorem eq_idempotencyToken {definition : InlineDependency}
    (held : (idempotencyUniverse catalogue config).Holds (.inline definition)) : definition = idempotencyToken :=
  List.mem_singleton.mp held

/-- The token module can be rendered. -/
theorem Catalogue.render_idempotencyToken (catalogue : Catalogue) (config : RuntimeConfig) :
    ∃ source, catalogue.render config idempotencyToken = .ok (source, catalogue.written config idempotencyToken) ∧
      (catalogue.written config idempotencyToken).Confined (placed config) := by
  have inside : idempotencyToken.modulePath ≠ "" := by decide
  obtain ⟨after, run, confined⟩ := StandardModule.standard_idempotencyToken.runs config inside
  have rendered : catalogue.render config idempotencyToken = .ok (after.contents, after.manifest) :=
    render_eq_ok_iff.mpr ⟨after, run, rfl, rfl⟩
  exact ⟨after.contents, written_of_render rendered ▸ rendered, written_of_render rendered ▸ confined⟩

/-- Whatever arises from crates at their places and the token module lies at its place too. -/
theorem own_subset_placed (held : ∀ dependency ∈ roots, (idempotencyUniverse catalogue config).Holds dependency)
    (inside : ∀ dependency ∈ roots, dependency.own ⊆ placed config) {dependency : Dependency}
    (arises : Arises catalogue config roots dependency) : dependency.own ⊆ placed config := by
  induction arises with
  | root listed => exact inside _ listed
  | @brought definition dependency prior brings =>
    cases eq_idempotencyToken (Universe.holds_of_arises held prior)
    rcases brings with declared | recorded
    · rw [List.mem_singleton.mp declared]
      exact KnownCrate.needs_subset_placed config .fastrand
    · obtain ⟨-, -, confined⟩ := catalogue.render_idempotencyToken config
      exact (Manifest.own_subset_needs recorded).trans confined.needs

/-- A module by itself has no cycle. -/
theorem not_cycle_idempotencyUniverse {chain : List DependencyKey} :
    ¬ (idempotencyUniverse catalogue config).Cycle roots chain := by
  intro cycle
  obtain ⟨start, second, third, rest, rfl, distinct⟩ := cycle.shape
  obtain ⟨definition, required, member, rfl, rfl, brings⟩ := (List.isChain_cons_cons.mp cycle.linked).1
  have same : required = definition := by
    rw [eq_idempotencyToken (Universe.holds_of_brings member brings), eq_idempotencyToken member]
  exact distinct (congrArg InlineModule.key same.symm)

/-- Crates at their places and the token module can be materialized. -/
theorem Catalogue.materialize_placed (placed : manifest.Placed config) :
    ∃ out, catalogue.materialize config manifest.items = .ok out ∧ out.manifest.Placed config := by
  have held : ∀ dependency ∈ manifest.items, (idempotencyUniverse catalogue config).Holds dependency :=
    placed.coherent.held
  have demanded : demands catalogue config manifest.items ⊆ Cratewright.placed config := by
    rintro need ⟨dependency, arises, found⟩
    have inside : ∀ root ∈ manifest.items, root.own ⊆ Cratewright.placed config :=
      fun root mem => (Manifest.own_subset_needs mem).trans placed.inside
    exact own_subset_placed held inside arises found
  have renders : ∀ definition, Arises catalogue config manifest.items (.inline definition) →
      ∃ outcome, catalogue.render config definition = .ok outcome := by
    intro definition arises
    cases eq_idempotencyToken (Universe.holds_of_arises held arises)
    obtain ⟨source, rendered, -⟩ := catalogue.render_idempotencyToken config
    exact ⟨_, rendered⟩
  cases run : catalogue.materialize config manifest.items with
  | error failure =>
    -- Crates agree and the token module can be rendered, so only a cycle could be in the way.
    obtain ⟨chain, -, cycle⟩ := Universe.cycle_of_materialize held renders ((agree_placed config).mono demanded) run
    exact (not_cycle_idempotencyUniverse cycle).elim
  | ok out =>
    have needs := Universe.needs_of_materialize held run
    exact ⟨out, rfl, (Universe.advances_materialize held run).sound.coherent, needs ▸ demanded⟩

/-- A standard unit is generated. -/
theorem Catalogue.generate_standard (catalogue : Catalogue) (config : RuntimeConfig) (standard : unit.Standard) :
    ∃ generated, catalogue.generate config unit = .ok generated ∧ generated.manifest.Placed config := by
  obtain ⟨written, run, confined⟩ := standard.program.runs config standard.modulePath_ne_empty
  have covers : (idempotencyUniverse catalogue config).Covers unit := by
    intro dependency mem
    rw [standard.program.token dependency mem]
    exact List.mem_singleton_self _
  have coherent : idempotencyFamily.Coherent written.manifest := by
    have recorded := covers.coherent_recorded
    rwa [CompilationUnit.recorded, run] at recorded
  obtain ⟨out, materialized, placed⟩ := catalogue.materialize_placed ⟨coherent, confined.needs⟩
  refine ⟨⟨unit.modulePath, written.contents, out.modules, out.manifest⟩, ?_, placed⟩
  rw [generate, run]
  simp only [Manifest.materialize, materialized]
  rfl

/-- Manifests whose crates lie at their places merge. -/
theorem Manifest.Placed.merge {other : Manifest} (placed : manifest.Placed config) (placedOther : other.Placed config) :
    ∃ after, Manifest.merge other manifest = .ok () after ∧ after.Placed config := by
  have together : manifest.needs ∪ other.needs ⊆ Cratewright.placed config :=
    Set.union_subset placed.inside placedOther.inside
  obtain ⟨after, run⟩ :=
    (placed.coherent.merge_iff_agree placedOther.coherent).mpr ((agree_placed config).mono together)
  refine ⟨after, run, placed.coherent.merge placedOther.coherent run, ?_⟩
  rw [placed.coherent.needs_of_merge placedOther.coherent run]
  exact together

/-- A standard unit after others is generated as it is alone. -/
theorem Catalogue.generateNext_standard (catalogue : Catalogue) (standard : unit.Standard)
    (placed : manifest.Placed config) :
    ∃ generated after, catalogue.generate config unit = .ok generated ∧
      catalogue.generateNext config unit manifest = (.ok generated, after) ∧ after.Placed config := by
  obtain ⟨generated, alone, placedUnit⟩ := catalogue.generate_standard config standard
  obtain ⟨after, merged, placedAfter⟩ := placed.merge placedUnit
  refine ⟨generated, after, alone, ?_, placedAfter⟩
  simp only [generateNext, alone, merged]

/-- Standard units after others are generated as they are alone. -/
theorem Catalogue.generateAfter_standard (catalogue : Catalogue) {units : List CompilationUnit}
    (standard : ∀ unit ∈ units, unit.Standard) (placed : manifest.Placed config) :
    List.Forall₂ (fun unit outcome => ∃ generated, catalogue.generate config unit = .ok generated ∧
      outcome = .ok generated) units (catalogue.generateAfter config units manifest).units := by
  induction units generalizing manifest with
  | nil => exact .nil
  | cons unit rest ih =>
    obtain ⟨first, others⟩ := List.forall_mem_cons.mp standard
    obtain ⟨generated, after, alone, next, placedAfter⟩ := catalogue.generateNext_standard first placed
    rw [generateAfter, next]
    exact .cons ⟨generated, alone, rfl⟩ (ih others placedAfter)

/-- Every unit of the library's generators is generated, with the library's customizations in any order and number,
whatever the names in it, the model, the prefix of the support crates, their directory and the units beside it. -/
theorem Catalogue.generateAll_standard (catalogue : Catalogue) (config : RuntimeConfig) {units : List CompilationUnit}
    (standard : ∀ unit ∈ units, unit.Standard) :
    List.Forall₂ (fun unit outcome => ∃ generated, catalogue.generate config unit = .ok generated ∧
      outcome = .ok generated) units (catalogue.generateAll config units).units :=
  catalogue.generateAfter_standard standard ⟨idempotencyFamily.coherent_empty, by simp⟩

end

/-- A prefix that reads like a placeholder, and no directory. -/
def oddConfig : RuntimeConfig := ⟨"#T\x7b\n", ""⟩

/-- An input shape whose token member is named like a placeholder. -/
def oddInput : ShapeId := ⟨"store#PutItemInput"⟩

/-- The model of this shape. -/
def oddModel : Model :=
  Model.withTrait (Model.withMember {} oddInput "#\x7binput\x7d") ⟨"store#PutItemInput$#\x7binput\x7d"⟩
    idempotencyTokenTrait ""

/-- Units with customizations in another order or several times, whose names read like placeholders or are missing. -/
def oddUnits : List CompilationUnit :=
  [.operation ⟨"#\x7bName\x7d\n", "#T",
    [Region.forOperation, IdempotencyToken.forInput oddModel oddInput, Region.forOperation]⟩,
   .serviceConfig ⟨[Retry.forConfig, IdempotencyToken.forConfig, Region.forConfig, Retry.forConfig]⟩,
   .operation ⟨"", "", []⟩]

/-- Units with odd names, a prefix that reads like a placeholder and repeated customizations are generated all the same.
-/
theorem Catalogue.generateAll_oddUnits :
    (∀ unit ∈ oddUnits, unit.Standard) ∧
      List.Forall₂ (fun unit outcome => ∃ generated, Catalogue.generate {} oddConfig unit = .ok generated ∧
        outcome = .ok generated) oddUnits (Catalogue.generateAll {} oddConfig oddUnits).units := by
  have standard : ∀ unit ∈ oddUnits, unit.Standard := by
    refine List.forall_mem_cons.mpr ⟨?_, List.forall_mem_cons.mpr ⟨?_, List.forall_mem_singleton.mpr ?_⟩⟩
    · refine .operation _ fun customization mem => ⟨oddModel, oddInput, ?_⟩
      simpa [defaultOperationCustomizations, or_comm] using mem
    · refine .serviceConfig _ fun customization mem => ?_
      simp only [defaultConfigCustomizations, List.mem_cons, List.not_mem_nil, or_false] at mem ⊢
      tauto
    · exact .operation _ fun _ mem => nomatch mem
  exact ⟨standard, Catalogue.generateAll_standard {} oddConfig standard⟩

end Cratewright
