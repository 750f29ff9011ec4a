import Cratewright.Proofs.Materialize.Order
import Mathlib.Data.List.Chain

/-!
# Cyclic requirements

The keys that a walk has entered are a path of requirements, so a key that is met again closes a cycle. Conversely the
order of a successful materialization goes down along every requirement, which leaves no room for a cycle of two or
more modules; a module that requires itself is no cycle. Main statement: where every renderer that can be reached
succeeds and crates agree on their places, materialization fails exactly when there is a cycle that can be reached, and
the failure names one.
-/

namespace Cratewright

namespace Universe

variable {catalogue : Catalogue} {config : RuntimeConfig}

/-- A path of requirements that starts at a reachable key, comes back to it, and meets no key twice in between. -/
structure Cycle (world : Universe catalogue config) (roots : List Dependency) (chain : List DependencyKey) : Prop where
  long : 3 ≤ chain.length
  closed : chain.head? = chain.getLast?
  distinct : chain.dropLast.Nodup
  linked : chain.IsChain world.Requires
  reachable : ∀ start ∈ chain.head?, world.Reachable roots start

/-- The keys that have been entered, outermost first. -/
structure Path (world : Universe catalogue config) (roots : List Dependency) (entered : List DependencyKey) : Prop where
  distinct : entered.Nodup
  linked : entered.IsChain world.Requires
  reachable : ∀ key ∈ entered, world.Reachable roots key

/-- Whether an innermost module requires, besides itself, a key. -/
def Leads (world : Universe catalogue config) (entered : List DependencyKey) (key : DependencyKey) : Prop :=
  ∀ last ∈ entered.getLast?, world.Requires last key ∧ key ≠ last

variable {world : Universe catalogue config} {roots : List Dependency} {entered : List DependencyKey}
  {key other : DependencyKey} {before after out : Materialized}

/-- No keys are a path. -/
theorem path_nil (world : Universe catalogue config) (roots : List Dependency) : world.Path roots [] :=
  ⟨List.nodup_nil, .nil, fun _ mem => nomatch mem⟩

/-- A path goes on to a new key that its last module requires. -/
theorem Path.concat (path : world.Path roots entered) (leads : world.Leads entered key) (new : key ∉ entered)
    (reachable : world.Reachable roots key) : world.Path roots (entered ++ [key]) where
  distinct := path.distinct.append (List.nodup_singleton key) (List.disjoint_singleton.mpr new)
  linked := List.isChain_append.mpr ⟨path.linked, .singleton key, fun last mem next same => by
    cases same
    exact (leads last mem).1⟩
  reachable := by
    intro found mem
    rcases List.mem_append.mp mem with mem | mem
    · exact path.reachable found mem
    · exact List.mem_singleton.mp mem ▸ reachable

/-- A path that leads back to one of its keys closes a cycle. -/
theorem Path.cycle (path : world.Path roots entered) (leads : world.Leads entered key) (again : key ∈ entered) :
    world.Cycle roots (requirementCycle entered key) := by
  obtain ⟨skipped, tail, rfl⟩ := List.append_of_mem again
  have distinct : (key :: tail).Nodup := path.distinct.sublist (List.sublist_append_right _ _)
  have linked : (key :: tail).IsChain world.Requires := path.linked.suffix (List.suffix_append _ _)
  have earlier : ∀ passed ∈ skipped, (passed != key) = true := by
    intro passed mem
    rw [bne_iff_ne]
    rintro rfl
    exact List.disjoint_of_nodup_append path.distinct mem List.mem_cons_self
  have shape : requirementCycle (skipped ++ key :: tail) key = key :: tail ++ [key] := by
    rw [requirementCycle, List.dropWhile_append_of_pos earlier, List.dropWhile_cons_of_neg (by simp)]
  -- The keys before the cycle have no say in which module is the innermost.
  have innermost : (skipped ++ key :: tail).getLast? = (key :: tail).getLast? := by
    rw [List.getLast?_append, List.getLast?_cons, Option.some_or]
  rw [shape]
  constructor
  · cases tail with
    | nil => exact absurd rfl (leads key (by rw [innermost]; rfl)).2
    | cons second rest => simp
  · rw [List.getLast?_concat]
    rfl
  · rw [List.dropLast_concat]
    exact distinct
  · refine List.isChain_append.mpr ⟨linked, .singleton key, fun last mem next same => ?_⟩
    cases same
    exact (leads last (innermost ▸ mem)).1
  · intro start same
    cases same
    exact path.reachable key again

/-- Along a requirement the order of the modules goes down. -/
theorem Sound.idxOf_le (sound : world.Sound out) (mem : key ∈ out.keys) (requires : world.Requires key other) :
    out.keys.idxOf other ≤ out.keys.idxOf key := by
  obtain ⟨rendered, found, rfl⟩ := List.mem_map.mp mem
  obtain ⟨earlier, later, split⟩ := List.append_of_mem found
  by_cases same : other = rendered.key
  · rw [same]
  · have before := sound.ordered earlier rendered ⟨later, by simp [split]⟩ other requires same
    have keys : out.keys = earlier.map RenderedModule.key ++ rendered.key :: later.map RenderedModule.key := by
      rw [Materialized.keys, split, List.map_append, List.map_cons]
    have absent : rendered.key ∉ earlier.map RenderedModule.key := by
      intro twice
      have distinct := sound.distinct
      rw [keys] at distinct
      exact List.disjoint_of_nodup_append distinct twice List.mem_cons_self
    rw [keys, List.idxOf_append_of_mem before, List.idxOf_append_of_notMem absent]
    have position := List.idxOf_lt_length_of_mem before
    omega

/-- Whether a key stands no later in the order of the modules than another that stands there. -/
def Descends (out : Materialized) (key other : DependencyKey) : Prop :=
  key ∈ out.keys → other ∈ out.keys ∧ out.keys.idxOf other ≤ out.keys.idxOf key

instance (out : Materialized) : IsTrans DependencyKey (Descends out) where
  trans := by
    intro key between other first second mem
    obtain ⟨memBetween, below⟩ := first mem
    obtain ⟨memOther, further⟩ := second memBetween
    exact ⟨memOther, further.trans below⟩

/-- A cycle leads from its start to another module. -/
theorem Cycle.shape {chain : List DependencyKey} (cycle : world.Cycle roots chain) :
    ∃ start second third rest, chain = start :: second :: third :: rest ∧ start ≠ second := by
  rcases chain with _ | ⟨start, _ | ⟨second, _ | ⟨third, rest⟩⟩⟩
  · exact absurd cycle.long (by simp)
  · exact absurd cycle.long (by simp)
  · exact absurd cycle.long (by simp)
  · refine ⟨start, second, third, rest, rfl, fun same => ?_⟩
    have distinct := cycle.distinct
    rw [List.dropLast_cons_cons, List.dropLast_cons_cons, List.nodup_cons] at distinct
    exact distinct.1 (same ▸ List.mem_cons_self)

/-- Modules in the order of their requirements have no cycle. -/
theorem Sound.not_cycle (sound : world.Sound out) (rendered : ∀ key, world.Reachable roots key → key ∈ out.keys)
    {chain : List DependencyKey} (cycle : world.Cycle roots chain) : False := by
  have descending : chain.IsChain (Descends out) := cycle.linked.imp fun key other requires mem =>
    ⟨sound.closed mem requires, sound.idxOf_le mem requires⟩
  obtain ⟨start, second, third, rest, rfl, distinct⟩ := cycle.shape
  have pairwise := List.isChain_iff_pairwise.mp descending
  rw [List.pairwise_cons, List.pairwise_cons] at pairwise
  have back : start ∈ third :: rest := by
    apply List.mem_of_getLast?
    simpa using cycle.closed.symm
  have memStart := rendered start (cycle.reachable start rfl)
  obtain ⟨memSecond, below⟩ := pairwise.1 second List.mem_cons_self memStart
  obtain ⟨-, above⟩ := pairwise.2.1 start back memSecond
  exact distinct ((List.idxOf_inj memStart).mp (Nat.le_antisymm above below))

/-- Where crates agree on their places, so does all that is demanded. -/
theorem agree_demands
    (located : ∀ {one other : CrateDependency}, Arises catalogue config roots (.crate one) →
      Arises catalogue config roots (.crate other) → one.name = other.name → one.location = other.location) :
    Agree (demands catalogue config roots) := by
  rintro name one other ⟨first, arises, found⟩ ⟨second, arisesSecond, foundSecond⟩
  cases first with
  | inline => cases found
  | crate first =>
    cases second with
    | inline => cases foundSecond
    | crate second =>
      obtain ⟨rfl, rfl⟩ := found
      obtain ⟨same, rfl⟩ := foundSecond
      exact located arises arisesSecond same

/-- What is visited inside a module is what it leads to. -/
theorem leads_requirements {definition : InlineDependency} (member : world.Member definition) :
    ∀ required : InlineDependency, .inline required ∈ definition.requirements (catalogue.written config definition) →
      world.Leads (entered ++ [definition.key]) required.key := by
  intro required mem last innermost
  rw [List.getLast?_concat] at innermost
  cases innermost
  obtain ⟨brings, elsewhere⟩ := (mem_requirements_iff member).mp mem
  exact ⟨⟨definition, required, member, rfl, rfl, brings⟩, elsewhere⟩

/-- A visit demands what arises from the roots as long as it visits what arises from them. -/
theorem Advances.within {visited : List Dependency} (advances : world.Advances entered before visited after)
    (bounded : before.manifest.needs ⊆ demands catalogue config roots)
    (arise : ∀ dependency ∈ visited, Arises catalogue config roots dependency) :
    after.manifest.needs ⊆ demands catalogue config roots :=
  advances.bounded.trans (Set.union_subset bounded (demands_subset arise))

/-- Where crates agree on their places, no crate is refused. -/
theorem not_refused_crate (agree : Agree (demands catalogue config roots)) {declaration : CrateDependency}
    (arises : Arises catalogue config roots (.crate declaration))
    (bounded : before.manifest.needs ⊆ demands catalogue config roots) {failure : CodegenError}
    (refused : before.record (.crate declaration) = .error failure) : False := by
  obtain ⟨manifest, run⟩ := Materialized.record_eq_error refused
  have conflict := Family.not_agree_of_register run
  rw [Dependency.needs_crate] at conflict
  exact conflict (agree.mono (Set.union_subset bounded (own_subset_demands arises)))

/-- Where crates agree on their places, no inline module is refused once its requirements are met. -/
theorem not_refused_inline (agree : Agree (demands catalogue config roots)) {definition : InlineDependency}
    (arises : Arises catalogue config roots (.inline definition)) (member : world.Member definition)
    (sound : world.Sound after) (met : ∀ extra ∈ definition.extras, extra.own ⊆ after.manifest.needs)
    (bounded : after.manifest.needs ⊆ demands catalogue config roots) {failure : CodegenError}
    (refused : after.record (.inline definition) = .error failure) : False := by
  obtain ⟨manifest, run⟩ := Materialized.record_eq_error refused
  have held : world.Holds (.inline definition) := member
  have declared := sound.coherent.needsOfAll_subset (world.hereditary_holds.extra held) met
  have demanded : (Dependency.inline definition).needs ⊆ demands catalogue config roots := by
    rw [Dependency.needs_inline]
    exact Set.insert_subset (own_subset_demands arises rfl) (declared.trans bounded)
  exact Family.not_agree_of_register run (agree.mono (Set.union_subset bounded demanded))

/-- A walk that fails, where renderers succeed and crates agree, has come back to a module it had entered. -/
theorem cycle_of_walk (held : ∀ dependency ∈ roots, world.Holds dependency)
    (renders : ∀ definition, Arises catalogue config roots (.inline definition) →
      ∃ outcome, catalogue.render config definition = .ok outcome)
    (agree : Agree (demands catalogue config roots)) {visited : List Dependency}
    {result : Except CodegenError Materialized} (walk : Walk catalogue config entered before visited result)
    (arise : ∀ dependency ∈ visited, Arises catalogue config roots dependency)
    (sound : world.Sound before) (bounded : before.manifest.needs ⊆ demands catalogue config roots)
    (path : world.Path roots entered)
    (leads : ∀ required : InlineDependency, .inline required ∈ visited → world.Leads entered required.key)
    {failure : CodegenError} (failed : result = .error failure) :
    ∃ chain, failure = .cyclicInline (chain.map DependencyKey.text) ∧ world.Cycle roots chain := by
  have holds : ∀ {dependency}, Arises catalogue config roots dependency → world.Holds dependency := holds_of_arises held
  induction walk generalizing failure with
  | nil => cases failed
  | @crate entered before declaration next rest _ recorded onward ih =>
    obtain ⟨arises, later⟩ := List.forall_mem_cons.mp arise
    have step : world.Advances entered before [.crate declaration] next := advances_crate sound recorded
    have boundedNext := step.within bounded (List.forall_mem_singleton.mpr arises)
    exact ih later step.sound boundedNext path (fun required mem => leads required (List.mem_cons_of_mem _ mem)) failed
  | @conflict entered before declaration _ rest refused =>
    exact (not_refused_crate agree (arise _ List.mem_cons_self) bounded refused).elim
  | @done entered before definition rest _ present onward ih =>
    have later := (List.forall_mem_cons.mp arise).2
    exact ih later sound bounded path (fun required mem => leads required (List.mem_cons_of_mem _ mem)) failed
  | @cycle entered before definition rest _ again =>
    cases failed
    exact ⟨_, rfl, path.cycle (leads definition List.mem_cons_self) again⟩
  | @unrendered entered before definition _ rest _ _ unrendered =>
    obtain ⟨outcome, rendered⟩ := renders definition (arise _ List.mem_cons_self)
    rw [unrendered] at rendered
    cases rendered
  | @stopped entered before definition source written _ rest _ new rendered inside ih =>
    -- The failure comes from inside the module, where its key is the new end of the path.
    cases Catalogue.written_of_render rendered
    have arises := arise _ List.mem_cons_self
    have reachable := (reachable_iff held).mpr ⟨definition, arises, rfl⟩
    have further := path.concat (leads definition List.mem_cons_self) new reachable
    exact ih (fun required mem => arises.brought (brings_of_mem_requirements mem)) sound bounded further
      (leads_requirements (holds arises)) failed
  | @refused entered before definition source written inner _ rest _ new rendered inside refused _ =>
    -- All that the module declares has been brought inside, so recording the module itself cannot fail.
    cases Catalogue.written_of_render rendered
    have arises := arise _ List.mem_cons_self
    have ariseInside : ∀ required ∈ definition.requirements (catalogue.written config definition),
        Arises catalogue config roots required := fun required mem => arises.brought (brings_of_mem_requirements mem)
    have step := advances_walk inside (fun required mem => holds (ariseInside required mem)) sound rfl
    have met := fun extra declared => step.brought extra (List.mem_append_left _ declared)
    exact (not_refused_inline agree arises (holds arises) step.sound met (step.within bounded ariseInside) refused).elim
  | @rendered entered before definition source written inner next rest _ absent new rendered inside recorded _ _ ih =>
    obtain ⟨arises, later⟩ := List.forall_mem_cons.mp arise
    have step : world.Advances entered before [.inline definition] (next.add definition source) :=
      advances_walk (.rendered absent new rendered inside recorded .nil)
        (List.forall_mem_singleton.mpr (holds arises)) sound rfl
    have boundedNext := step.within bounded (List.forall_mem_singleton.mpr arises)
    exact ih later step.sound boundedNext path (fun required mem => leads required (List.mem_cons_of_mem _ mem)) failed

/-- A materialization that fails, where renderers succeed and crates agree, names a cycle that can be reached. -/
theorem cycle_of_materialize (held : ∀ dependency ∈ roots, world.Holds dependency)
    (renders : ∀ definition, Arises catalogue config roots (.inline definition) →
      ∃ outcome, catalogue.render config definition = .ok outcome)
    (agree : Agree (demands catalogue config roots)) {failure : CodegenError}
    (failed : catalogue.materialize config roots = .error failure) :
    ∃ chain, failure = .cyclicInline (chain.map DependencyKey.text) ∧ world.Cycle roots chain := by
  refine cycle_of_walk held renders agree (catalogue.walk_materialize config roots) (fun _ listed => .root listed)
    world.sound_empty ?_ (world.path_nil roots) ?_ failed
  · rw [Manifest.needs_empty]
    exact Set.empty_subset _
  · intro required _ last innermost
    cases innermost

/-- Where every renderer that can be reached succeeds and no two crates that can be reached disagree on a place, a
materialization fails exactly when a cycle of two or more modules can be reached, and it names one. -/
theorem materialize_fails_iff_cycle (world : Universe catalogue config)
    (held : ∀ dependency ∈ roots, world.Holds dependency)
    (renders : ∀ definition, Arises catalogue config roots (.inline definition) →
      ∃ outcome, catalogue.render config definition = .ok outcome)
    (located : ∀ {one other : CrateDependency}, Arises catalogue config roots (.crate one) →
      Arises catalogue config roots (.crate other) → one.name = other.name → one.location = other.location) :
    ((∃ failure, catalogue.materialize config roots = .error failure) ↔ ∃ chain, world.Cycle roots chain) ∧
    ∀ failure, catalogue.materialize config roots = .error failure →
      ∃ chain, failure = .cyclicInline (chain.map DependencyKey.text) ∧ world.Cycle roots chain := by
  have named : ∀ failure, catalogue.materialize config roots = .error failure →
      ∃ chain, failure = .cyclicInline (chain.map DependencyKey.text) ∧ world.Cycle roots chain :=
    fun _ failed => cycle_of_materialize held renders (agree_demands located) failed
  refine ⟨⟨?_, ?_⟩, named⟩
  · rintro ⟨failure, failed⟩
    obtain ⟨chain, -, cycle⟩ := named failure failed
    exact ⟨chain, cycle⟩
  · rintro ⟨chain, cycle⟩
    cases run : catalogue.materialize config roots with
    | error failure => exact ⟨failure, rfl⟩
    | ok out =>
      have advances := advances_materialize held run
      exact (advances.sound.not_cycle (fun key => (advances.mem_keys_iff held).mpr) cycle).elim

/-- The crate that both modules of a pair declare. -/
def pairCrate : CrateDependency := .registry "http" "1"

/-- A module that mentions the other of a pair. -/
def pingModule : InlineDependency := ⟨"ping", "ping", [.crate pairCrate], .defined "ping"⟩

/-- The other module of the pair. -/
def pongModule : InlineDependency := ⟨"pong", "pong", [.crate pairCrate], .defined "pong"⟩

/-- The programs of a pair of modules that mention each other. -/
def pairCatalogue : Catalogue where
  definitions :=
    [("ping", [.write "pub fn ping() \x7b #T() \x7d" [.target (.fixed (pongModule.item "pong"))]]),
     ("pong", [.write "pub fn pong() \x7b #T() \x7d" [.target (.fixed (pingModule.item "ping"))]])]

/-- The pair as a universe. -/
def pairUniverse : Universe pairCatalogue {} :=
  .ofFamily (.listed [pingModule, pongModule] (by decide) (by simp [pingModule, pongModule])) <| by
    intro definition member dependency mem
    rcases List.mem_pair.mp member with rfl | rfl
    · have pong : dependency = .inline pongModule := List.mem_singleton.mp mem
      rw [pong]
      exact List.mem_pair.mpr (.inr rfl)
    · have ping : dependency = .inline pingModule := List.mem_singleton.mp mem
      rw [ping]
      exact List.mem_pair.mpr (.inl rfl)

/-- The first module of the pair is one of the universe. -/
theorem holds_pairUniverse : ∀ dependency ∈ [Dependency.inline pingModule], pairUniverse.Holds dependency :=
  List.forall_mem_singleton.mpr List.mem_cons_self

/-- No inline module but the two arises from the pair. -/
theorem module_of_arises_pair {definition : InlineDependency}
    (arises : Arises pairCatalogue {} [.inline pingModule] (.inline definition)) :
    definition = pingModule ∨ definition = pongModule :=
  List.mem_pair.mp (holds_of_arises holds_pairUniverse arises)

/-- No crate but the one that both modules declare arises from the pair. -/
theorem crate_of_arises_pair {declaration : CrateDependency}
    (arises : Arises pairCatalogue {} [.inline pingModule] (.crate declaration)) : declaration = pairCrate := by
  cases arises with
  | root listed => cases List.mem_singleton.mp listed
  | @brought definition _ prior brings =>
    obtain ⟨declared, recorded⟩ : definition.extras = [.crate pairCrate] ∧
        (pairCatalogue.written {} definition).crates = [pairCrate] := by
      rcases module_of_arises_pair prior with rfl | rfl
      · exact ⟨rfl, by decide +kernel⟩
      · exact ⟨rfl, by decide +kernel⟩
    rcases brings with mem | mem
    · rw [declared] at mem
      cases List.mem_singleton.mp mem
      rfl
    · rw [← Manifest.mem_crates, recorded] at mem
      exact List.mem_singleton.mp mem

/-- Two modules that record each other cannot be materialized, and the failure names both. -/
theorem materialize_fails_pairUniverse :
    ∃ chain : List DependencyKey,
      pairCatalogue.materialize {} [.inline pingModule] = .error (.cyclicInline (chain.map DependencyKey.text)) ∧
        pairUniverse.Cycle [.inline pingModule] chain := by
  have renders : ∀ definition, Arises pairCatalogue {} [.inline pingModule] (.inline definition) →
      ∃ outcome, pairCatalogue.render {} definition = .ok outcome := by
    intro definition arises
    have succeeds : (pairCatalogue.render {} definition).isOk = true := by
      rcases module_of_arises_pair arises with rfl | rfl <;> decide +kernel
    cases run : pairCatalogue.render {} definition with
    | ok outcome => exact ⟨outcome, rfl⟩
    | error failure =>
      rw [run] at succeeds
      cases succeeds
  have located : ∀ {one other : CrateDependency}, Arises pairCatalogue {} [.inline pingModule] (.crate one) →
      Arises pairCatalogue {} [.inline pingModule] (.crate other) → one.name = other.name →
      one.location = other.location := by
    intro one other arises arisesOther _
    rw [crate_of_arises_pair arises, crate_of_arises_pair arisesOther]
  have requires : ∀ {definition other : InlineDependency}, pairUniverse.Member definition →
      (pairCatalogue.written {} definition).contains other.key = true →
        pairUniverse.Requires definition.key other.key := by
    intro definition other member present
    obtain ⟨required, mem, same⟩ := Keyed.contains_iff.mp present
    cases required with
    | crate declaration => cases same
    | inline required => exact ⟨definition, required, member, rfl, same, .inr mem⟩
  have forth : pairUniverse.Requires pingModule.key pongModule.key :=
    requires (List.mem_pair.mpr (.inl rfl)) (by decide +kernel)
  have back : pairUniverse.Requires pongModule.key pingModule.key :=
    requires (List.mem_pair.mpr (.inr rfl)) (by decide +kernel)
  obtain ⟨fails, named⟩ := pairUniverse.materialize_fails_iff_cycle holds_pairUniverse renders located
  have cycle : pairUniverse.Cycle [.inline pingModule] [pingModule.key, pongModule.key, pingModule.key] := by
    refine ⟨le_rfl, rfl, by decide, by simp [forth, back], ?_⟩
    intro start same
    cases same
    exact ⟨pingModule, List.mem_cons_self, .refl⟩
  obtain ⟨failure, failed⟩ := fails.mpr ⟨_, cycle⟩
  obtain ⟨chain, rfl, cycle⟩ := named failure failed
  exact ⟨chain, failed, cycle⟩

end Universe

end Cratewright
