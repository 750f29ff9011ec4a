import Cratewright.Proofs.Materialize.Universe
import Cratewright.Proofs.Materialize.Walk

/-!
# Materialized modules and what they require

`Sound` is what holds of the modules and the manifest at every moment of a walk, `Advances` what the visit of some
dependencies adds. Both are kept by each rule of the walk and so by a whole walk. Main statement: in a universe the
modules of a successful materialization are the inline modules that can be reached from the roots, each once and
after those it requires, and each as its renderer writes it.
-/

namespace Cratewright

open Manifest (own_subset_needs)

namespace Materialized

/-- The keys of the modules that have been rendered. -/
def keys (materialized : Materialized) : List DependencyKey := materialized.modules.map RenderedModule.key

/-- A module is done exactly if its key is among those of the rendered modules. -/
theorem has_iff {materialized : Materialized} {key : DependencyKey} :
    materialized.has key = true ↔ key ∈ materialized.keys := by
  simp [has, keys]

/-- Recording a dependency registers it in the manifest and leaves the modules alone. -/
theorem record_eq_ok {materialized next : Materialized} {dependency : Dependency}
    (recorded : materialized.record dependency = .ok next) :
    next.modules = materialized.modules ∧
      ∃ changed, Manifest.register dependency materialized.manifest = .ok changed next.manifest := by
  rw [record] at recorded
  split at recorded <;> cases recorded
  rename_i changed manifest run
  exact ⟨rfl, changed, run⟩

/-- Recording a dependency renders no module. -/
theorem keys_of_record {materialized next : Materialized} {dependency : Dependency}
    (recorded : materialized.record dependency = .ok next) : next.keys = materialized.keys := by
  rw [keys, keys, (record_eq_ok recorded).1]

/-- A dependency that cannot be recorded is one that cannot be registered. -/
theorem record_eq_error {materialized : Materialized} {dependency : Dependency} {failure : CodegenError}
    (refused : materialized.record dependency = .error failure) :
    ∃ manifest, Manifest.register dependency materialized.manifest = .error failure manifest := by
  rw [record] at refused
  split at refused <;> cases refused
  rename_i manifest run
  exact ⟨manifest, run⟩

end Materialized

namespace Universe

variable {catalogue : Catalogue} {config : RuntimeConfig}

/-- Whether each module comes after the modules it requires besides itself. -/
def Ordered (world : Universe catalogue config) (modules : List RenderedModule) : Prop :=
  ∀ earlier rendered, earlier ++ [rendered] <+: modules →
    ∀ key, world.Requires rendered.key key → key ≠ rendered.key → key ∈ earlier.map RenderedModule.key

/-- Whether a module is the text that the renderer of an inline module writes. -/
def Renders (world : Universe catalogue config) (rendered : RenderedModule) : Prop :=
  ∃ definition : InlineDependency, world.Member definition ∧ definition.key = rendered.key ∧
    catalogue.render config definition = .ok (rendered.source, catalogue.written config definition)

/-- What holds of the modules and the manifest at every moment of a walk. -/
structure Sound (world : Universe catalogue config) (materialized : Materialized) : Prop where
  coherent : world.Coherent materialized.manifest
  generated : ∀ key, .generated key ∈ materialized.manifest.needs ↔ key ∈ materialized.keys
  distinct : materialized.keys.Nodup
  ordered : world.Ordered materialized.modules
  renders : ∀ rendered ∈ materialized.modules, world.Renders rendered

/-- What the visit of some dependencies adds. -/
structure Advances (world : Universe catalogue config) (entered : List DependencyKey) (before : Materialized)
    (visited : List Dependency) (after : Materialized) : Prop where
  sound : world.Sound after
  grows : before.manifest.needs ⊆ after.manifest.needs
  brought : ∀ dependency ∈ visited, dependency.own ⊆ after.manifest.needs
  bounded : after.manifest.needs ⊆ before.manifest.needs ∪ demands catalogue config visited
  apart : ∀ key ∈ entered, key ∈ after.keys → key ∈ before.keys

variable {world : Universe catalogue config} {entered : List DependencyKey} {before next after inner : Materialized}
  {definition : InlineDependency} {source : String}

/-- Before any module is rendered there is nothing that could be unsound. -/
theorem sound_empty (world : Universe catalogue config) : world.Sound {} where
  coherent := world.coherent_empty
  generated := by simp [Materialized.keys]
  distinct := List.nodup_nil
  ordered := fun earlier rendered start => by simp at start
  renders := fun _ mem => nomatch mem

/-- Rendered modules stay in order if the next one requires only modules among them, or itself. -/
theorem Ordered.concat {modules : List RenderedModule} {last : RenderedModule} (ordered : world.Ordered modules)
    (after : ∀ key, world.Requires last.key key → key ≠ last.key → key ∈ modules.map RenderedModule.key) :
    world.Ordered (modules ++ [last]) := by
  intro earlier rendered start
  rcases List.prefix_concat_iff.mp start with whole | start
  · obtain ⟨rfl, same⟩ := List.append_inj' whole rfl
    cases same
    exact after
  · exact ordered earlier rendered start

/-- Visiting what has been brought already adds nothing. -/
theorem Advances.refl {visited : List Dependency} (sound : world.Sound before)
    (brought : ∀ dependency ∈ visited, dependency.own ⊆ before.manifest.needs) :
    world.Advances entered before visited before where
  sound := sound
  grows := subset_rfl
  brought := brought
  bounded := Set.subset_union_left
  apart := fun _ _ mem => mem

/-- The visit of a dependency and of those after it. -/
theorem Advances.cons {first : Dependency} {rest : List Dependency}
    (advances : world.Advances entered before [first] next) (onward : world.Advances entered next rest after) :
    world.Advances entered before (first :: rest) after where
  sound := onward.sound
  grows := advances.grows.trans onward.grows
  brought := List.forall_mem_cons.mpr
    ⟨(advances.brought first List.mem_cons_self).trans onward.grows, onward.brought⟩
  bounded := by
    have now : demands catalogue config [first] ⊆ demands catalogue config (first :: rest) :=
      demands_subset fun dependency mem => .root (List.mem_cons.mpr (.inl (List.mem_singleton.mp mem)))
    have later : demands catalogue config rest ⊆ demands catalogue config (first :: rest) :=
      demands_subset fun dependency mem => .root (List.mem_cons_of_mem _ mem)
    refine onward.bounded.trans (Set.union_subset (advances.bounded.trans ?_) ?_)
    · exact Set.union_subset_union_right _ now
    · exact later.trans Set.subset_union_right
  apart := fun key mem found => advances.apart key mem (onward.apart key mem found)

/-- Recording a crate. -/
theorem advances_crate {declaration : CrateDependency} (sound : world.Sound before)
    (recorded : before.record (.crate declaration) = .ok next) :
    world.Advances entered before [.crate declaration] next := by
  obtain ⟨modules, changed, run⟩ := Materialized.record_eq_ok recorded
  have held : world.Holds (.crate declaration) := trivial
  have coherent := world.keeps_coherent_register held before.manifest sound.coherent
  rw [run] at coherent
  have needs : next.manifest.needs = before.manifest.needs ∪ declaration.needs := by
    rw [sound.coherent.needs_of_register held run, Dependency.needs_crate]
  have keys : next.keys = before.keys := Materialized.keys_of_record recorded
  constructor
  · refine ⟨coherent, fun key => ?_, keys ▸ sound.distinct, modules ▸ sound.ordered, modules ▸ sound.renders⟩
    rw [needs, keys, ← sound.generated]
    simp
  · exact needs ▸ Set.subset_union_left
  · intro dependency mem
    rw [List.mem_singleton.mp mem, needs]
    exact Set.subset_union_right
  · have arises : Arises catalogue config [.crate declaration] (.crate declaration) := .root List.mem_cons_self
    rw [needs]
    exact Set.union_subset_union_right _ (own_subset_demands arises)
  · exact fun key _ found => keys ▸ found

/-- An inline module whose requirements are met adds its key to the manifest and nothing else. -/
theorem needs_of_record_inline (sound : world.Sound inner) (member : world.Member definition)
    (met : ∀ extra ∈ definition.extras, extra.own ⊆ inner.manifest.needs)
    (recorded : inner.record (.inline definition) = .ok next) :
    next.manifest.needs = insert (.generated definition.key) inner.manifest.needs := by
  obtain ⟨-, changed, run⟩ := Materialized.record_eq_ok recorded
  have held : world.Holds (.inline definition) := member
  have declared := sound.coherent.needsOfAll_subset (world.hereditary_holds.extra held) met
  rw [sound.coherent.needs_of_register held run, Dependency.needs_inline, Set.union_insert,
    Set.union_eq_self_of_subset_right declared]

/-- Adding a rendered module adds its key at the end. -/
theorem keys_add (recorded : inner.record (.inline definition) = .ok next) :
    (next.add definition source).keys = inner.keys ++ [definition.key] := by
  obtain ⟨modules, -⟩ := Materialized.record_eq_ok recorded
  simp [Materialized.add, Materialized.keys, modules, RenderedModule.key, InlineModule.key]

/-- An inline module may follow when all it requires has been brought. -/
theorem Sound.add (sound : world.Sound inner) (member : world.Member definition)
    (rendered : catalogue.render config definition = .ok (source, catalogue.written config definition))
    (absent : definition.key ∉ inner.keys)
    (met : ∀ required ∈ definition.requirements (catalogue.written config definition),
      required.own ⊆ inner.manifest.needs)
    (recorded : inner.record (.inline definition) = .ok next) : world.Sound (next.add definition source) := by
  obtain ⟨modules, changed, run⟩ := Materialized.record_eq_ok recorded
  constructor
  · have held : world.Holds (.inline definition) := member
    have coherent := world.keeps_coherent_register held inner.manifest sound.coherent
    rw [run] at coherent
    exact coherent
  · intro key
    have needs := needs_of_record_inline sound member (fun extra mem => met extra (List.mem_append_left _ mem)) recorded
    rw [keys_add recorded, List.mem_append, ← sound.generated, List.mem_singleton, Materialized.add, needs,
      Set.mem_insert_iff, Need.generated.injEq, or_comm]
  · rw [keys_add recorded]
    exact sound.distinct.append (List.nodup_singleton _) (List.disjoint_singleton.mpr absent)
  · rw [Materialized.add, modules]
    refine sound.ordered.concat fun key requires other => ?_
    obtain ⟨requirer, required, memberRequirer, same, rfl, brings⟩ := requires
    have equal : requirer = definition := world.determined memberRequirer member same
    rw [equal] at brings
    have needed := (mem_requirements_iff member).mpr ⟨brings, other⟩
    exact (sound.generated _).mp (met _ needed rfl)
  · rw [Materialized.add, modules]
    intro found mem
    rcases List.mem_append.mp mem with mem | mem
    · exact sound.renders found mem
    · rw [List.mem_singleton.mp mem]
      exact ⟨definition, member, rfl, rendered⟩

/-- Rendering an inline module after the visit of what it requires. -/
theorem advances_rendered (member : world.Member definition)
    (rendered : catalogue.render config definition = .ok (source, catalogue.written config definition))
    (absent : definition.key ∉ before.keys) (new : definition.key ∉ entered)
    (inside : world.Advances (entered ++ [definition.key]) before
      (definition.requirements (catalogue.written config definition)) inner)
    (recorded : inner.record (.inline definition) = .ok next) :
    world.Advances entered before [.inline definition] (next.add definition source) := by
  have apart : definition.key ∉ inner.keys := fun found => absent (inside.apart _ (by simp) found)
  have needs := needs_of_record_inline inside.sound member
    (fun extra mem => inside.brought extra (List.mem_append_left _ mem)) recorded
  have root : Arises catalogue config [.inline definition] (.inline definition) := .root List.mem_cons_self
  constructor
  · exact inside.sound.add member rendered apart inside.brought recorded
  · rw [Materialized.add, needs]
    exact inside.grows.trans (Set.subset_insert _ _)
  · intro dependency mem
    rw [List.mem_singleton.mp mem, Materialized.add, needs]
    exact Set.singleton_subset_iff.mpr (Set.mem_insert _ _)
  · have inner_demands := demands_subset fun required mem => root.brought (brings_of_mem_requirements mem)
    rw [Materialized.add, needs]
    refine Set.insert_subset (.inr (own_subset_demands root rfl)) (inside.bounded.trans ?_)
    exact Set.union_subset_union_right _ inner_demands
  · intro key mem found
    rw [keys_add recorded, List.mem_append] at found
    rcases found with found | found
    · exact inside.apart key (List.mem_append_left _ mem) found
    · exact absurd (List.mem_singleton.mp found ▸ mem) new

/-- A walk that comes to an end advances by what it visited. -/
theorem advances_walk {visited : List Dependency} {result : Except CodegenError Materialized}
    (walk : Walk catalogue config entered before visited result)
    (held : ∀ dependency ∈ visited, world.Holds dependency) (sound : world.Sound before)
    (ended : result = .ok after) : world.Advances entered before visited after := by
  induction walk generalizing after with
  | nil =>
    cases ended
    exact .refl sound fun _ mem => nomatch mem
  | @crate entered before declaration next rest _ recorded _ onward =>
    rw [List.forall_mem_cons] at held
    have advances : world.Advances entered before [.crate declaration] next := advances_crate sound recorded
    exact advances.cons (onward held.2 advances.sound ended)
  | @done entered before definition rest _ present _ onward =>
    rw [List.forall_mem_cons] at held
    have generated := (sound.generated definition.key).mpr (Materialized.has_iff.mp present)
    have advances : world.Advances entered before [.inline definition] before := by
      refine .refl sound fun dependency mem => ?_
      rw [List.mem_singleton.mp mem]
      exact Set.singleton_subset_iff.mpr generated
    exact advances.cons (onward held.2 sound ended)
  | @rendered entered before definition source _ inner next rest _ absent new rendered _ recorded _ inside onward =>
    rw [List.forall_mem_cons] at held
    cases Catalogue.written_of_render rendered
    have required : ∀ dependency ∈ definition.requirements (catalogue.written config definition),
        world.Holds dependency := fun dependency mem => holds_of_brings held.1 (brings_of_mem_requirements mem)
    have missing : definition.key ∉ before.keys := by
      rw [← Materialized.has_iff, absent]
      exact Bool.false_ne_true
    have advances := advances_rendered held.1 rendered missing new (inside required sound rfl) recorded
    exact advances.cons (onward held.2 advances.sound ended)
  | conflict => cases ended
  | cycle => cases ended
  | unrendered => cases ended
  | stopped => cases ended
  | refused => cases ended

variable {roots : List Dependency} {out : Materialized}

/-- A materialization that succeeds is a sound advance from nothing to all its roots. -/
theorem advances_materialize (held : ∀ dependency ∈ roots, world.Holds dependency)
    (run : catalogue.materialize config roots = .ok out) : world.Advances [] {} roots out :=
  advances_walk (catalogue.walk_materialize config roots) held world.sound_empty run

/-- The modules that have been rendered require nothing that has not. -/
theorem Sound.closed (sound : world.Sound out) {key other : DependencyKey} (mem : key ∈ out.keys)
    (requires : world.Requires key other) : other ∈ out.keys := by
  obtain ⟨rendered, found, rfl⟩ := List.mem_map.mp mem
  obtain ⟨earlier, later, split⟩ := List.append_of_mem found
  by_cases same : other = rendered.key
  · exact same ▸ mem
  · have start : earlier ++ [rendered] <+: out.modules := ⟨later, by simp [split]⟩
    have before := sound.ordered earlier rendered start other requires same
    rw [Materialized.keys, split, List.map_append]
    exact List.mem_append_left _ before

/-- The inline modules that are rendered are those that can be reached. -/
theorem Advances.mem_keys_iff (advances : world.Advances [] {} roots out)
    (held : ∀ dependency ∈ roots, world.Holds dependency) {key : DependencyKey} :
    key ∈ out.keys ↔ world.Reachable roots key := by
  constructor
  · intro mem
    have needed := advances.bounded ((advances.sound.generated key).mpr mem)
    rw [Manifest.needs_empty, Set.empty_union] at needed
    obtain ⟨dependency, arises, found⟩ := needed
    cases dependency with
    | crate => cases found
    | inline definition =>
      cases found
      exact (reachable_iff held).mpr ⟨definition, arises, rfl⟩
  · rintro ⟨root, listed, path⟩
    induction path with
    | refl => exact (advances.sound.generated _).mp (advances.brought _ listed rfl)
    | tail _ requires mem => exact advances.sound.closed mem requires

/-- What a successful materialization of some roots has done. -/
structure Complete (world : Universe catalogue config) (roots : List Dependency) (out : Materialized) : Prop where
  distinct : out.keys.Nodup
  generated : ∀ key, key ∈ out.keys ↔ ∃ definition ∈ out.manifest.inlines, definition.key = key
  reachable : ∀ key, key ∈ out.keys ↔ world.Reachable roots key
  ordered : world.Ordered out.modules
  sources : ∀ rendered ∈ out.modules, ∃ definition writer, world.Member definition ∧ definition.key = rendered.key ∧
    runAll (catalogue.program definition.renderer) (Writer.new config definition.modulePath) = .ok () writer ∧
    rendered.source = writer.contents

/-- Whatever the roots, the items of a manifest or a single inline module, a materialization that succeeds is
complete. -/
theorem complete_of_materialize (world : Universe catalogue config)
    (held : ∀ dependency ∈ roots, world.Holds dependency) (run : catalogue.materialize config roots = .ok out) :
    world.Complete roots out := by
  have advances := advances_materialize held run
  have sound := advances.sound
  constructor
  · exact sound.distinct
  · intro key
    rw [← sound.generated, Manifest.generated_mem_needs_iff]
  · exact fun key => advances.mem_keys_iff held
  · exact sound.ordered
  · intro rendered mem
    obtain ⟨definition, member, same, ran⟩ := sound.renders rendered mem
    obtain ⟨writer, run, source, -⟩ := Catalogue.render_eq_ok_iff.mp ran
    exact ⟨definition, writer, member, same, run, source⟩

/-- A module that mentions an item of its own. -/
def leafModule : InlineDependency := ⟨"leaf", "leaf", [], .defined "leaf"⟩

/-- A module that mentions an item of another. -/
def branchModule : InlineDependency := ⟨"branch", "branch", [], .defined "branch"⟩

/-- The programs of the two modules. -/
def branchCatalogue : Catalogue where
  definitions :=
    [("leaf", [.write "pub fn leaf() \x7b #T() \x7d" [.target (.fixed (leafModule.item "leaf"))]]),
     ("branch", [.write "pub fn branch() \x7b #T() \x7d" [.target (.fixed (leafModule.item "leaf"))]])]

/-- The two modules as a universe. -/
def branchUniverse : Universe branchCatalogue {} :=
  .ofFamily (.listed [leafModule, branchModule] (by decide) (by simp [leafModule, branchModule])) <| by
    intro definition member dependency mem
    have leaf : dependency = .inline leafModule := by
      rcases List.mem_pair.mp member with rfl | rfl
      · exact List.mem_singleton.mp mem
      · exact List.mem_singleton.mp mem
    rw [leaf]
    exact List.mem_cons_self

/-- A module that mentions an item of another one, with the other one as a root as well. -/
theorem complete_branchUniverse :
    ∃ out, branchCatalogue.materialize {} [.inline branchModule, .inline leafModule] = .ok out ∧
      branchUniverse.Complete [.inline branchModule, .inline leafModule] out := by
  have held : ∀ dependency ∈ [Dependency.inline branchModule, .inline leafModule], branchUniverse.Holds dependency := by
    intro dependency mem
    rcases List.mem_pair.mp mem with rfl | rfl
    · exact List.mem_pair.mpr (.inr rfl)
    · exact List.mem_pair.mpr (.inl rfl)
  have succeeds : (branchCatalogue.materialize {} [.inline branchModule, .inline leafModule]).isOk = true := by
    decide +kernel
  cases run : branchCatalogue.materialize {} [.inline branchModule, .inline leafModule] with
  | ok out => exact ⟨out, rfl, branchUniverse.complete_of_materialize held run⟩
  | error failure =>
    rw [run] at succeeds
    cases succeeds

end Universe

end Cratewright
