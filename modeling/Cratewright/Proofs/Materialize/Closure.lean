import Cratewright.Proofs.Flattening
import Cratewright.Proofs.Materialize.Cycle

/-!
# Materializing a second time

The manifest of a materialization names everything that arises from it, so it can be materialized itself. The second
walk starts from other roots, every module that was rendered instead of those that were asked for, and from crates
that have been combined already. Main statement: it succeeds, its manifest is the same, and it renders the same modules
with the same sources, though not always in the same order.
-/

namespace Cratewright

/-- Modules with one key and one source are the same. -/
theorem RenderedModule.eq_of_key_eq {one other : RenderedModule} (same : one.key = other.key)
    (sources : one.source = other.source) : one = other := by
  cases one
  cases other
  cases same
  cases sources
  rfl

namespace Universe

variable {catalogue : Catalogue} {config : RuntimeConfig} {world : Universe catalogue config}
  {roots : List Dependency} {out again : Materialized}

/-- A module of the universe whose key has been rendered is among the rendered modules. -/
theorem Sound.render_of_mem_keys (sound : world.Sound out) {definition : InlineDependency}
    (member : world.Member definition) (mem : definition.key ∈ out.keys) :
    ∃ rendered ∈ out.modules, rendered.key = definition.key ∧
      catalogue.render config definition = .ok (rendered.source, catalogue.written config definition) := by
  obtain ⟨rendered, found, same⟩ := List.mem_map.mp mem
  obtain ⟨other, memberOther, sameOther, ran⟩ := sound.renders rendered found
  have equal : other = definition := world.determined memberOther member (sameOther.trans same)
  exact ⟨rendered, found, same, equal ▸ ran⟩

/-- Two materializations give a key that both have rendered the same source. -/
theorem Sound.mem_modules (sound : world.Sound out) (soundAgain : world.Sound again)
    (keys : ∀ key ∈ out.keys, key ∈ again.keys) {rendered : RenderedModule} (mem : rendered ∈ out.modules) :
    rendered ∈ again.modules := by
  obtain ⟨definition, member, same, ran⟩ := sound.renders rendered mem
  have known : definition.key ∈ again.keys := keys _ (same ▸ List.mem_map_of_mem mem)
  obtain ⟨other, memOther, sameOther, ranOther⟩ := soundAgain.render_of_mem_keys member known
  obtain ⟨sources, -⟩ := Prod.mk.inj (Except.ok.inj (ranOther.symm.trans ran))
  exact RenderedModule.eq_of_key_eq (sameOther.trans same) sources ▸ memOther

/-- Two materializations that have rendered the same keys have rendered the same modules. -/
theorem Sound.modules_perm (sound : world.Sound out) (soundAgain : world.Sound again)
    (keys : ∀ key, key ∈ out.keys ↔ key ∈ again.keys) : again.modules.Perm out.modules := by
  refine (List.perm_ext_iff_of_nodup soundAgain.distinct.of_map sound.distinct.of_map).mpr fun rendered => ?_
  exact ⟨soundAgain.mem_modules sound fun key => (keys key).mpr, sound.mem_modules soundAgain fun key => (keys key).mp⟩

variable (held : ∀ dependency ∈ roots, world.Holds dependency) (run : catalogue.materialize config roots = .ok out)

include held run

/-- What arises from the manifest of a materialization is said by that manifest. -/
theorem demands_items_of_materialize : demands catalogue config out.manifest.items = out.manifest.needs := by
  have sound := (advances_materialize held run).sound
  apply Set.Subset.antisymm
  · rintro need ⟨dependency, arises, found⟩
    exact own_subset_of_arises sound (gathered_materialize held run) sound.coherent.held
      (fun _ mem => Manifest.own_subset_needs mem) arises found
  · rintro need ⟨dependency, mem, found⟩
    exact ⟨dependency, .root mem, found⟩

/-- The inline modules that arise from the manifest of a materialization have been rendered. -/
theorem mem_keys_of_arises_items {definition : InlineDependency}
    (arises : Arises catalogue config out.manifest.items (.inline definition)) : definition.key ∈ out.keys := by
  have said : .generated definition.key ∈ demands catalogue config out.manifest.items := own_subset_demands arises rfl
  rw [demands_items_of_materialize held run] at said
  exact ((advances_materialize held run).sound.generated _).mp said

/-- The manifest of a materialization can be materialized. -/
theorem materialize_items_of_materialize :
    ∃ again, catalogue.materialize config out.manifest.items = .ok again := by
  have advances := advances_materialize held run
  have sound := advances.sound
  have renders : ∀ definition, Arises catalogue config out.manifest.items (.inline definition) →
      ∃ outcome, catalogue.render config definition = .ok outcome := by
    intro definition arises
    obtain ⟨rendered, -, -, ran⟩ := sound.render_of_mem_keys (holds_of_arises sound.coherent.held arises)
      (mem_keys_of_arises_items held run arises)
    exact ⟨_, ran⟩
  have agree : Agree (demands catalogue config out.manifest.items) := by
    rw [demands_items_of_materialize held run]
    exact out.manifest.agree_needs
  cases outcome : catalogue.materialize config out.manifest.items with
  | ok again => exact ⟨again, rfl⟩
  | error failure =>
    -- A cycle would lie among the modules that the first walk has put in order.
    obtain ⟨chain, -, cycle⟩ := cycle_of_materialize sound.coherent.held renders agree outcome
    refine (sound.not_cycle (fun key reachable => ?_) cycle).elim
    obtain ⟨definition, arises, rfl⟩ := (reachable_iff sound.coherent.held).mp reachable
    exact mem_keys_of_arises_items held run arises

end Universe

namespace Universe

variable {catalogue : Catalogue} {config : RuntimeConfig} {roots : List Dependency} {out : Materialized}

/-- Materializing the manifest of a materialization leaves it as it is and renders the same modules. -/
theorem materialize_again (world : Universe catalogue config)
    (held : ∀ dependency ∈ roots, world.Holds dependency) (run : catalogue.materialize config roots = .ok out) :
    ∃ again, out.manifest.materialize catalogue config = .ok again ∧ again.manifest = out.manifest ∧
      again.modules.Perm out.modules := by
  have sound := (advances_materialize held run).sound
  obtain ⟨again, runAgain⟩ := materialize_items_of_materialize held run
  have soundAgain := (advances_materialize sound.coherent.held runAgain).sound
  have needs : again.manifest.needs = out.manifest.needs :=
    (needs_of_materialize sound.coherent.held runAgain).trans (demands_items_of_materialize held run)
  refine ⟨again, runAgain, world.eq_of_needs_eq soundAgain.coherent sound.coherent needs, ?_⟩
  refine sound.modules_perm soundAgain fun key => ?_
  rw [← sound.generated, ← soundAgain.generated, needs]

/-- A module with a crate of its own. -/
def zoneModule : InlineDependency := ⟨"zone", "zone", [.crate (logCrate.withFeature "zone")], .defined "zone"⟩

/-- A module that declares two others, the later key first. -/
def deskModule : InlineDependency := ⟨"desk", "desk", [.inline zoneModule, .inline auditModule], .defined "desk"⟩

/-- The module with all that it requires as a universe. -/
def deskUniverse : Universe auditCatalogue {} :=
  .ofFamily (.listed [deskModule, zoneModule, auditModule, clockModule] (by decide)
    (by simp [deskModule, zoneModule, auditModule, clockModule])) <| by
    intro definition _ dependency mem
    have mentioned : dependency = .crate (logCrate.withFeature "kv") ∨ dependency = .inline clockModule :=
      List.mem_pair.mp (auditCatalogue.programDependencies_program_subset definition.renderer dependency mem)
    rcases mentioned with rfl | rfl
    · trivial
    · exact .tail _ (.tail _ (.tail _ (.head _)))

/-- A module that declares two others is materialized again in another order, with the same manifest and sources. -/
theorem materialize_again_deskModule :
    ∃ out again, auditCatalogue.materialize {} [.inline deskModule] = .ok out ∧
      out.manifest.materialize auditCatalogue {} = .ok again ∧ again.manifest = out.manifest ∧
      again.modules.Perm out.modules ∧ out.modules.map RenderedModule.name = ["zone", "clock", "audit", "desk"] ∧
      again.modules.map RenderedModule.name = ["clock", "audit", "zone", "desk"] := by
  have held : ∀ dependency ∈ [Dependency.inline deskModule], deskUniverse.Holds dependency :=
    List.forall_mem_singleton.mpr List.mem_cons_self
  have names : (auditCatalogue.materialize {} [.inline deskModule] >>= fun out =>
      (out.manifest.materialize auditCatalogue {}).map fun again =>
        (out.modules.map RenderedModule.name, again.modules.map RenderedModule.name)).toOption =
      some (["zone", "clock", "audit", "desk"], ["clock", "audit", "zone", "desk"]) := by decide +kernel
  cases run : auditCatalogue.materialize {} [.inline deskModule] with
  | ok out =>
    obtain ⟨again, runAgain, same, perm⟩ := deskUniverse.materialize_again held run
    simp only [run, runAgain, Bind.bind, Except.bind, Except.map, Except.toOption, Option.some.injEq,
      Prod.mk.injEq] at names
    exact ⟨out, again, rfl, runAgain, same, perm, names⟩
  | error failure => simp [run, Bind.bind, Except.bind, Except.toOption] at names

end Universe

end Cratewright
