import Cratewright.Proofs.CrateGeneration
import Cratewright.Proofs.Manifest.Confinement
import Cratewright.Proofs.Manifest.Reached

/-!
# Inline modules that share a key

Two inline modules of one key count as the same, also where they declare different extras. The one that is stored
first stays, and a registration that comes to the other passes it over with all that it declares. What an inline module
declares is therefore brought only as far as no such rival stands in the way, and a manifest may lack what one of its
modules declares. Such a manifest does not come back when its entries are registered anew: they are met in the order of
their keys, and a module that had been passed over may now come first. Main statements: a registration brings every
crate whose way is free, and a manifest that has all that its modules declare comes back from a merge into the empty
one.
-/

namespace Cratewright

namespace Manifest

/-- The crates among a dependency and what it declares, at any depth, that a registration finds no rival in front of:
where it comes to an inline module whose key is taken, what is stored there declares the same extras. -/
inductive Unhindered : Manifest → Dependency → CrateDependency → Prop where
  | crate {manifest declaration} : Unhindered manifest (.crate declaration) declaration
  | new {manifest between : Manifest} {definition : InlineDependency} {before rest extra declaration}
      (absent : manifest.contains definition.key = false)
      (split : definition.extras = before ++ extra :: rest)
      (earlier : registerAll before manifest = .ok () between)
      (onward : Unhindered between extra declaration) : Unhindered manifest (.inline definition) declaration
  | taken {manifest : Manifest} {definition stored : InlineDependency} {extra declaration}
      (present : .inline stored ∈ manifest.items) (key : stored.key = definition.key)
      (same : stored.extras = definition.extras) (declared : extra ∈ definition.extras)
      (onward : Unhindered manifest extra declaration) : Unhindered manifest (.inline definition) declaration

variable {manifest after other : Manifest} {dependency : Dependency} {declaration : CrateDependency} {changed : Bool}

/-- Where a dependency is present, so is every crate whose way is free. -/
theorem Settled.needs_subset_of_unhindered (settled : manifest.Settled)
    (unhindered : Unhindered manifest dependency declaration) (own : dependency.own ⊆ manifest.needs) :
    declaration.needs ⊆ manifest.needs := by
  induction unhindered with
  | crate => exact own
  | @new manifest between definition before rest extra declaration absent split earlier onward ih =>
    have present : manifest.contains definition.key = true := generated_mem_needs.mp (own rfl)
    rw [absent] at present
    cases present
  | taken present key same declared onward ih =>
    exact ih settled (settled _ present _ (same ▸ declared))

/-- A registration that succeeds brings every crate whose way is free. -/
theorem Settled.needs_subset_of_register (settled : manifest.Settled)
    (unhindered : Unhindered manifest dependency declaration)
    (run : register dependency manifest = .ok changed after) : declaration.needs ⊆ after.needs := by
  induction unhindered generalizing changed after with
  | crate => exact own_subset_of_register run
  | @new manifest between definition before rest extra declaration absent split earlier onward ih =>
    have settledBetween := keeps_settled_registerAll before manifest settled
    rw [earlier] at settledBetween
    obtain ⟨brought, extras, rfl⟩ := register_inline_eq_ok absent run
    have grows : brought.needs ⊆ needs (Keyed.put brought (.inline definition)) := by
      rw [needs_put_inline]
      exact Set.subset_insert _ _
    rw [split] at extras
    obtain ⟨again, registered, extras⟩ := registerAll_append_eq_ok extras
    cases earlier.symm.trans registered
    obtain ⟨_, next, registered, others⟩ := registerAll_cons_eq_ok extras
    exact (ih settledBetween registered).trans ((needs_subset_of_registerAll others).trans grows)
  | @taken manifest definition stored extra declaration present key same declared onward ih =>
    have contained : manifest.contains definition.key = true := Keyed.contains_iff.mpr ⟨_, present, key⟩
    rw [register_inline, if_pos contained] at run
    cases run
    exact settled.needs_subset_of_unhindered onward (settled _ present _ (same ▸ declared))

/-- Whatever shares its key, an inline module whose registration succeeds brings every crate whose way is free: those
that it declares itself if its key is new, in which case it is stored. If its key is taken, nothing changes. -/
theorem brings_unhindered {definition : InlineDependency} (reached : Reached (fun _ => True) manifest)
    (run : register (.inline definition) manifest = .ok changed after) :
    (∀ declaration, Unhindered manifest (.inline definition) declaration →
      ∃ stored, after.crate? declaration.name = some stored ∧ stored.Covers declaration) ∧
    (manifest.contains definition.key = false → .inline definition ∈ after.items ∧
      ∀ declaration, .crate declaration ∈ definition.extras →
        ∃ stored, after.crate? declaration.name = some stored ∧ stored.Covers declaration) ∧
    (manifest.contains definition.key = true → after = manifest) := by
  refine ⟨?_, ?_, ?_⟩
  · intro declaration unhindered
    exact covered_of_needs_subset (reached.settled.needs_subset_of_register unhindered run)
  · intro absent
    have settled := keeps_settled_register (.inline definition) manifest reached.settled
    rw [run] at settled
    obtain ⟨brought, -, rfl⟩ := register_inline_eq_ok absent run
    have stored : .inline definition ∈ (Keyed.put brought (.inline definition)).items := Keyed.mem_put.mpr (.inl rfl)
    exact ⟨stored, fun declaration declared => covered_of_needs_subset (settled definition stored _ declared)⟩
  · intro present
    rw [register_inline, if_pos present] at run
    cases run
    rfl

/-- A module that declares nothing. -/
def plainClock : InlineDependency := ⟨"clock", "clock", [], .defined "clock"⟩

/-- The same module, as far as its key tells, with a crate that it declares. -/
def timedClock : InlineDependency := ⟨"clock", "clock", [.crate (.registry "time" "0.3")], .defined "clock"⟩

/-- A module that declares a rival of the first module and, after it, a module without rivals. -/
def calendarModule : InlineDependency :=
  ⟨"calendar", "calendar", [.inline timedClock, .inline Family.spanModule], .defined "calendar"⟩

/-- A manifest that holds the first module. -/
def plainManifest : Manifest := Manifest.after ∅ [.register (.inline plainClock)]

/-- A manifest that holds one module is reached by registering it. -/
theorem reached_plainManifest : Reached (fun _ => True) plainManifest :=
  Reached.empty.history (by simp [Step.Admitted])

/-- The rival does not stand in the way of what is declared beside it. -/
theorem crate_of_register_calendarModule :
    ∃ changed after, register (.inline calendarModule) plainManifest = .ok changed after ∧
      ∃ stored, after.crate? "log" = some stored ∧ stored.Covers (Family.logCrate.withFeature "std") := by
  have succeeds : (register (.inline calendarModule)).succeeds plainManifest = true := by decide +kernel
  obtain ⟨changed, after, run⟩ := Action.succeeds_eq_true_iff.mp succeeds
  have passedOver : registerAll [.inline timedClock] plainManifest = .ok () plainManifest := rfl
  have onward : Unhindered plainManifest (.inline Family.spanModule) (Family.logCrate.withFeature "std") :=
    .new (by decide +kernel) (List.nil_append _).symm (registerAll_nil _) .crate
  have unhindered : Unhindered plainManifest (.inline calendarModule) (Family.logCrate.withFeature "std") :=
    .new (by decide +kernel) rfl passedOver onward
  have brought := (brings_unhindered reached_plainManifest run).1 _ unhindered
  exact ⟨changed, after, run, brought⟩

/-- A registration may succeed without what the module declares, where the module that is stored declares less. -/
theorem register_passes_over_rival :
    Reached (fun _ => True) plainManifest ∧
      ∃ changed after, register (.inline timedClock) plainManifest = .ok changed after ∧
        .crate (.registry "time" "0.3") ∈ timedClock.extras ∧ after.crate? "time" = none :=
  ⟨reached_plainManifest, false, plainManifest, rfl, List.mem_cons_self, by decide +kernel⟩

/-- Whether a manifest has all that its inline modules declare, at any depth. -/
def SelfContained (manifest : Manifest) : Prop := manifest.Every (·.DeclaresWithin manifest.needs)

/-- Whether two manifests have the same keys and the same declarations of crates. -/
structure Reproduces (manifest other : Manifest) : Prop where
  keys : ∀ key, manifest.contains key = other.contains key
  crates : ∀ name, manifest.crate? name = other.crate? name

/-- Manifests that say the same have the same keys and the same declarations of crates. -/
theorem reproduces_of_needs_eq (same : after.needs = other.needs) : after.Reproduces other where
  keys := by
    intro key
    rw [Bool.eq_iff_iff, contains_iff_exists_need, contains_iff_exists_need, same]
  crates := by
    intro name
    ext declaration
    rw [crate?_eq_some_iff, crate?_eq_some_iff]
    refine and_congr_left fun _ => ⟨fun mem => ?_, fun mem => ?_⟩
    · exact crate_mem_of_mem_needs_iff mem fun _ _ => by rw [same]
    · exact crate_mem_of_mem_needs_iff mem fun _ _ => by rw [same]

/-- Registering the entries of a manifest anew loses nothing that it says, and adds only what they declare. -/
theorem needs_of_merge_empty (run : merge other ∅ = .ok () after) :
    other.needs ⊆ after.needs ∧ after.needs ⊆ Dependency.needsOfAll other.items := by
  have registered := merge_eq_ok run
  have bounds : Bounded ∅ (Dependency.needsOfAll other.items) (registerAll other.items ∅) :=
    registerAll_bounds subset_rfl (Set.empty_subset _) (by simp)
  rw [registered] at bounds
  refine ⟨?_, bounds.2⟩
  rintro need ⟨entry, mem, found⟩
  exact own_subset_of_registerAll registered entry mem found

/-- Registering the entries of a manifest anew fails only where what they declare puts a crate at two places. -/
theorem not_agree_of_merge_empty {failure : CodegenError} (run : merge other ∅ = .error failure after) :
    after = ∅ ∧ ¬ Agree (Dependency.needsOfAll other.items) := by
  obtain ⟨unchanged, reached, failed⟩ := merge_eq_error run
  have conflict := Family.not_agree_of_registerAll failed
  rw [needs_empty, Set.empty_union] at conflict
  exact ⟨unchanged, conflict⟩

/-- A manifest that has all that its modules declare comes back from a merge into the empty one. -/
theorem SelfContained.merge_empty (contained : other.SelfContained) :
    ∃ merged, merge other ∅ = .ok () merged ∧ merged.Reproduces other := by
  have confined : other.Confined other.needs := ⟨contained, subset_rfl⟩
  obtain ⟨merged, run, inside⟩ := (confined_empty other.needs).merge other.agree_needs confined
  have same : merged.needs = other.needs := Set.Subset.antisymm inside.needs (needs_of_merge_empty run).1
  exact ⟨merged, run, reproduces_of_needs_eq same⟩

end Manifest

/-- In a family a manifest has all that its modules declare. -/
theorem Family.Coherent.selfContained {family : Family} {manifest : Manifest} (coherent : family.Coherent manifest) :
    manifest.SelfContained := by
  intro entry mem
  refine Dependency.declaresWithin_of_needs_subset fun need found => ?_
  rw [← coherent.needsOfAll_items]
  exact Dependency.mem_needsOfAll.mpr ⟨entry, mem, found⟩

/-- The manifest of a crate of one unit is that of the unit, merged into the empty one. -/
theorem Catalogue.generateAll_singleton {catalogue : Catalogue} {config : RuntimeConfig} {unit : CompilationUnit}
    {generated : GeneratedUnit} {merged : Manifest} (run : catalogue.generate config unit = .ok generated)
    (merges : Manifest.merge generated.manifest ∅ = .ok () merged) :
    catalogue.generateAll config [unit] = ⟨[.ok generated], merged⟩ := by
  rw [generateAll, generateAfter, generateNext, run]
  simp only [merges]
  rfl

namespace Manifest

/-- Merged into the empty manifest, a manifest loses nothing and gains only what its modules declare, and the merge
fails only where that puts a crate at two places. If the manifest has all that its modules declare, it comes back, and
a unit that generates with it succeeds as the only one of its crate and makes it the manifest of the crate. -/
theorem merge_empty_reproduces (other : Manifest) :
    (∀ merged, merge other ∅ = .ok () merged →
      other.needs ⊆ merged.needs ∧ merged.needs ⊆ Dependency.needsOfAll other.items) ∧
    (∀ failure left, merge other ∅ = .error failure left → left = ∅ ∧ ¬ Agree (Dependency.needsOfAll other.items)) ∧
    (other.SelfContained → ∃ merged, merge other ∅ = .ok () merged ∧ merged.Reproduces other ∧
      ∀ catalogue config unit generated, Catalogue.generate catalogue config unit = .ok generated →
        generated.manifest = other → catalogue.generateAll config [unit] = ⟨[.ok generated], merged⟩) := by
  refine ⟨fun merged run => needs_of_merge_empty run, fun failure left run => not_agree_of_merge_empty run, ?_⟩
  intro contained
  obtain ⟨merged, run, reproduces⟩ := contained.merge_empty
  refine ⟨merged, run, reproduces, ?_⟩
  rintro catalogue config unit generated made rfl
  exact Catalogue.generateAll_singleton made run

/-- A unit that requires a module which declares a crate. -/
def clockUnit : CompilationUnit := ⟨"crate::audit", [.register (.inline Universe.clockModule)]⟩

/-- A single unit whose manifest is merged into the empty one as it is. -/
theorem generateAll_clockUnit :
    ∃ generated merged, Catalogue.generate {} {} clockUnit = .ok generated ∧
      Catalogue.generateAll {} {} [clockUnit] = ⟨[.ok generated], merged⟩ ∧ merged.Reproduces generated.manifest := by
  have covers : Universe.clockUniverse.Covers clockUnit := List.forall_mem_singleton.mpr List.mem_cons_self
  have succeeds : (Catalogue.generate {} {} clockUnit).isOk = true := by decide +kernel
  cases run : Catalogue.generate {} {} clockUnit with
  | error failure =>
    rw [run] at succeeds
    cases succeeds
  | ok generated =>
    have contained := (covers.coherent run).selfContained
    obtain ⟨merged, -, reproduces, alone⟩ := (merge_empty_reproduces generated.manifest).2.2 contained
    exact ⟨generated, merged, rfl, alone _ _ _ _ run rfl, reproduces⟩

/-- A module that declares a module of which the manifests below hold a rival. -/
def ledgerModule : InlineDependency := ⟨"ledger", "audit", [.inline timedClock], .defined "ledger"⟩

/-- A module whose code names the module that declares nothing. -/
def accessModule : InlineDependency := ⟨"access", "access", [], .defined "access"⟩

/-- The code of the modules. -/
def rivalCatalogue : Catalogue := ⟨[("access", [.register (.inline plainClock)])]⟩

/-- A unit that requires all of them; its own manifest has no crate. -/
def rivalUnit : CompilationUnit :=
  ⟨"crate::client", [.register (.inline plainClock), .register (.inline ledgerModule), .register (.inline accessModule)]⟩

/-- A manifest that lacks the crate which one of its modules declares by way of a rival. -/
def rivalManifest : Manifest := Manifest.after ∅ [.register (.inline plainClock), .register (.inline ledgerModule)]

/-- A manifest that has this crate from another place. -/
def relocatedManifest : Manifest :=
  Manifest.after ∅ [.register (.crate (.directory "time" "../time")), .register (.inline plainClock),
    .register (.inline ledgerModule)]

/-- Registering the entries of a manifest anew may bring a crate that it lacks, or fail, and a crate of one unit may
have a dependency that the manifest of the unit does not list. -/
theorem merge_empty_revives_rival :
    (Reached (fun _ => True) rivalManifest ∧ rivalManifest.contains (.crate "time") = false ∧
      ∃ merged, merge rivalManifest ∅ = .ok () merged ∧ merged.contains (.crate "time") = true) ∧
    (Reached (fun _ => True) relocatedManifest ∧ (merge relocatedManifest).succeeds ∅ = false) ∧
    (rivalCatalogue.generateAll {} [rivalUnit]).manifests.map (·.contains (.crate "time")) = [false] ∧
    (rivalCatalogue.generateAll {} [rivalUnit]).manifest.contains (.crate "time") = true := by
  refine ⟨⟨?_, by decide +kernel, ?_⟩, ⟨?_, by decide +kernel⟩, by decide +kernel, by decide +kernel⟩
  · exact Reached.empty.history (by simp [Step.Admitted])
  · have succeeds : (merge rivalManifest).succeeds ∅ = true := by decide +kernel
    obtain ⟨_, merged, run⟩ := Action.succeeds_eq_true_iff.mp succeeds
    have brought : (stateAfter (merge rivalManifest ∅)).contains (.crate "time") = true := by decide +kernel
    rw [run] at brought
    exact ⟨merged, run, brought⟩
  · exact Reached.empty.history (by simp [Step.Admitted])

end Manifest

end Cratewright
