import Cratewright.Proofs.Manifest.Union

/-!
# The history of a manifest

A manifest comes about by registrations and merges, and a step that fails belongs to its history: a registration that
fails leaves the extras it had brought. `after` is the manifest after a list of steps, whatever became of each. Nothing
is assumed of the inline modules: two of one key may declare different things, and one may declare another of its own
key, which it then replaces. Main statement: at every moment of a history each entry is found under its own key,
nothing that an earlier moment said is lost, and what the stored inline modules declare is there.
-/

namespace Cratewright

/-- Whether a declaration needs all that another declaration of the crate needs, from the same place. -/
structure CrateDependency.Covers (declaration other : CrateDependency) : Prop where
  name : declaration.name = other.name
  location : declaration.location = other.location
  features : ∀ feature ∈ other.features.items, feature ∈ declaration.features.items
  scope : other.scope = .compile → declaration.scope = .compile

namespace Manifest

/-- A step in the history of a manifest. -/
inductive Step
  | register (dependency : Dependency)
  | merge (other : Manifest)

/-- The manifest after a step, completed or not. -/
def Step.after (manifest : Manifest) : Step → Manifest
  | .register dependency => stateAfter (Manifest.register dependency manifest)
  | .merge other => stateAfter (Manifest.merge other manifest)

/-- The manifest after steps one after another. -/
def after (manifest : Manifest) (steps : List Step) : Manifest := steps.foldl Step.after manifest

variable {manifest : Manifest}

/-- Steps in two parts end where the second part ends after the first. -/
theorem after_append (before later : List Step) :
    manifest.after (before ++ later) = (manifest.after before).after later :=
  List.foldl_append

/-- A manifest that says what a declaration says has an entry that covers the declaration. -/
theorem covered_of_needs_subset {declaration : CrateDependency} (said : declaration.needs ⊆ manifest.needs) :
    ∃ stored, manifest.crate? declaration.name = some stored ∧ stored.Covers declaration := by
  obtain ⟨stored, listed, named, located⟩ :=
    located_mem_needs_iff.mp (said (CrateDependency.located_mem_needs.mpr ⟨rfl, rfl⟩))
  have mem : .crate stored ∈ manifest.items := mem_crates.mp listed
  -- The name has one entry, so what the manifest says of the crate is what the entry says.
  have kept : ∀ need ∈ declaration.needs, need.crateName? = some declaration.name → need ∈ stored.needs :=
    fun need found about => (mem_needs_iff_of_crate mem (named ▸ about)).mp (said found)
  refine ⟨stored, crate?_eq_some_iff.mpr ⟨mem, named⟩, named, located, ?_, ?_⟩
  · intro feature turnedOn
    have featured := kept (.featured declaration.name feature) ⟨rfl, turnedOn⟩ rfl
    exact (CrateDependency.featured_mem_needs.mp featured).2
  · intro compile
    have compiled := kept (.compiled declaration.name) ⟨rfl, compile⟩ rfl
    exact (CrateDependency.compiled_mem_needs.mp compiled).2

/-- A manifest that says what a dependency says by itself has an entry under its key. -/
theorem contains_of_own_subset {dependency : Dependency} (said : dependency.own ⊆ manifest.needs) :
    manifest.contains dependency.key = true := by
  cases dependency with
  | crate declaration =>
    obtain ⟨stored, found, -⟩ := covered_of_needs_subset said
    obtain ⟨mem, named⟩ := crate?_eq_some_iff.mp found
    exact Keyed.contains_iff.mpr ⟨_, mem, congrArg DependencyKey.crate named⟩
  | inline definition => exact generated_mem_needs.mp (said rfl)

/-- A step loses nothing of what the manifest says. -/
theorem needs_subset_step (manifest : Manifest) (step : Step) : manifest.needs ⊆ (step.after manifest).needs := by
  cases step with
  | register dependency =>
    have bounds : Bounded manifest.needs Set.univ (Manifest.register dependency manifest) :=
      register_bounds (Set.subset_univ _) subset_rfl (Set.subset_univ _)
    rw [Step.after]
    cases run : Manifest.register dependency manifest <;> rw [run] at bounds <;> exact bounds.1
  | merge other =>
    rw [Step.after, Manifest.merge]
    cases run : registerAll other.items manifest with
    | ok _ merged => exact needs_subset_of_registerAll run
    | error failure left => exact subset_rfl

/-- A step keeps a manifest settled. -/
theorem Settled.step (settled : manifest.Settled) (step : Step) : (step.after manifest).Settled := by
  cases step with
  | register dependency => exact keeps_settled_register dependency manifest settled
  | merge other =>
    have kept := keeps_settled_registerAll other.items manifest settled
    rw [Step.after, Manifest.merge]
    cases run : registerAll other.items manifest with
    | ok _ merged =>
      rw [run] at kept
      exact kept
    | error failure left => exact settled

/-- No history takes back what a manifest says. -/
theorem needs_subset_after (manifest : Manifest) (steps : List Step) :
    manifest.needs ⊆ (manifest.after steps).needs := by
  induction steps generalizing manifest with
  | nil => exact subset_rfl
  | cons step rest ih => exact (needs_subset_step manifest step).trans (ih _)

/-- A settled manifest stays settled through any history. -/
theorem Settled.after (settled : manifest.Settled) (steps : List Step) : (manifest.after steps).Settled := by
  induction steps generalizing manifest with
  | nil => exact settled
  | cons step rest ih => exact ih (settled.step step)

/-- Whether every entry is found under its own key, so that the key of a crate never holds an inline module. -/
structure Filed (manifest : Manifest) : Prop where
  found : ∀ dependency ∈ manifest.items, manifest.get? dependency.key = some dependency
  own : ∀ key dependency, manifest.get? key = some dependency → dependency.key = key
  crate : ∀ name definition, manifest.get? (.crate name) ≠ some (.inline definition)

/-- Whether a later manifest still has every key of an earlier one, and an entry that covers the one there was for
every crate. -/
structure Retains (earlier later : Manifest) : Prop where
  keys : ∀ key, earlier.contains key = true → later.contains key = true
  crates : ∀ name declaration, earlier.crate? name = some declaration →
    ∃ kept, later.crate? name = some kept ∧ kept.Covers declaration

/-- Whether a manifest has what its inline modules declare: an entry that covers each crate, and the key of each inline
module. -/
structure Provides (manifest : Manifest) : Prop where
  crates : ∀ definition ∈ manifest.inlines, ∀ declaration, .crate declaration ∈ definition.extras →
    ∃ stored, manifest.crate? declaration.name = some stored ∧ stored.Covers declaration
  inlines : ∀ definition ∈ manifest.inlines, ∀ extra : InlineDependency, .inline extra ∈ definition.extras →
    manifest.contains extra.key = true

/-- Every manifest is filed under its keys. -/
theorem filed (manifest : Manifest) : manifest.Filed where
  found := fun _ mem => Keyed.get?_eq_some_iff.mpr ⟨mem, rfl⟩
  own := fun _ _ found => (Keyed.get?_eq_some_iff.mp found).2
  crate := by
    intro name definition found
    have same := (Keyed.get?_eq_some_iff.mp found).2
    simp [Dependency.key, InlineModule.key] at same

/-- A manifest that says at least what another says retains it. -/
theorem retains_of_needs_subset {other : Manifest} (more : manifest.needs ⊆ other.needs) : manifest.Retains other where
  keys := by
    intro key present
    obtain ⟨dependency, mem, rfl⟩ := Keyed.contains_iff.mp present
    exact contains_of_own_subset ((own_subset_needs mem).trans more)
  crates := by
    intro name declaration found
    obtain ⟨mem, rfl⟩ := crate?_eq_some_iff.mp found
    have said : declaration.needs ⊆ manifest.needs := own_subset_needs mem
    exact covered_of_needs_subset (said.trans more)

/-- A settled manifest provides what its modules declare. -/
theorem Settled.provides (settled : manifest.Settled) : manifest.Provides where
  crates := fun definition mem _ declared =>
    covered_of_needs_subset (settled definition (mem_inlines.mp mem) _ declared)
  inlines := fun definition mem _ declared =>
    contains_of_own_subset (settled definition (mem_inlines.mp mem) _ declared)

/-- However a manifest came about, its entries are under their keys, all of an earlier moment is retained and what its
inline modules declare is provided. -/
theorem history_intact (before later : List Step) :
    (after ∅ (before ++ later)).Filed ∧
    (after ∅ before).Retains (after ∅ (before ++ later)) ∧
    (after ∅ (before ++ later)).Provides := by
  refine ⟨filed _, ?_, ?_⟩
  · rw [after_append]
    exact retains_of_needs_subset (needs_subset_after _ later)
  · exact (settled_empty.after _).provides

/-- A registration that fails over its second extra keeps the first. -/
example :
    let client : InlineDependency :=
      ⟨"client", "client", [.crate (.registry "bytes" "1"), .crate (.directory "http" "../http")], .defined "client"⟩
    (after ∅ [.register (.crate (.registry "http" "1")), .register (.inline client)]).keys =
      [.crate "bytes", .crate "http"] := by decide +kernel

end Manifest

end Cratewright
