import Cratewright.Proofs.Manifest.Registration

/-!
# Registering and merging as unions

The extras of an inline module are brought only when its key is new. `Settled` says that a manifest has brought what
the inline modules it holds declare; every registration keeps that. In a `Family`, where a key stands for one inline
module, a settled manifest that holds a key therefore says all that the module says. So registering is the union of
what the manifest and the dependency say, and merging the union of what two manifests say; both fail exactly when the
union puts a crate at two places. A manifest of a family is determined by what it says.
-/

namespace Cratewright

namespace Manifest

variable {manifest after : Manifest} {changed : Bool}

/-- Registering dependencies in full loses nothing that the manifest says. -/
theorem needs_subset_of_registerAll {dependencies : List Dependency}
    (run : registerAll dependencies manifest = .ok () after) : manifest.needs ⊆ after.needs := by
  have bounds : Bounded manifest.needs Set.univ (registerAll dependencies manifest) :=
    registerAll_bounds (Set.subset_univ _) subset_rfl (Set.subset_univ _)
  rw [run] at bounds
  exact bounds.1

/-- A registered dependency is in the manifest: a crate with all that its declaration says, a module by its key. -/
theorem own_subset_of_register {dependency : Dependency}
    (run : register dependency manifest = .ok changed after) : dependency.own ⊆ after.needs := by
  cases dependency with
  | crate declaration =>
    rw [register_crate] at run
    obtain ⟨_, stored, registered, added⟩ | ⟨_, registered, -⟩ := registerCrate_cases declaration manifest
    · rw [registered] at run
      cases run
      rw [added]
      exact Set.subset_union_right
    · rw [registered] at run
      cases run
  | inline definition =>
    rw [register_inline] at run
    split at run
    · rename_i present
      cases run
      exact Set.singleton_subset_iff.mpr (generated_mem_needs.mpr present)
    · split at run <;> cases run
      exact own_subset_needs (Keyed.mem_put.mpr (.inl rfl))

/-- After dependencies are registered in full, the manifest says what each of them says by itself. -/
theorem own_subset_of_registerAll {dependencies : List Dependency}
    (run : registerAll dependencies manifest = .ok () after) :
    ∀ dependency ∈ dependencies, dependency.own ⊆ after.needs := by
  induction dependencies generalizing manifest with
  | nil => exact fun _ mem => nomatch mem
  | cons first rest ih =>
    obtain ⟨_, between, registered, others⟩ := registerAll_cons_eq_ok run
    refine List.forall_mem_cons.mpr ⟨?_, ih others⟩
    exact (own_subset_of_register registered).trans (needs_subset_of_registerAll others)

/-- Whether a manifest has brought what the inline modules it holds declare. -/
def Settled (manifest : Manifest) : Prop :=
  ∀ definition : InlineDependency, .inline definition ∈ manifest.items →
    ∀ extra ∈ definition.extras, extra.own ⊆ manifest.needs

/-- The empty manifest has no modules whose declarations could be missing. -/
theorem settled_empty : Settled ∅ := fun _ mem => nomatch mem

/-- Storing a dependency keeps a manifest settled if nothing is lost and what the dependency declares is there already.
-/
theorem Settled.put {dependency : Dependency} (settled : manifest.Settled)
    (grows : manifest.needs ⊆ needs (Keyed.put manifest dependency))
    (brought : ∀ definition : InlineDependency, dependency = .inline definition →
      ∀ extra ∈ definition.extras, extra.own ⊆ manifest.needs) :
    Settled (Keyed.put manifest dependency) := by
  intro definition mem extra declared
  rcases Keyed.mem_put.mp mem with same | ⟨mem, -⟩
  · exact (brought definition same.symm extra declared).trans grows
  · exact (settled definition mem extra declared).trans grows

/-- Registering a crate keeps a manifest settled, whether it fails or not. -/
theorem keeps_settled_registerCrate (declaration : CrateDependency) : Keeps Settled (registerCrate declaration) := by
  intro manifest settled
  obtain ⟨_, stored, run, added⟩ | ⟨_, run, -⟩ := registerCrate_cases declaration manifest
  · rw [run]
    exact settled.put (added ▸ Set.subset_union_left) fun _ same => nomatch same
  · rw [run]
    exact settled

mutual

/-- Every registration keeps a manifest settled, completed or not. -/
theorem keeps_settled_register : ∀ dependency : Dependency, Keeps Settled (register dependency)
  | .crate declaration => by
    rw [register_crate]
    exact keeps_settled_registerCrate declaration
  | .inline ⟨name, moduleName, extras, renderer⟩ => by
    intro manifest settled
    have kept := keeps_settled_registerAll extras manifest settled
    rw [register_inline]
    split
    · exact settled
    · dsimp only
      split <;> rename_i run <;> rw [run] at kept
      · refine kept.put ?_ fun definition same extra declared => ?_
        · rw [needs_put_inline]
          exact Set.subset_insert _ _
        · cases same
          exact own_subset_of_registerAll run extra declared
      · exact kept

/-- Registering dependencies keeps a manifest settled, even where one of them fails. -/
theorem keeps_settled_registerAll : ∀ dependencies : List Dependency, Keeps Settled (registerAll dependencies)
  | [] => by
    rw [registerAll]
    exact .pure _
  | first :: rest => by
    rw [registerAll]
    exact .bind (keeps_settled_register first) fun _ => keeps_settled_registerAll rest

end

end Manifest

/-- Inline modules of which a key stands for one, together with all that they declare. -/
structure Family where
  Member : InlineDependency → Prop
  determined : ∀ {one other : InlineDependency}, Member one → Member other → one.key = other.key → one = other
  extras : ∀ {definition extra : InlineDependency}, Member definition → .inline extra ∈ definition.extras → Member extra

namespace Family

/-- Finitely many inline modules with a key each, and with all that they declare among them. -/
def listed (members : List InlineDependency) (distinct : (members.map InlineModule.key).Nodup)
    (closed : ∀ definition ∈ members, ∀ extra, .inline extra ∈ definition.extras → extra ∈ members) : Family where
  Member := (· ∈ members)
  determined := fun one other same => List.inj_on_of_nodup_map distinct one other same
  extras := fun member declared => closed _ member _ declared

variable {family : Family} {manifest other after : Manifest}

/-- Whether a dependency is a crate or an inline module of the family. -/
def Holds (family : Family) : Dependency → Prop
  | .crate _ => True
  | .inline definition => family.Member definition

/-- Belonging to a family passes from a module to what it declares. -/
theorem hereditary_holds (family : Family) : Dependency.Hereditary family.Holds where
  crate := fun _ => trivial
  extra := fun {definition} member extra declared => by
    cases extra with
    | crate => trivial
    | inline extra => exact family.extras member declared

/-- A settled manifest of the family. -/
structure Coherent (family : Family) (manifest : Manifest) : Prop where
  settled : manifest.Settled
  held : manifest.Every family.Holds

/-- The empty manifest is coherent with every family. -/
theorem coherent_empty (family : Family) : family.Coherent ∅ := ⟨Manifest.settled_empty, Manifest.every_empty⟩

/-- Registering a dependency of the family keeps a manifest coherent with it, even where it fails. -/
theorem keeps_coherent_register {dependency : Dependency} (held : family.Holds dependency) :
    Keeps family.Coherent (Manifest.register dependency) := fun manifest coherent =>
  ⟨Manifest.keeps_settled_register dependency manifest coherent.settled,
    Manifest.keeps_every_register family.hereditary_holds held manifest coherent.held⟩

/-- A manifest stays coherent as long as only dependencies of the family are registered. -/
def coherence (family : Family) : Manifest.Invariant where
  Holds := family.Coherent
  Admits := family.Holds
  holds_empty := family.coherent_empty
  admits_crate := fun _ => trivial
  admits_item := Coherent.held
  keeps_register := keeps_coherent_register

/-- A member whose key is generated is the module that is stored. -/
theorem Coherent.stored (coherent : family.Coherent manifest) {definition : InlineDependency}
    (member : family.Member definition) (generated : .generated definition.key ∈ manifest.needs) :
    .inline definition ∈ manifest.items := by
  obtain ⟨stored, mem, same⟩ := Keyed.contains_iff.mp (Manifest.generated_mem_needs.mp generated)
  cases stored with
  | crate => simp [Dependency.key, InlineModule.key] at same
  | inline stored =>
    have equal : stored = definition := family.determined (coherent.held _ mem) member same
    exact equal ▸ mem

mutual

/-- What a coherent manifest holds, it holds with all that is declared, at any depth. -/
theorem Coherent.needs_subset (coherent : family.Coherent manifest) : ∀ {dependency : Dependency},
    family.Holds dependency → dependency.own ⊆ manifest.needs → dependency.needs ⊆ manifest.needs
  | .crate declaration, _, own => by
    rw [Dependency.needs_crate]
    exact own
  | .inline ⟨name, moduleName, extras, renderer⟩, member, own => by
    have stored := coherent.stored member (own rfl)
    rw [Dependency.needs_inline]
    refine Set.insert_subset (own rfl) ?_
    exact coherent.needsOfAll_subset (family.hereditary_holds.extra member) (coherent.settled _ stored)

/-- A coherent manifest that says what dependencies say by themselves says all that they bring. -/
theorem Coherent.needsOfAll_subset (coherent : family.Coherent manifest) : ∀ {dependencies : List Dependency},
    (∀ dependency ∈ dependencies, family.Holds dependency) →
    (∀ dependency ∈ dependencies, dependency.own ⊆ manifest.needs) →
    Dependency.needsOfAll dependencies ⊆ manifest.needs
  | [], _, _ => Set.empty_subset _
  | first :: rest, held, own => by
    rw [List.forall_mem_cons] at held own
    rw [Dependency.needsOfAll]
    exact Set.union_subset (coherent.needs_subset held.1 own.1) (coherent.needsOfAll_subset held.2 own.2)

end

/-- The items of a coherent manifest declare nothing that the manifest does not say. -/
theorem Coherent.needsOfAll_items (coherent : family.Coherent manifest) :
    Dependency.needsOfAll manifest.items = manifest.needs := by
  apply Set.Subset.antisymm
  · exact coherent.needsOfAll_subset coherent.held fun _ mem => Manifest.own_subset_needs mem
  · rintro need ⟨dependency, mem, found⟩
    exact Dependency.mem_needsOfAll.mpr ⟨dependency, mem, dependency.own_subset_needs found⟩

/-- Registering is the union of what the manifest and the dependency say. -/
theorem Coherent.needs_of_register (coherent : family.Coherent manifest) {dependency : Dependency}
    (held : family.Holds dependency) {changed : Bool}
    (run : Manifest.register dependency manifest = .ok changed after) :
    after.needs = manifest.needs ∪ dependency.needs := by
  have bounds : Manifest.Bounded manifest.needs (manifest.needs ∪ dependency.needs) (Manifest.register _ _) :=
    Manifest.register_bounds Set.subset_union_right subset_rfl Set.subset_union_left
  have coherentAfter := keeps_coherent_register held manifest coherent
  rw [run] at bounds coherentAfter
  apply Set.Subset.antisymm bounds.2
  exact Set.union_subset bounds.1 (coherentAfter.needs_subset held (Manifest.own_subset_of_register run))

/-- A registration fails only where the union puts a crate at two places. -/
theorem not_agree_of_register {dependency : Dependency} {failure : CodegenError}
    (run : Manifest.register dependency manifest = .error failure after) :
    ¬ Agree (manifest.needs ∪ dependency.needs) := by
  have bounds : Manifest.Bounded ∅ (manifest.needs ∪ dependency.needs) (Manifest.register dependency manifest) :=
    Manifest.register_bounds Set.subset_union_right (Set.empty_subset _) Set.subset_union_left
  rw [run] at bounds
  exact bounds.2.2

/-- Registering a list is the union of what the manifest and the list say. -/
theorem Coherent.needs_of_registerAll (coherent : family.Coherent manifest) {dependencies : List Dependency}
    (held : ∀ dependency ∈ dependencies, family.Holds dependency)
    (run : Manifest.registerAll dependencies manifest = .ok () after) :
    after.needs = manifest.needs ∪ Dependency.needsOfAll dependencies := by
  have bounds : Manifest.Bounded manifest.needs (manifest.needs ∪ Dependency.needsOfAll dependencies)
      (Manifest.registerAll dependencies manifest) :=
    Manifest.registerAll_bounds Set.subset_union_right subset_rfl Set.subset_union_left
  have coherentAfter := family.coherence.keeps_registerAll held manifest coherent
  rw [run] at bounds coherentAfter
  apply Set.Subset.antisymm bounds.2
  refine Set.union_subset bounds.1 (Coherent.needsOfAll_subset coherentAfter held ?_)
  exact Manifest.own_subset_of_registerAll run

/-- Dependencies of which one cannot be registered put a crate at two places, together with the manifest. -/
theorem not_agree_of_registerAll {dependencies : List Dependency} {failure : CodegenError}
    (run : Manifest.registerAll dependencies manifest = .error failure after) :
    ¬ Agree (manifest.needs ∪ Dependency.needsOfAll dependencies) := by
  have bounds : Manifest.Bounded ∅ (manifest.needs ∪ Dependency.needsOfAll dependencies)
      (Manifest.registerAll dependencies manifest) :=
    Manifest.registerAll_bounds Set.subset_union_right (Set.empty_subset _) Set.subset_union_left
  rw [run] at bounds
  exact bounds.2.2

/-- Merging is the union of what the two manifests say. -/
theorem Coherent.needs_of_merge (coherent : family.Coherent manifest) (coherentOther : family.Coherent other)
    (run : Manifest.merge other manifest = .ok () after) : after.needs = manifest.needs ∪ other.needs := by
  have merged := Manifest.merge_eq_ok run
  rw [coherent.needs_of_registerAll coherentOther.held merged, coherentOther.needsOfAll_items]

/-- A merge fails only where the union puts a crate at two places. -/
theorem Coherent.not_agree_of_merge (coherentOther : family.Coherent other) {failure : CodegenError}
    (run : Manifest.merge other manifest = .error failure after) : ¬ Agree (manifest.needs ∪ other.needs) := by
  obtain ⟨-, reached, failed⟩ := Manifest.merge_eq_error run
  rw [← coherentOther.needsOfAll_items]
  exact not_agree_of_registerAll failed

/-- A merge of manifests that are coherent with one family is coherent with it. -/
theorem Coherent.merge (coherent : family.Coherent manifest) (coherentOther : family.Coherent other)
    (run : Manifest.merge other manifest = .ok () after) : family.Coherent after := by
  have kept := family.coherence.keeps_merge coherentOther manifest coherent
  rw [run] at kept
  exact kept

/-- Two manifests merge exactly when no crate lies at two places in them. -/
theorem Coherent.merge_iff_agree (coherent : family.Coherent manifest) (coherentOther : family.Coherent other) :
    (∃ after, Manifest.merge other manifest = .ok () after) ↔ Agree (manifest.needs ∪ other.needs) := by
  constructor
  · rintro ⟨after, run⟩
    rw [← coherent.needs_of_merge coherentOther run]
    exact after.agree_needs
  · intro agree
    cases run : Manifest.merge other manifest with
    | ok _ after => exact ⟨after, rfl⟩
    | error failure after => exact absurd agree (coherentOther.not_agree_of_merge run)

/-- A manifest of the family is determined by what it says. -/
theorem eq_of_needs_eq (coherent : family.Coherent manifest) (coherentOther : family.Coherent other)
    (same : manifest.needs = other.needs) : manifest = other := by
  have transfers : ∀ {one two : Manifest}, family.Coherent one → family.Coherent two → one.needs = two.needs →
      ∀ dependency ∈ one.items, dependency ∈ two.items := by
    intro one two coherentOne coherentTwo equal dependency mem
    cases dependency with
    | crate declaration => exact Manifest.crate_mem_of_mem_needs_iff mem fun _ _ => by rw [equal]
    | inline definition =>
      exact coherentTwo.stored (coherentOne.held _ mem) (equal ▸ Manifest.own_subset_needs mem rfl)
  refine Keyed.ext_mem fun dependency => ⟨?_, ?_⟩
  · exact transfers coherent coherentOther same dependency
  · exact transfers coherentOther coherent same.symm dependency

end Family

end Cratewright
