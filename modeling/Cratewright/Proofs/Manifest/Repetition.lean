import Cratewright.Proofs.Manifest.Reached

/-!
# Registering again

A registration has an effect exactly when the manifest does not yet say what the dependency says by itself, and its
answer tells so. As nothing that a manifest says is ever lost, a dependency has an effect at most once. Main statement:
the answer is true exactly when the manifest changed, and after that no history makes the same registration fail or
change anything.
-/

namespace Cratewright

namespace Dependency

/-- A dependency counts as equal to itself. -/
theorem same_refl (dependency : Dependency) : dependency.same dependency = true := by
  cases dependency <;> simp [same]

/-- Dependencies that count as equal say the same by themselves. -/
theorem own_eq_of_same {one other : Dependency} (alike : one.same other = true) : one.own = other.own := by
  cases one with
  | crate declaration =>
    cases other with
    | crate declared =>
      have equal : declaration = declared := by simpa [same] using alike
      rw [equal]
    | inline => cases alike
  | inline definition =>
    cases other with
    | crate => cases alike
    | inline defined =>
      have keys : definition.key = defined.key := by simpa [same, InlineModule.key] using alike
      rw [own, own, keys]

end Dependency

namespace Manifest

variable {manifest other after : Manifest} {dependency : Dependency} {declaration existing merged : CrateDependency}
  {changed : Bool}

/-- A manifest counts as equal to itself. -/
theorem same_refl (manifest : Manifest) : manifest.same manifest = true := by
  have alike : ∀ items : List Dependency, items.isEqv items Dependency.same = true := by
    intro items
    induction items with
    | nil => rfl
    | cons first rest ih => simp [List.isEqv, Dependency.same_refl, ih]
  exact alike manifest.items

/-- Manifests that count as equal say the same. -/
theorem needs_eq_of_same (alike : manifest.same other = true) : manifest.needs = other.needs := by
  have own_eq : ∀ items others : List Dependency, items.isEqv others Dependency.same = true →
      items.map Dependency.own = others.map Dependency.own := by
    intro items
    induction items with
    | nil =>
      intro others alike
      cases others with
      | nil => rfl
      | cons => cases alike
    | cons first rest ih =>
      intro others alike
      cases others with
      | nil => cases alike
      | cons second remaining =>
        rw [List.isEqv, Bool.and_eq_true] at alike
        rw [List.map_cons, List.map_cons, Dependency.own_eq_of_same alike.1, ih remaining alike.2]
  have said : ∀ (collection : Manifest) (need : Need),
      need ∈ collection.needs ↔ ∃ own ∈ collection.items.map Dependency.own, need ∈ own := by
    intro collection need
    simp only [List.mem_map, exists_exists_and_eq_and]
    rfl
  ext need
  rw [said, said, own_eq _ _ alike]

/-- The entry of a crate already says what a declaration says if the manifest does. -/
theorem needs_subset_iff_of_crate? (found : manifest.crate? declaration.name = some existing) :
    declaration.needs ⊆ manifest.needs ↔ declaration.needs ⊆ existing.needs := by
  obtain ⟨mem, named⟩ := crate?_eq_some_iff.mp found
  have about : ∀ need ∈ declaration.needs, need.crateName? = some existing.name := fun need said =>
    named ▸ CrateDependency.crateName?_of_mem_needs said
  exact ⟨fun within need said => (mem_needs_iff_of_crate mem (about need said)).mp (within said),
    fun within => within.trans (own_subset_needs mem)⟩

/-- Declarations combine to the first of them exactly when it says what the second says. -/
theorem merged_eq_iff (same : existing.name = declaration.name)
    (combined : existing.merge? declaration = some (merged, changed)) :
    merged = existing ↔ declaration.needs ⊆ existing.needs := by
  have needs := CrateDependency.needs_of_merge? same combined
  constructor
  · rintro rfl
    exact Set.union_eq_left.mp needs.symm
  · exact fun within => CrateDependency.eq_of_needs_eq (needs.trans (Set.union_eq_left.mpr within))

/-- What a manifest says already is registered without an effect. -/
theorem register_of_own_subset (said : dependency.own ⊆ manifest.needs) :
    register dependency manifest = .ok false manifest := by
  cases dependency with
  | inline definition =>
    have present : manifest.contains definition.key = true := contains_of_own_subset said
    rw [register_inline, if_pos present]
  | crate declaration =>
    have within : declaration.needs ⊆ manifest.needs := said
    obtain ⟨existing, found, covers⟩ := covered_of_needs_subset within
    obtain ⟨⟨merged, changed⟩, combined⟩ : ∃ outcome, existing.merge? declaration = some outcome :=
      Option.ne_none_iff_exists'.mp fun conflict => CrateDependency.merge?_eq_none_iff.mp conflict covers.location
    have equal : merged = existing :=
      (merged_eq_iff covers.name combined).mpr ((needs_subset_iff_of_crate? found).mp within)
    rw [register_crate, registerCrate_apply, found]
    simp only [combined, CrateDependency.changed_of_merge? combined, equal, bne_self_eq_false,
      Keyed.put_of_mem (crate?_eq_some_iff.mp found).1]

/-- The answer of a registration is true exactly when the manifest did not say what the dependency says. -/
theorem answer_of_register (run : register dependency manifest = .ok changed after) :
    changed = true ↔ ¬ dependency.own ⊆ manifest.needs := by
  constructor
  · rintro rfl said
    rw [register_of_own_subset said] at run
    cases run
  · intro new
    cases dependency with
    | inline definition =>
      have absent : manifest.contains definition.key ≠ true := fun present =>
        new (Set.singleton_subset_iff.mpr (generated_mem_needs.mpr present))
      rw [register_inline, if_neg absent] at run
      split at run <;> cases run
      rfl
    | crate declaration =>
      rw [register_crate, registerCrate_apply] at run
      split at run
      · cases run
        rfl
      · rename_i existing found
        split at run
        · cases run
        · rename_i merged answer combined
          cases run
          rw [CrateDependency.changed_of_merge? combined, bne_iff_ne, ne_eq,
            merged_eq_iff (crate?_eq_some_iff.mp found).2 combined, ← needs_subset_iff_of_crate? found]
          exact new

/-- A registration answers true exactly when it changes the manifest, whether inline modules are compared by all they
declare or by their identity; and once it has succeeded, the same registration never has an effect again, whatever is
registered and merged in between and whether that succeeds or not. -/
theorem register_changes_once (run : register dependency manifest = .ok changed after) :
    (changed = true ↔ after ≠ manifest) ∧ changed = !manifest.same after ∧
      ∀ later : List Step, register dependency (after.after later) = .ok false (after.after later) := by
  have said : dependency.own ⊆ after.needs := own_subset_of_register run
  cases changed with
  | true =>
    have new : ¬ dependency.own ⊆ manifest.needs := (answer_of_register run).mp rfl
    have differs : manifest.needs ≠ after.needs := fun equal => new (equal ▸ said)
    refine ⟨⟨fun _ equal => differs (equal ▸ rfl), fun _ => rfl⟩, ?_, ?_⟩
    · have distinct : manifest.same after = false :=
        Bool.eq_false_iff.mpr fun alike => differs (needs_eq_of_same alike)
      rw [distinct]
      rfl
    · exact fun later => register_of_own_subset (said.trans (needs_subset_after after later))
  | false =>
    have old : dependency.own ⊆ manifest.needs :=
      not_not.mp (mt (answer_of_register run).mpr Bool.false_ne_true)
    obtain rfl : manifest = after := by
      rw [register_of_own_subset old] at run
      cases run
      rfl
    refine ⟨⟨nofun, fun changed => absurd rfl changed⟩, ?_, ?_⟩
    · rw [same_refl]
      rfl
    · exact fun later => register_of_own_subset (said.trans (needs_subset_after manifest later))

/-- A declaration that turns on one more feature of a crate. -/
def stdLog : Dependency := .crate { Family.logCrate.withFeature "std" with scope := .dev }

/-- A conflict, a module that declares the crate with other features, and a merge. -/
def laterSteps : List Step := [.register (.crate (.directory "log" "../log")), .register (.inline Family.traceModule),
  .merge (Manifest.after ∅ [.register (.crate (Family.logCrate.withFeature "serde"))])]

/-- A new feature changes the manifest once, whatever fails and succeeds before it is registered again. -/
theorem register_changes_once_stdLog :
    ∃ registered, register stdLog Family.loggingManifest = .ok true registered ∧
      registered ≠ Family.loggingManifest ∧
      (registered.after laterSteps).keys =
        [.crate "bytes", .crate "log", .inline "trace" "span", .inline "trace" "trace"] ∧
      register stdLog (registered.after laterSteps) = .ok false (registered.after laterSteps) := by
  have succeeds : (register stdLog).succeeds Family.loggingManifest = true := by decide +kernel
  have differs : Family.loggingManifest.same (stateAfter (register stdLog Family.loggingManifest)) = false := by
    decide +kernel
  have keys : ((stateAfter (register stdLog Family.loggingManifest)).after laterSteps).keys =
      [.crate "bytes", .crate "log", .inline "trace" "span", .inline "trace" "trace"] := by decide +kernel
  obtain ⟨changed, registered, run⟩ := Action.succeeds_eq_true_iff.mp succeeds
  obtain ⟨changes, answer, again⟩ := register_changes_once run
  rw [run] at differs keys
  obtain rfl : changed = true := answer.trans (congrArg not differs)
  exact ⟨registered, run, changes.mp rfl, keys, again laterSteps⟩

end Manifest

end Cratewright
