import Cratewright.Proofs.Manifest.Needs

/-!
# The bounds of a registration

`register_bounds` holds of any dependencies and from any manifest: a registration loses nothing, adds nothing that the
dependency and what it declares do not say, and fails only where a crate would lie at two places. Whether all that the
dependency says is present afterwards is a question for `Cratewright.Proofs.Manifest.Union`.
-/

namespace Cratewright

namespace Manifest

/-- How a crate is registered. -/
theorem registerCrate_apply (declaration : CrateDependency) (manifest : Manifest) :
    registerCrate declaration manifest =
      match manifest.crate? declaration.name with
      | none => .ok true (Keyed.put manifest (.crate declaration))
      | some existing =>
        match existing.merge? declaration with
        | none => .error (.conflictingCrate declaration.name existing.location declaration.location) manifest
        | some (merged, changed) => .ok changed (Keyed.put manifest (.crate merged)) := by
  have read : (get : Registration Manifest) manifest = .ok manifest manifest := rfl
  rw [registerCrate, Action.bind_apply]
  simp only [read]
  cases manifest.crate? declaration.name with
  | none => rfl
  | some existing =>
    dsimp only
    cases existing.merge? declaration <;> rfl

/-- Registering a crate as a dependency is registering the crate. -/
theorem register_crate (declaration : CrateDependency) : register (.crate declaration) = registerCrate declaration := by
  rw [register]

/-- How an inline module is registered. -/
theorem register_inline (definition : InlineDependency) (manifest : Manifest) :
    register (.inline definition) manifest =
      if manifest.contains definition.key then .ok false manifest
      else match registerAll definition.extras manifest with
        | .ok () after => .ok true (Keyed.put after (.inline definition))
        | .error failure after => .error failure after := by
  obtain ⟨name, moduleName, extras, renderer⟩ := definition
  rw [register]
  by_cases present : manifest.contains (.inline moduleName name) = true
  · exact (congrFun (if_pos present) manifest).trans (if_pos present).symm
  · refine (congrFun (if_neg present) manifest).trans (Eq.trans ?_ (if_neg present).symm)
    rw [Action.bind_apply]
    cases registerAll extras manifest <;> rfl

/-- Registering nothing changes nothing. -/
theorem registerAll_nil (manifest : Manifest) : registerAll [] manifest = .ok () manifest := by
  rw [registerAll]
  rfl

/-- How a list of dependencies is registered. -/
theorem registerAll_cons (first : Dependency) (rest : List Dependency) (manifest : Manifest) :
    registerAll (first :: rest) manifest =
      match register first manifest with
      | .ok _ after => registerAll rest after
      | .error failure after => .error failure after := by
  rw [registerAll, Action.bind_apply]
  cases register first manifest <;> rfl

/-- Registering two lists is registering the second where the first leaves off. -/
theorem registerAll_append (first second : List Dependency) (manifest : Manifest) :
    registerAll (first ++ second) manifest =
      match registerAll first manifest with
      | .ok _ between => registerAll second between
      | .error failure left => .error failure left := by
  induction first generalizing manifest with
  | nil => rw [List.nil_append, registerAll_nil]
  | cons dependency rest ih =>
    rw [List.cons_append, registerAll_cons, registerAll_cons]
    cases register dependency manifest with
    | error failure left => rfl
    | ok changed between => exact ih between

/-- A list of dependencies is registered if its first one is and then the others are. -/
theorem registerAll_cons_eq_ok {first : Dependency} {rest : List Dependency} {manifest after : Manifest}
    (run : registerAll (first :: rest) manifest = .ok () after) :
    ∃ changed between, register first manifest = .ok changed between ∧ registerAll rest between = .ok () after := by
  rw [registerAll_cons] at run
  cases registered : register first manifest with
  | error failure left => simp [registered] at run
  | ok changed between => exact ⟨changed, between, rfl, by simpa [registered] using run⟩

/-- A list that is registered in full is registered in its first part and then in its second. -/
theorem registerAll_append_eq_ok {first second : List Dependency} {manifest after : Manifest}
    (run : registerAll (first ++ second) manifest = .ok () after) :
    ∃ between, registerAll first manifest = .ok () between ∧ registerAll second between = .ok () after := by
  rw [registerAll_append] at run
  cases registered : registerAll first manifest with
  | error failure left => simp [registered] at run
  | ok _ between => exact ⟨between, rfl, by simpa [registered] using run⟩

/-- An inline module whose key is new is stored once all that it declares is registered. -/
theorem register_inline_eq_ok {definition : InlineDependency} {manifest after : Manifest} {changed : Bool}
    (absent : manifest.contains definition.key = false)
    (run : register (.inline definition) manifest = .ok changed after) :
    ∃ brought, registerAll definition.extras manifest = .ok () brought ∧
      after = Keyed.put brought (.inline definition) := by
  rw [register_inline, if_neg (by simp [absent])] at run
  split at run <;> cases run
  exact ⟨_, by assumption, rfl⟩

/-- A merge that succeeds registers every entry. -/
theorem merge_eq_ok {other manifest after : Manifest} (run : merge other manifest = .ok () after) :
    registerAll other.items manifest = .ok () after := by
  rw [merge] at run
  split at run <;> cases run
  assumption

/-- A merge that fails leaves the manifest as it was where the registration of an entry failed. -/
theorem merge_eq_error {other manifest left : Manifest} {failure : CodegenError}
    (run : merge other manifest = .error failure left) :
    left = manifest ∧ ∃ reached, registerAll other.items manifest = .error failure reached := by
  rw [merge] at run
  split at run <;> cases run
  exact ⟨rfl, _, by assumption⟩

/-- Whether an outcome of a registration lies between two sets of needs, where a failure is blamed on the larger. -/
def Bounded {Value : Type} (base top : Set Need) : EStateM.Result CodegenError Manifest Value → Prop
  | .ok _ after => base ⊆ after.needs ∧ after.needs ⊆ top
  | .error _ after => base ⊆ after.needs ∧ after.needs ⊆ top ∧ ¬ Agree top

/-- Registering a crate stores a declaration that adds what is registered, or fails because the places differ. -/
theorem registerCrate_cases (declaration : CrateDependency) (manifest : Manifest) :
    (∃ changed stored, registerCrate declaration manifest = .ok changed (Keyed.put manifest (.crate stored)) ∧
      needs (Keyed.put manifest (.crate stored)) = manifest.needs ∪ declaration.needs) ∨
    (∃ failure, registerCrate declaration manifest = .error failure manifest ∧
      ¬ Agree (manifest.needs ∪ declaration.needs)) := by
  rw [registerCrate_apply]
  split
  · rename_i absent
    refine .inl ⟨true, declaration, rfl, needs_put fun stored mem same => ?_⟩
    exact absurd same (crate?_eq_none_iff.mp absent stored mem)
  · rename_i existing found
    obtain ⟨mem, same⟩ := crate?_eq_some_iff.mp found
    have existingIn : existing.needs ⊆ manifest.needs := own_subset_needs mem
    split
    · rename_i conflict
      refine .inr ⟨_, rfl, fun agree => CrateDependency.merge?_eq_none_iff.mp conflict ?_⟩
      exact agree declaration.name existing.location declaration.location
        (.inl (existingIn (CrateDependency.located_mem_needs.mpr ⟨same.symm, rfl⟩)))
        (.inr (CrateDependency.located_mem_needs.mpr ⟨rfl, rfl⟩))
    · rename_i merged changed combined
      have combinedNeeds := CrateDependency.needs_of_merge? same combined
      have named := CrateDependency.name_of_merge? combined
      refine .inl ⟨_, merged, rfl, ?_⟩
      calc needs (Keyed.put manifest (.crate merged))
          = manifest.needs ∪ merged.needs := by
            refine needs_put fun stored memStored sameKey => ?_
            have equal := Keyed.eq_of_key_eq memStored mem (sameKey.trans (congrArg DependencyKey.crate named))
            rw [equal, Dependency.own, Dependency.own, combinedNeeds]
            exact Set.subset_union_left
        _ = manifest.needs ∪ declaration.needs := by
            rw [combinedNeeds, ← Set.union_assoc, Set.union_eq_self_of_subset_right existingIn]

variable {base top : Set Need} {manifest : Manifest}

/-- Registering a crate keeps the manifest between two sets of needs, and fails only if the larger one disagrees. -/
theorem registerCrate_bounds {declaration : CrateDependency} (new : declaration.needs ⊆ top)
    (lower : base ⊆ manifest.needs) (upper : manifest.needs ⊆ top) :
    Bounded base top (registerCrate declaration manifest) := by
  have together : manifest.needs ∪ declaration.needs ⊆ top := Set.union_subset upper new
  obtain ⟨changed, stored, run, after⟩ | ⟨failure, run, conflict⟩ := registerCrate_cases declaration manifest
  · rw [run, Bounded, after]
    exact ⟨Set.subset_union_of_subset_left lower _, together⟩
  · rw [run]
    exact ⟨lower, upper, fun agree => conflict (agree.mono together)⟩

mutual

/-- Registration keeps what the manifest says, adds only what the dependency says, and fails only on a conflict. -/
theorem register_bounds : ∀ {dependency : Dependency} {manifest : Manifest}, dependency.needs ⊆ top →
    base ⊆ manifest.needs → manifest.needs ⊆ top → Bounded base top (register dependency manifest)
  | .crate declaration, manifest, new, lower, upper => by
    rw [register_crate]
    rw [Dependency.needs_crate] at new
    exact registerCrate_bounds new lower upper
  | .inline ⟨name, moduleName, extras, renderer⟩, manifest, new, lower, upper => by
    rw [Dependency.needs_inline, Set.insert_subset_iff] at new
    rw [register_inline]
    split
    · exact ⟨lower, upper⟩
    · have bounds := registerAll_bounds new.2 lower upper
      split <;> rename_i run <;> rw [run] at bounds
      · refine ⟨?_, ?_⟩ <;> rw [needs_put_inline]
        · exact bounds.1.trans (Set.subset_insert _ _)
        · exact Set.insert_subset new.1 bounds.2
      · exact bounds

/-- Registering dependencies in order keeps the manifest between two sets of needs, and fails only if the larger one
disagrees. -/
theorem registerAll_bounds : ∀ {dependencies : List Dependency} {manifest : Manifest},
    Dependency.needsOfAll dependencies ⊆ top → base ⊆ manifest.needs → manifest.needs ⊆ top →
    Bounded base top (registerAll dependencies manifest)
  | [], manifest, _, lower, upper => by
    rw [registerAll_nil]
    exact ⟨lower, upper⟩
  | first :: rest, manifest, new, lower, upper => by
    rw [Dependency.needsOfAll, Set.union_subset_iff] at new
    have bounds : Bounded base top (register first manifest) := register_bounds new.1 lower upper
    rw [registerAll_cons]
    split <;> rename_i run <;> rw [run] at bounds
    · exact registerAll_bounds new.2 bounds.1 bounds.2
    · exact bounds

end

end Manifest

end Cratewright
