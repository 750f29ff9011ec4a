import Cratewright.Proofs.Manifest.Registration

/-!
# Manifests confined to a set of needs

Where every crate lies at one place, nothing can conflict. `Confined` says of a manifest that neither its entries nor
what they declare say anything outside a set of needs; if every crate of the set lies at one place, registrations and
merges inside the set succeed and stay inside, whatever inline modules share a key.
-/

namespace Cratewright

namespace Dependency

/-- Whether all that an inline module declares, at any depth, lies in a set of needs. -/
def DeclaresWithin (top : Set Need) : Dependency → Prop
  | .crate _ => True
  | .inline definition => needsOfAll definition.extras ⊆ top

variable {top : Set Need}

/-- A dependency that says nothing outside a set of needs declares nothing outside it. -/
theorem declaresWithin_of_needs_subset {dependency : Dependency} (inside : dependency.needs ⊆ top) :
    dependency.DeclaresWithin top := by
  cases dependency with
  | crate => trivial
  | inline definition =>
    rw [needs_inline, Set.insert_subset_iff] at inside
    exact inside.2

/-- Declaring nothing outside a set of needs passes from a module to what it declares. -/
theorem hereditary_declaresWithin (top : Set Need) : Hereditary (DeclaresWithin top) where
  crate := fun _ => trivial
  extra := fun inside extra declared =>
    declaresWithin_of_needs_subset fun _ found => inside (mem_needsOfAll.mpr ⟨extra, declared, found⟩)

end Dependency

namespace Manifest

/-- Whether a manifest and what its inline modules declare say nothing outside a set of needs. -/
structure Confined (top : Set Need) (manifest : Manifest) : Prop where
  declared : manifest.Every (·.DeclaresWithin top)
  needs : manifest.needs ⊆ top

variable {top : Set Need} {manifest other : Manifest}

/-- The empty manifest says nothing. -/
theorem confined_empty (top : Set Need) : Confined top ∅ := ⟨every_empty, by simp⟩

/-- What the entries of a confined manifest say, at any depth, lies in the set. -/
theorem Confined.needsOfAll_items (confined : manifest.Confined top) :
    Dependency.needsOfAll manifest.items ⊆ top := by
  intro need found
  obtain ⟨dependency, mem, found⟩ := Dependency.mem_needsOfAll.mp found
  cases dependency with
  | crate declaration =>
    rw [Dependency.needs_crate] at found
    exact confined.needs (own_subset_needs mem found)
  | inline definition =>
    rw [Dependency.needs_inline] at found
    rcases found with rfl | found
    · exact confined.needs (own_subset_needs mem rfl)
    · exact confined.declared _ mem found

/-- In a set where every crate lies at one place a registration succeeds. -/
theorem Confined.register (agree : Agree top) (confined : manifest.Confined top) {dependency : Dependency}
    (inside : dependency.needs ⊆ top) :
    ∃ changed after, Manifest.register dependency manifest = .ok changed after ∧ after.Confined top := by
  have bounds : Bounded ∅ top (Manifest.register dependency manifest) :=
    register_bounds inside (Set.empty_subset _) confined.needs
  have declared := keeps_every_register (Dependency.hereditary_declaresWithin top)
    (Dependency.declaresWithin_of_needs_subset inside) manifest confined.declared
  cases run : Manifest.register dependency manifest with
  | error failure after =>
    rw [run] at bounds
    exact absurd agree bounds.2.2
  | ok changed after =>
    rw [run] at bounds declared
    exact ⟨changed, after, rfl, declared, bounds.2⟩

/-- In a set where every crate lies at one place a merge succeeds. -/
theorem Confined.merge (agree : Agree top) (confined : manifest.Confined top) (confinedOther : other.Confined top) :
    ∃ after, Manifest.merge other manifest = .ok () after ∧ after.Confined top := by
  have bounds : Bounded ∅ top (registerAll other.items manifest) :=
    registerAll_bounds confinedOther.needsOfAll_items (Set.empty_subset _) confined.needs
  have declared := keeps_every_registerAll (Dependency.hereditary_declaresWithin top) confinedOther.declared
    manifest confined.declared
  rw [Manifest.merge]
  cases run : registerAll other.items manifest with
  | error failure after =>
    rw [run] at bounds
    exact absurd agree bounds.2.2
  | ok _ after =>
    rw [run] at bounds declared
    exact ⟨after, rfl, declared, bounds.2⟩

end Manifest

end Cratewright
