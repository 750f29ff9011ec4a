import Cratewright.Action
import Cratewright.Dependency
import Cratewright.Error

/-!
# Manifests

A manifest holds the dependencies of a generated module, one per key. Registering a crate again combines its
declarations; registering an inline module brings the dependencies it declares and then the module itself, and has no
effect if its key is present. A registration that fails keeps what it had registered before, a merge that fails keeps
nothing. Main statement: what every registered dependency has in common with all it declares, at any depth, every
item of the manifest has.
-/

namespace Cratewright

/-- Dependencies, one per key, in the order of their keys. -/
abbrev Manifest := Keyed Dependency.key

/-- An action on a manifest. -/
abbrev Registration := Action CodegenError Manifest

namespace Manifest

/-- The declaration of a crate in a manifest. -/
def crate? (manifest : Manifest) (name : String) : Option CrateDependency :=
  match manifest.get? (.crate name) with
  | some (.crate declaration) => some declaration
  | _ => none

/-- The crates of a manifest. -/
def crates (manifest : Manifest) : List CrateDependency :=
  manifest.items.filterMap fun
    | .crate declaration => some declaration
    | .inline _ => none

/-- The inline modules of a manifest. -/
def inlines (manifest : Manifest) : List InlineDependency :=
  manifest.items.filterMap fun
    | .crate _ => none
    | .inline definition => some definition

/-- Whether two manifests count as equal, where dependencies are compared by `Dependency.same`. -/
def same (one other : Manifest) : Bool := one.items.isEqv other.items Dependency.same

/-- Registers a crate; the result tells whether the manifest changed. -/
def registerCrate (declaration : CrateDependency) : Registration Bool := do
  match (← get).crate? declaration.name with
  | none =>
    modify (·.put (.crate declaration))
    return true
  | some existing =>
    match existing.merge? declaration with
    | none => throw (.conflictingCrate declaration.name existing.location declaration.location)
    | some (merged, changed) =>
      modify (·.put (.crate merged))
      return changed

mutual

/-- Registers a dependency; the result tells whether the manifest changed. -/
def register : Dependency → Registration Bool
  | .crate declaration => registerCrate declaration
  | .inline ⟨name, moduleName, extras, renderer⟩ => do
    if (← get).contains (.inline moduleName name) then
      return false
    registerAll extras
    modify (·.put (.inline ⟨name, moduleName, extras, renderer⟩))
    return true

/-- Registers dependencies in order. -/
def registerAll : List Dependency → Registration Unit
  | [] => return
  | dependency :: rest => do
    let _ ← register dependency
    registerAll rest

end

/-- Registers every dependency of another manifest, or leaves the manifest as it was. -/
def merge (other : Manifest) : Registration Unit := fun manifest =>
  match registerAll other.items manifest with
  | .ok _ merged => .ok () merged
  | .error failure _ => .error failure manifest

end Manifest

/-- Whether every inline key in a dependency, at any depth, is one of the given keys. -/
def Dependency.Within (allowed : List DependencyKey) (dependency : Dependency) : Prop :=
  ∀ key ∈ dependency.inlineKeys, key ∈ allowed

/-- A crate has no inline keys, so any keys are enough for it. -/
theorem Dependency.within_crate (allowed : List DependencyKey) (declaration : CrateDependency) :
    (Dependency.crate declaration).Within allowed := by
  simp [Within, inlineKeys]

/-- A dependency of a list stays within the inline keys of the list. -/
theorem Dependency.within_inlineKeysOfAll {dependencies : List Dependency} {dependency : Dependency}
    (mem : dependency ∈ dependencies) : dependency.Within (inlineKeysOfAll dependencies) :=
  fun _ found => mem_inlineKeysOfAll.mpr ⟨dependency, mem, found⟩

/-- A module that stays within some keys has its own key among them. -/
theorem Dependency.Within.key_mem {allowed : List DependencyKey} {definition : InlineDependency}
    (within : (Dependency.inline definition).Within allowed) : definition.key ∈ allowed :=
  within _ (key_mem_inlineKeys definition)

/-- What a module declares stays within the keys that the module stays within. -/
theorem Dependency.Within.extra {allowed : List DependencyKey} {definition : InlineDependency}
    (within : (Dependency.inline definition).Within allowed) {extra : Dependency}
    (mem : extra ∈ definition.extras) : extra.Within allowed := by
  intro key found
  refine within key ?_
  rw [inlineKeys]
  exact List.mem_cons_of_mem _ (mem_inlineKeysOfAll.mpr ⟨extra, mem, found⟩)

/-- A property of dependencies that every crate has and that an inline module shares with what it declares. -/
structure Dependency.Hereditary (property : Dependency → Prop) : Prop where
  crate : ∀ declaration, property (.crate declaration)
  extra : ∀ {definition : InlineDependency}, property (.inline definition) →
    ∀ extra ∈ definition.extras, property extra

/-- Staying within some keys passes from a module to what it declares. -/
theorem Dependency.hereditary_within (allowed : List DependencyKey) :
    Dependency.Hereditary (·.Within allowed) where
  crate := within_crate allowed
  extra := fun within _ mem => within.extra mem

namespace Manifest

/-- A property of manifests that the empty one has and that survives the registration of admitted dependencies,
completed or not. What a manifest with the property holds is admitted. -/
structure Invariant where
  Holds : Manifest → Prop
  Admits : Dependency → Prop
  holds_empty : Holds ∅
  admits_crate : ∀ declaration, Admits (.crate declaration)
  admits_item : ∀ {manifest : Manifest}, Holds manifest → ∀ dependency ∈ manifest.items, Admits dependency
  keeps_register : ∀ {dependency}, Admits dependency → Keeps Holds (register dependency)

namespace Invariant

variable (invariant : Invariant)

/-- Registering admitted dependencies in order keeps the property. -/
theorem keeps_registerAll {dependencies : List Dependency}
    (admitted : ∀ dependency ∈ dependencies, invariant.Admits dependency) :
    Keeps invariant.Holds (registerAll dependencies) := by
  induction dependencies with
  | nil =>
    rw [registerAll]
    exact .pure _
  | cons first rest ih =>
    have ⟨admittedFirst, admittedRest⟩ := List.forall_mem_cons.mp admitted
    rw [registerAll]
    exact .bind (invariant.keeps_register admittedFirst) fun _ => ih admittedRest

/-- Merging a manifest with the property keeps the property. -/
theorem keeps_merge {other : Manifest} (holds : invariant.Holds other) : Keeps invariant.Holds (merge other) := by
  intro manifest before
  have kept := invariant.keeps_registerAll (invariant.admits_item holds) manifest before
  unfold merge
  split
  · rename_i run
    rw [run] at kept
    exact kept
  · exact before

end Invariant

/-- Whether every dependency that a manifest holds has a property. -/
def Every (property : Dependency → Prop) (manifest : Manifest) : Prop :=
  ∀ dependency ∈ manifest.items, property dependency

variable {property : Dependency → Prop}

/-- The empty manifest has no item that could lack a property. -/
theorem every_empty : Every property ∅ := fun _ mem => nomatch mem

/-- A property of all items is kept by storing an item that has it. -/
theorem Every.put {manifest : Manifest} {dependency : Dependency} (every : manifest.Every property)
    (new : property dependency) : Every property (Keyed.put manifest dependency) := by
  intro found mem
  rcases Keyed.mem_of_mem_put mem with rfl | mem
  · exact new
  · exact every found mem

/-- Registering a crate keeps a property of all items, whether declarations combine or disagree. -/
theorem keeps_every_registerCrate (hereditary : Dependency.Hereditary property) (declaration : CrateDependency) :
    Keeps (Every property) (registerCrate declaration) := by
  unfold registerCrate
  refine .bind .get fun manifest => ?_
  split
  · exact .bind (.modify fun _ every => every.put (hereditary.crate _)) fun _ => .pure _
  · split
    · exact .throw _
    · exact .bind (.modify fun _ every => every.put (hereditary.crate _)) fun _ => .pure _

mutual

/-- Registration brings only dependencies that share the property of the one that is registered. -/
theorem keeps_every_register (hereditary : Dependency.Hereditary property) :
    ∀ {dependency : Dependency}, property dependency → Keeps (Every property) (register dependency)
  | .crate declaration, _ => by
    rw [register]
    exact keeps_every_registerCrate hereditary declaration
  | .inline ⟨name, moduleName, extras, renderer⟩, new => by
    rw [register]
    refine .bind .get fun manifest => ?_
    split
    · exact .pure _
    · exact .bind (keeps_every_registerAll hereditary (hereditary.extra new)) fun _ =>
        .bind (.modify fun _ every => every.put new) fun _ => .pure _

/-- Registering dependencies that have the property keeps it for all items. -/
theorem keeps_every_registerAll (hereditary : Dependency.Hereditary property) : ∀ {dependencies : List Dependency},
    (∀ dependency ∈ dependencies, property dependency) → Keeps (Every property) (registerAll dependencies)
  | [], _ => by
    rw [registerAll]
    exact .pure _
  | first :: rest, new => by
    rw [registerAll]
    exact .bind (keeps_every_register hereditary (new first List.mem_cons_self)) fun _ =>
      keeps_every_registerAll hereditary fun dependency mem => new dependency (List.mem_cons_of_mem _ mem)

end

/-- Whatever has the property is admitted, and then every item of the manifest has it. -/
def Invariant.every (hereditary : Dependency.Hereditary property) : Invariant where
  Holds := Every property
  Admits := property
  holds_empty := every_empty
  admits_crate := hereditary.crate
  admits_item := id
  keeps_register := keeps_every_register hereditary

/-- Whether every inline key in a manifest, at any depth, is one of the given keys. -/
abbrev Within (allowed : List DependencyKey) : Manifest → Prop := Every (·.Within allowed)

end Manifest

end Cratewright
