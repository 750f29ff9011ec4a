import Cratewright.Manifest
import Cratewright.Proofs.Keyed
import Mathlib.Data.Set.Lattice

/-!
# What dependencies and manifests need

A manifest says four kinds of things about the generated crate: where a crate lies, which features of it are turned
on, whether the generated code itself uses it, and which inline modules are generated. `Manifest.needs` is the set of
these, and it forgets nothing but the renderers and declared extras of inline modules. Registering and merging become
unions of such sets; a set in which a crate lies at two places belongs to no manifest, by `agree_needs`.
-/

namespace Cratewright

/-- One thing that the generated crate needs. -/
inductive Need
  | located (name : String) (location : Location)
  | featured (name feature : String)
  | compiled (name : String)
  | generated (key : DependencyKey)

/-- The crate that a need is about. -/
def Need.crateName? : Need → Option String
  | .located name _ => some name
  | .featured name _ => some name
  | .compiled name => some name
  | .generated _ => none

/-- The key of the dependency that has a need. -/
def Need.key : Need → DependencyKey
  | .located name _ => .crate name
  | .featured name _ => .crate name
  | .compiled name => .crate name
  | .generated key => key

/-- A need that is about a crate has the key of that crate. -/
theorem Need.key_of_crateName? {need : Need} {name : String} (about : need.crateName? = some name) :
    need.key = .crate name := by
  cases need <;> cases about <;> rfl

/-- Whether every crate lies at one place. -/
def Agree (needs : Set Need) : Prop :=
  ∀ name one other, .located name one ∈ needs → .located name other ∈ needs → one = other

/-- If every crate lies at one place in a set, it does so in any part of the set. -/
theorem Agree.mono {needs others : Set Need} (agree : Agree others) (subset : needs ⊆ others) : Agree needs :=
  fun name one other mem memOther => agree name one other (subset mem) (subset memOther)

namespace CrateDependency

/-- What the declaration of a crate says. -/
def needs (declaration : CrateDependency) : Set Need :=
  {need | match need with
    | .located name location => name = declaration.name ∧ location = declaration.location
    | .featured name feature => name = declaration.name ∧ feature ∈ declaration.features.items
    | .compiled name => name = declaration.name ∧ declaration.scope = .compile
    | .generated _ => False}

variable {declaration : CrateDependency}

@[simp] theorem located_mem_needs {name : String} {location : Location} :
    .located name location ∈ declaration.needs ↔ name = declaration.name ∧ location = declaration.location := Iff.rfl

@[simp] theorem featured_mem_needs {name feature : String} :
    .featured name feature ∈ declaration.needs ↔ name = declaration.name ∧ feature ∈ declaration.features.items :=
  Iff.rfl

@[simp] theorem compiled_mem_needs {name : String} :
    .compiled name ∈ declaration.needs ↔ name = declaration.name ∧ declaration.scope = .compile := Iff.rfl

@[simp] theorem generated_not_mem_needs {key : DependencyKey} : .generated key ∉ declaration.needs := fun mem => mem

/-- All that a declaration says is about its crate. -/
theorem crateName?_of_mem_needs {need : Need} (mem : need ∈ declaration.needs) :
    need.crateName? = some declaration.name := by
  cases need with
  | located => exact congrArg some mem.1
  | featured => exact congrArg some mem.1
  | compiled => exact congrArg some mem.1
  | generated => exact absurd mem generated_not_mem_needs

/-- A declaration is determined by what it says. -/
theorem eq_of_needs_eq {other : CrateDependency} (same : declaration.needs = other.needs) : declaration = other := by
  have agrees : ∀ need, need ∈ declaration.needs ↔ need ∈ other.needs := Set.ext_iff.mp same
  obtain ⟨named, placed⟩ := (agrees (.located declaration.name declaration.location)).mp ⟨rfl, rfl⟩
  have features : declaration.features = other.features := by
    apply Keyed.ext_mem
    intro feature
    simpa [named] using agrees (.featured declaration.name feature)
  have scope : declaration.scope = other.scope := by
    have compiled := agrees (.compiled declaration.name)
    simp only [compiled_mem_needs, named, true_and] at compiled
    cases first : declaration.scope <;> cases second : other.scope <;> simp_all
  cases declaration
  cases other
  simp_all

end CrateDependency

namespace Features

variable {features others : Features}

/-- Features that are added one after another join those that were there. -/
theorem mem_foldl_extend {feature : String} (new : List String) (old : Features) (grown : Bool) :
    feature ∈ (new.foldl extend (old, grown)).1.items ↔ feature ∈ old.items ∨ feature ∈ new := by
  induction new generalizing old grown with
  | nil => simp
  | cons first rest ih =>
    rw [List.foldl_cons, extend, ih, Keyed.mem_put, List.mem_cons]
    by_cases same : feature = first <;> simp [same]

/-- The mark beside features that are added one after another is set once one of them was not there. -/
theorem grown_foldl_extend (new : List String) (old : Features) (grown : Bool) :
    (new.foldl extend (old, grown)).2 = true ↔ grown = true ∨ ∃ feature ∈ new, feature ∉ old.items := by
  induction new generalizing old grown with
  | nil => simp
  | cons first rest ih =>
    have present : old.contains first = true ↔ first ∈ old.items := by simp [Keyed.contains_iff]
    rw [List.foldl_cons, extend, ih, List.exists_mem_cons_iff, Bool.or_eq_true, Bool.not_eq_true', ← Bool.not_eq_true,
      present, or_assoc]
    -- Once the first feature is new, the mark is set, so that it is no matter what it hides of the others.
    by_cases known : first ∈ old.items
    · rw [Keyed.put_of_mem known]
    · simp [known]

/-- The features of either set, and no others. -/
theorem mem_union {feature : String} :
    feature ∈ (features.union others).1.items ↔ feature ∈ features.items ∨ feature ∈ others.items :=
  mem_foldl_extend others.items features false

/-- The features of either set are those of the first unless the mark is set. -/
theorem union_changed_iff : (features.union others).2 = true ↔ (features.union others).1 ≠ features := by
  have marked : (features.union others).2 = true ↔ ∃ feature ∈ others.items, feature ∉ features.items := by
    simpa [union] using grown_foldl_extend others.items features false
  have same : (features.union others).1 = features ↔ ∀ feature ∈ others.items, feature ∈ features.items := by
    constructor
    · intro equal feature mem
      exact equal ▸ mem_union.mpr (.inr mem)
    · intro within
      apply Keyed.ext_mem
      intro feature
      rw [mem_union]
      exact or_iff_left_of_imp (within feature)
  rw [marked, ne_eq, same]
  push Not
  rfl

end Features

namespace CrateDependency

variable {existing incoming merged : CrateDependency} {changed : Bool}

/-- Declarations of one crate combine exactly when they agree on its place. -/
theorem merge?_eq_none_iff : existing.merge? incoming = none ↔ existing.location ≠ incoming.location := by
  rw [merge?]
  split
  · dsimp only
    split <;> simp_all
  · simp_all

/-- What declarations of one crate combine to. -/
theorem merge?_eq_some_iff : existing.merge? incoming = some (merged, changed) ↔
    existing.location = incoming.location ∧
      merged = { existing with
        features := (existing.features.union incoming.features).1
        scope := if incoming.scope.precedes existing.scope then incoming.scope else existing.scope } ∧
      changed = (incoming.scope.precedes existing.scope || (existing.features.union incoming.features).2) := by
  rw [merge?]
  by_cases placed : existing.location = incoming.location
  · by_cases first : incoming.scope.precedes existing.scope = true
    · simp [placed, first, eq_comm]
    · simp [placed, first, eq_comm]
  · simp [placed]

/-- Combined declarations keep the name. -/
theorem name_of_merge? (combined : existing.merge? incoming = some (merged, changed)) :
    merged.name = existing.name := by
  obtain ⟨-, rfl, -⟩ := merge?_eq_some_iff.mp combined
  rfl

/-- The combined declaration says what the two declarations say. -/
theorem needs_of_merge? (same : existing.name = incoming.name)
    (combined : existing.merge? incoming = some (merged, changed)) :
    merged.needs = existing.needs ∪ incoming.needs := by
  obtain ⟨placed, rfl, -⟩ := merge?_eq_some_iff.mp combined
  ext need
  cases need with
  | located name place => simp [same, placed]
  | featured name feature => simp [same, Features.mem_union, and_or_left]
  | compiled name =>
    cases first : existing.scope <;> cases second : incoming.scope <;> simp [same, first, second, Scope.precedes]
  | generated key => simp

/-- The answer of a combination tells whether the declaration that was there has changed. -/
theorem changed_of_merge? (combined : existing.merge? incoming = some (merged, changed)) :
    changed = (merged != existing) := by
  obtain ⟨-, rfl, rfl⟩ := merge?_eq_some_iff.mp combined
  rw [Bool.eq_iff_iff, bne_iff_ne, Bool.or_eq_true, Features.union_changed_iff]
  cases existing with
  | mk name location scope features =>
    cases first : scope <;> cases second : incoming.scope <;> simp [Scope.precedes]

end CrateDependency

namespace Dependency

/-- What a dependency says by itself, without the dependencies that it declares. -/
def own : Dependency → Set Need
  | .crate declaration => declaration.needs
  | .inline definition => {.generated definition.key}

mutual

/-- What a dependency and all it declares say, at any depth. -/
def needs : Dependency → Set Need
  | .crate declaration => declaration.needs
  | .inline ⟨name, moduleName, extras, _⟩ => insert (.generated (.inline moduleName name)) (needsOfAll extras)

/-- What a list of dependencies and all they declare say. -/
def needsOfAll : List Dependency → Set Need
  | [] => ∅
  | dependency :: rest => dependency.needs ∪ needsOfAll rest

end

/-- A crate needs what its declaration says. -/
theorem needs_crate (declaration : CrateDependency) : (Dependency.crate declaration).needs = declaration.needs := by
  rw [needs]

/-- An inline module needs itself and what it declares. -/
theorem needs_inline (definition : InlineDependency) :
    (Dependency.inline definition).needs = insert (.generated definition.key) (needsOfAll definition.extras) := by
  rw [needs]
  rfl

/-- A list of dependencies needs what any of them needs. -/
theorem mem_needsOfAll {need : Need} {dependencies : List Dependency} :
    need ∈ needsOfAll dependencies ↔ ∃ dependency ∈ dependencies, need ∈ dependency.needs := by
  induction dependencies with
  | nil => simp [needsOfAll]
  | cons first rest ih => simp [needsOfAll, ih]

/-- A list in two parts needs what either part needs. -/
theorem needsOfAll_append (before behind : List Dependency) :
    needsOfAll (before ++ behind) = needsOfAll before ∪ needsOfAll behind := by
  ext need
  simp only [mem_needsOfAll, List.mem_append, or_and_right, exists_or, Set.mem_union]

/-- What a dependency says by itself is among what it needs. -/
theorem own_subset_needs (dependency : Dependency) : dependency.own ⊆ dependency.needs := by
  cases dependency with
  | crate declaration => rw [needs_crate]; rfl
  | inline definition =>
    rw [needs_inline, own, Set.singleton_subset_iff]
    exact Set.mem_insert ..

end Dependency

namespace Manifest

/-- What the entries of a manifest say. -/
def needs (manifest : Manifest) : Set Need := {need | ∃ dependency ∈ manifest.items, need ∈ dependency.own}

variable {manifest : Manifest}

/-- What an entry says by itself is among what its manifest says. -/
theorem own_subset_needs {dependency : Dependency} (mem : dependency ∈ manifest.items) :
    dependency.own ⊆ manifest.needs := fun _ found => ⟨dependency, mem, found⟩

@[simp] theorem needs_empty : (∅ : Manifest).needs = ∅ := by
  rw [Set.eq_empty_iff_forall_notMem]
  rintro need ⟨dependency, mem, -⟩
  cases mem

/-- A manifest says of each crate one place. -/
theorem agree_needs (manifest : Manifest) : Agree manifest.needs := by
  rintro name one other ⟨first, mem, found⟩ ⟨second, memSecond, foundSecond⟩
  cases first with
  | inline => simp [Dependency.own] at found
  | crate declaration =>
    cases second with
    | inline => simp [Dependency.own] at foundSecond
    | crate declared =>
      obtain ⟨rfl, rfl⟩ := found
      obtain ⟨same, rfl⟩ := foundSecond
      have equal := Keyed.eq_of_key_eq mem memSecond (by simp [Dependency.key, same])
      cases equal
      rfl

/-- The crates of a manifest are its entries that are crates. -/
theorem mem_crates {declaration : CrateDependency} :
    declaration ∈ manifest.crates ↔ .crate declaration ∈ manifest.items := by
  rw [crates, List.mem_filterMap]
  constructor
  · rintro ⟨dependency, mem, found⟩
    cases dependency <;> cases found
    exact mem
  · exact fun mem => ⟨_, mem, rfl⟩

/-- The inline modules of a manifest are its entries that are inline modules. -/
theorem mem_inlines {definition : InlineDependency} :
    definition ∈ manifest.inlines ↔ .inline definition ∈ manifest.items := by
  rw [inlines, List.mem_filterMap]
  constructor
  · rintro ⟨dependency, mem, found⟩
    cases dependency <;> cases found
    exact mem
  · exact fun mem => ⟨_, mem, rfl⟩

/-- A manifest says of a crate what the one declaration under its name says. -/
theorem mem_needs_iff_of_crate {declaration : CrateDependency} (mem : .crate declaration ∈ manifest.items) {need : Need}
    (about : need.crateName? = some declaration.name) : need ∈ manifest.needs ↔ need ∈ declaration.needs := by
  refine ⟨?_, fun found => own_subset_needs mem found⟩
  rintro ⟨dependency, memOther, found⟩
  cases dependency with
  | inline definition =>
    rw [Dependency.own, Set.mem_singleton_iff] at found
    rw [found] at about
    cases about
  | crate declared =>
    have named : declared.name = declaration.name :=
      Option.some.inj ((CrateDependency.crateName?_of_mem_needs found).symm.trans about)
    have equal := Keyed.eq_of_key_eq memOther mem (congrArg DependencyKey.crate named)
    cases equal
    exact found

/-- An inline module is generated exactly when its key is stored. -/
theorem generated_mem_needs {definition : InlineDependency} :
    .generated definition.key ∈ manifest.needs ↔ manifest.contains definition.key = true := by
  rw [Keyed.contains_iff]
  constructor
  · rintro ⟨dependency, mem, found⟩
    cases dependency with
    | crate => simp [Dependency.own] at found
    | inline stored =>
      simp only [Dependency.own, Set.mem_singleton_iff, Need.generated.injEq] at found
      exact ⟨_, mem, found.symm⟩
  · rintro ⟨dependency, mem, same⟩
    cases dependency with
    | crate declaration => simp [Dependency.key, InlineModule.key] at same
    | inline stored => exact ⟨_, mem, congrArg Need.generated same.symm⟩

/-- A key is stored exactly when the manifest says something under it. -/
theorem contains_iff_exists_need {key : DependencyKey} :
    manifest.contains key = true ↔ ∃ need ∈ manifest.needs, need.key = key := by
  rw [Keyed.contains_iff]
  constructor
  · rintro ⟨dependency, mem, rfl⟩
    cases dependency with
    | crate declaration =>
      exact ⟨.located declaration.name declaration.location, own_subset_needs mem ⟨rfl, rfl⟩, rfl⟩
    | inline definition => exact ⟨.generated definition.key, own_subset_needs mem rfl, rfl⟩
  · rintro ⟨need, ⟨dependency, mem, found⟩, rfl⟩
    refine ⟨dependency, mem, ?_⟩
    cases dependency with
    | inline definition =>
      cases found
      rfl
    | crate declaration =>
      cases need with
      | located => exact congrArg DependencyKey.crate found.1.symm
      | featured => exact congrArg DependencyKey.crate found.1.symm
      | compiled => exact congrArg DependencyKey.crate found.1.symm
      | generated => cases found

/-- The keys that are generated are those of the inline modules. -/
theorem generated_mem_needs_iff {key : DependencyKey} :
    .generated key ∈ manifest.needs ↔ ∃ definition ∈ manifest.inlines, definition.key = key := by
  constructor
  · rintro ⟨dependency, mem, found⟩
    cases dependency with
    | crate => cases found
    | inline definition =>
      cases found
      exact ⟨definition, mem_inlines.mpr mem, rfl⟩
  · rintro ⟨definition, mem, rfl⟩
    exact own_subset_needs (mem_inlines.mp mem) rfl

/-- Storing an entry that says at least what the entry it replaces said adds what it says. -/
theorem needs_put {dependency : Dependency}
    (covers : ∀ stored ∈ manifest.items, stored.key = dependency.key → stored.own ⊆ dependency.own) :
    needs (Keyed.put manifest dependency) = manifest.needs ∪ dependency.own := by
  ext need
  constructor
  · rintro ⟨stored, mem, found⟩
    rcases Keyed.mem_put.mp mem with rfl | ⟨mem, -⟩
    · exact .inr found
    · exact .inl ⟨stored, mem, found⟩
  · rintro (⟨stored, mem, found⟩ | found)
    · by_cases same : stored.key = dependency.key
      · exact ⟨dependency, Keyed.mem_put.mpr (.inl rfl), covers stored mem same found⟩
      · exact ⟨stored, Keyed.mem_put.mpr (.inr ⟨mem, same⟩), found⟩
    · exact ⟨dependency, Keyed.mem_put.mpr (.inl rfl), found⟩

/-- Storing an inline module adds that it is generated, and nothing else. -/
theorem needs_put_inline (definition : InlineDependency) :
    needs (Keyed.put manifest (.inline definition)) = insert (.generated definition.key) manifest.needs := by
  rw [needs_put, Dependency.own, Set.union_singleton]
  intro stored _ same
  cases stored with
  | crate declaration => simp [Dependency.key, InlineModule.key] at same
  | inline other =>
    have equal : other.key = definition.key := same
    simp [Dependency.own, equal]

/-- The declaration of a crate is the entry under its name. -/
theorem crate?_eq_some_iff {name : String} {declaration : CrateDependency} :
    manifest.crate? name = some declaration ↔ .crate declaration ∈ manifest.items ∧ declaration.name = name := by
  rw [crate?]
  constructor
  · intro found
    split at found <;> cases found
    rename_i stored
    obtain ⟨mem, same⟩ := Keyed.get?_eq_some_iff.mp stored
    exact ⟨mem, by simpa [Dependency.key] using same⟩
  · rintro ⟨mem, rfl⟩
    have stored : manifest.get? (.crate declaration.name) = some (.crate declaration) :=
      Keyed.get?_eq_some_iff.mpr ⟨mem, rfl⟩
    rw [stored]

/-- A crate that is not found has no entry under its key. -/
theorem crate?_eq_none_iff {name : String} :
    manifest.crate? name = none ↔ ∀ stored ∈ manifest.items, stored.key ≠ .crate name := by
  constructor
  · intro absent stored mem same
    cases stored with
    | crate declaration =>
      rw [crate?_eq_some_iff.mpr ⟨mem, by simpa [Dependency.key] using same⟩] at absent
      cases absent
    | inline definition => simp [Dependency.key, InlineModule.key] at same
  · intro absent
    cases found : manifest.crate? name with
    | none => rfl
    | some declaration =>
      obtain ⟨mem, rfl⟩ := crate?_eq_some_iff.mp found
      exact absurd rfl (absent _ mem)

/-- Whether no crate lies at different places in two manifests. -/
def Compatible (one other : Manifest) : Prop :=
  ∀ first ∈ one.crates, ∀ second ∈ other.crates, first.name = second.name → first.location = second.location

/-- A manifest says where a crate lies exactly if it has a declaration of the crate that does. -/
theorem located_mem_needs_iff {manifest : Manifest} {name : String} {location : Location} :
    .located name location ∈ manifest.needs ↔
      ∃ declaration ∈ manifest.crates, declaration.name = name ∧ declaration.location = location := by
  constructor
  · rintro ⟨dependency, mem, found⟩
    cases dependency with
    | inline => cases found
    | crate declaration => exact ⟨declaration, mem_crates.mpr mem, found.1.symm, found.2.symm⟩
  · rintro ⟨declaration, mem, rfl, rfl⟩
    exact own_subset_needs (mem_crates.mp mem) ⟨rfl, rfl⟩

/-- A declaration in one manifest is in every manifest that says the same of the crate. -/
theorem crate_mem_of_mem_needs_iff {other : Manifest} {declaration : CrateDependency}
    (mem : .crate declaration ∈ manifest.items)
    (same : ∀ need : Need, need.crateName? = some declaration.name → (need ∈ manifest.needs ↔ need ∈ other.needs)) :
    .crate declaration ∈ other.items := by
  have located : .located declaration.name declaration.location ∈ manifest.needs := own_subset_needs mem ⟨rfl, rfl⟩
  obtain ⟨stored, listed, named, -⟩ := located_mem_needs_iff.mp ((same _ rfl).mp located)
  have memStored : .crate stored ∈ other.items := mem_crates.mp listed
  have agrees : ∀ need : Need, need.crateName? = some declaration.name →
      (need ∈ declaration.needs ↔ need ∈ stored.needs) := by
    intro need about
    rw [← mem_needs_iff_of_crate mem about, same need about]
    exact mem_needs_iff_of_crate memStored (named ▸ about)
  have equal : declaration = stored := by
    apply CrateDependency.eq_of_needs_eq
    ext need
    constructor
    · exact fun found => (agrees need (CrateDependency.crateName?_of_mem_needs found)).mp found
    · exact fun found => (agrees need (named ▸ CrateDependency.crateName?_of_mem_needs found)).mpr found
  exact equal ▸ memStored

/-- Manifests are compatible exactly if what both say of the place of a crate is the same. -/
theorem compatible_iff {manifest other : Manifest} :
    manifest.Compatible other ↔ ∀ name here there, .located name here ∈ manifest.needs →
      .located name there ∈ other.needs → here = there := by
  constructor
  · intro compatible name here there located locatedOther
    obtain ⟨first, mem, named, rfl⟩ := located_mem_needs_iff.mp located
    obtain ⟨second, memOther, same, rfl⟩ := located_mem_needs_iff.mp locatedOther
    exact compatible first mem second memOther (named.trans same.symm)
  · intro agree first mem second memOther same
    refine agree first.name _ _ (located_mem_needs_iff.mpr ⟨first, mem, rfl, rfl⟩) ?_
    exact located_mem_needs_iff.mpr ⟨second, memOther, same.symm, rfl⟩

/-- Two manifests put no crate at two places together exactly when they are compatible. -/
theorem agree_union_iff {manifest other : Manifest} :
    Agree (manifest.needs ∪ other.needs) ↔ other.Compatible manifest := by
  rw [compatible_iff]
  constructor
  · exact fun agree name here there located locatedOther => agree name here there (.inr located) (.inl locatedOther)
  · intro apart name one two located locatedTwo
    rcases located with located | located <;> rcases locatedTwo with locatedTwo | locatedTwo
    · exact manifest.agree_needs name one two located locatedTwo
    · exact (apart name two one locatedTwo located).symm
    · exact apart name one two located locatedTwo
    · exact other.agree_needs name one two located locatedTwo

end Manifest

end Cratewright
