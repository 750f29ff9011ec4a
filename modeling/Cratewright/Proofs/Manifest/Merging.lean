import Cratewright.Proofs.Manifest.Reached
import Cratewright.Proofs.Text.Bytes

/-!
# The outcome of a merge

The entries of a manifest are registered in the order of their keys, crates before inline modules, so a merge meets the
places of all crates before it meets an inline module. If some crate lies at different places, the first one that is met
ends the merge; this needs no assumption. In a family nothing else ends it, and what comes out is found entry by entry.
Main statement: a merge fails exactly when a crate lies at different places, over the first such crate, and joins the
two manifests otherwise.
-/

namespace Cratewright

namespace DependencyKey

/-- The keys before that of a crate are those of crates with smaller names. -/
theorem eq_crate_of_lt {key : DependencyKey} {name : String} (before : compare key (.crate name) = .lt) :
    ∃ smaller, key = .crate smaller ∧ smaller < name := by
  cases key with
  | inline moduleName inner => cases before
  | crate smaller =>
    have names : (compare smaller name).then .eq = .lt := before
    rw [Ordering.then_eq] at names
    exact ⟨smaller, rfl, compareOfLessAndEq_eq_lt.mp names⟩

end DependencyKey

/-- Whether a declaration needs exactly what two declarations of its crate need, which lie at its place. -/
structure CrateDependency.Unites (declaration one other : CrateDependency) : Prop where
  name : declaration.name = one.name ∧ declaration.name = other.name
  location : declaration.location = one.location ∧ declaration.location = other.location
  features : ∀ feature, feature ∈ declaration.features.items ↔
    feature ∈ one.features.items ∨ feature ∈ other.features.items
  scope : declaration.scope = .compile ↔ one.scope = .compile ∨ other.scope = .compile

namespace Manifest

/-- Whether a crate lies at different places in two manifests. -/
def Clash (one other : Manifest) (name : String) : Prop :=
  ∃ existing incoming, one.crate? name = some existing ∧ other.crate? name = some incoming ∧
    existing.location ≠ incoming.location

/-- Whether an error names the crate that comes first, by the bytes of its name, among those that lie at different
places in two manifests, with its place in the first as the one that was there and its place in the second as the one
that came. -/
def Blames (one other : Manifest) (failure : CodegenError) : Prop :=
  ∃ name existing incoming, one.crate? name = some existing ∧ other.crate? name = some incoming ∧
    existing.location ≠ incoming.location ∧
    (∀ another, one.Clash other another → another ≠ name → Text.bytes name < Text.bytes another) ∧
    failure = .conflictingCrate name existing.location incoming.location

/-- Whether a manifest has the keys of two manifests, unites their declarations of the crates that both have, and has
every other entry as the one that has it does. -/
structure Joins (one other joined : Manifest) : Prop where
  keys : ∀ key, joined.contains key = true ↔ one.contains key = true ∨ other.contains key = true
  shared : ∀ name existing incoming, one.crate? name = some existing → other.crate? name = some incoming →
    ∃ united, joined.crate? name = some united ∧ united.Unites existing incoming
  others : ∀ key entry, one.get? key = some entry ∨ other.get? key = some entry →
    (∀ name, key = .crate name → ¬ (one.contains key = true ∧ other.contains key = true)) →
    joined.get? key = some entry

variable {one other joined : Manifest}

/-- Manifests that are not compatible disagree on the place of some crate. -/
theorem not_compatible_iff : ¬ other.Compatible one ↔ ∃ name, one.Clash other name := by
  constructor
  · intro incompatible
    rw [Compatible] at incompatible
    push Not at incompatible
    obtain ⟨incoming, listed, existing, there, same, apart⟩ := incompatible
    exact ⟨existing.name, existing, incoming, crate?_eq_some_iff.mpr ⟨mem_crates.mp there, rfl⟩,
      crate?_eq_some_iff.mpr ⟨mem_crates.mp listed, same⟩, apart.symm⟩
  · rintro ⟨name, existing, incoming, found, foundOther, apart⟩ compatible
    obtain ⟨mem, rfl⟩ := crate?_eq_some_iff.mp found
    obtain ⟨memOther, same⟩ := crate?_eq_some_iff.mp foundOther
    exact apart (compatible incoming (mem_crates.mpr memOther) existing (mem_crates.mpr mem) same).symm

/-- Whether a manifest has the crate of a dependency at a different place. -/
def refuses (manifest : Manifest) : Dependency → Bool
  | .crate incoming => (manifest.crate? incoming.name).any fun existing => existing.location ≠ incoming.location
  | .inline _ => false

/-- A manifest refuses exactly the crates that it has at a different place. -/
theorem refuses_iff {dependency : Dependency} :
    one.refuses dependency = true ↔
      ∃ existing incoming, dependency = .crate incoming ∧ one.crate? incoming.name = some existing ∧
        existing.location ≠ incoming.location := by
  cases dependency with
  | inline definition => simp [refuses]
  | crate incoming => simp [refuses, Option.any_eq_true]

/-- A crate at a different place is refused. -/
theorem registerCrate_of_refuses {existing incoming : CrateDependency}
    (found : one.crate? incoming.name = some existing) (apart : existing.location ≠ incoming.location) :
    registerCrate incoming one = .error (.conflictingCrate incoming.name existing.location incoming.location) one := by
  rw [registerCrate_apply, found]
  dsimp only
  rw [CrateDependency.merge?_eq_none_iff.mpr apart]

/-- A crate that lies at different places in two manifests is refused by each when it comes from the other. -/
theorem Clash.refused {name : String} (clash : one.Clash other name) :
    ∃ incoming, .crate incoming ∈ other.items ∧ incoming.name = name ∧ one.refuses (.crate incoming) = true := by
  obtain ⟨existing, incoming, found, foundOther, apart⟩ := clash
  obtain ⟨mem, rfl⟩ := crate?_eq_some_iff.mp foundOther
  exact ⟨incoming, mem, rfl, refuses_iff.mpr ⟨existing, incoming, rfl, found, apart⟩⟩

section

variable {before rest : List Dependency} {existing incoming : CrateDependency}

/-- Crates alone stand before a crate. -/
theorem crate_of_mem_before (split : other.items = before ++ .crate incoming :: rest) {dependency : Dependency}
    (mem : dependency ∈ before) : ∃ declaration, dependency = .crate declaration := by
  obtain ⟨-, -, ahead⟩ := List.pairwise_append.mp (split ▸ other.ascending)
  obtain ⟨smaller, named, -⟩ := DependencyKey.eq_crate_of_lt (ahead dependency mem _ List.mem_cons_self)
  cases dependency with
  | crate declaration => exact ⟨declaration, rfl⟩
  | inline definition => cases named

/-- The crates that stand behind a crate have larger names. -/
theorem name_lt_of_mem_behind (split : other.items = before ++ .crate incoming :: rest) {later : CrateDependency}
    (mem : .crate later ∈ rest) : incoming.name < later.name := by
  obtain ⟨-, behind, -⟩ := List.pairwise_append.mp (split ▸ other.ascending)
  obtain ⟨smaller, named, below⟩ := DependencyKey.eq_crate_of_lt ((List.pairwise_cons.mp behind).1 _ mem)
  cases named
  exact below

/-- What stands before a crate and is not refused is registered, and what was there stays. -/
theorem registerAll_before (split : other.items = before ++ .crate incoming :: rest)
    (accepted : ∀ dependency ∈ before, one.refuses dependency = false) :
    ∃ between, registerAll before one = .ok () between ∧ one.needs ⊆ between.needs := by
  have declared : ∀ need ∈ Dependency.needsOfAll before, ∃ declaration, .crate declaration ∈ before ∧
      need ∈ declaration.needs := by
    intro need found
    obtain ⟨dependency, mem, found⟩ := Dependency.mem_needsOfAll.mp found
    obtain ⟨declaration, rfl⟩ := crate_of_mem_before split mem
    exact ⟨declaration, mem, Dependency.needs_crate declaration ▸ found⟩
  have inside : Dependency.needsOfAll before ⊆ other.needs := by
    intro need found
    obtain ⟨declaration, mem, found⟩ := declared need found
    have listed : .crate declaration ∈ other.items := split ▸ List.mem_append_left _ mem
    exact own_subset_needs listed found
  have together : ∀ {name here there}, .located name here ∈ one.needs →
      .located name there ∈ Dependency.needsOfAll before → here = there := by
    intro name here there located found
    obtain ⟨stored, listed, rfl, rfl⟩ := located_mem_needs_iff.mp located
    obtain ⟨new, mem, named, rfl⟩ := declared _ found
    by_contra apart
    have refused : one.refuses (.crate new) = true :=
      refuses_iff.mpr ⟨stored, new, rfl, crate?_eq_some_iff.mpr ⟨mem_crates.mp listed, named⟩, apart⟩
    rw [accepted _ mem] at refused
    cases refused
  cases run : registerAll before one with
  | ok _ between => exact ⟨between, rfl, needs_subset_of_registerAll run⟩
  | error failure left =>
    -- A failure would put a crate at two places, but neither manifest does, nor do the two together.
    refine absurd ?_ (Family.not_agree_of_registerAll run)
    intro name here there found foundThere
    rcases found with old | new <;> rcases foundThere with oldThere | newThere
    · exact one.agree_needs name here there old oldThere
    · exact together old newThere
    · exact (together oldThere new).symm
    · exact other.agree_needs name here there (inside new) (inside newThere)

/-- The first crate that is refused ends a merge. -/
theorem merge_of_refused (split : other.items = before ++ .crate incoming :: rest)
    (accepted : ∀ dependency ∈ before, one.refuses dependency = false)
    (found : one.crate? incoming.name = some existing) (apart : existing.location ≠ incoming.location) :
    merge other one = .error (.conflictingCrate incoming.name existing.location incoming.location) one := by
  obtain ⟨between, run, grows⟩ := registerAll_before split accepted
  obtain ⟨mem, named⟩ := crate?_eq_some_iff.mp found
  have located : .located incoming.name existing.location ∈ one.needs := own_subset_needs mem ⟨named.symm, rfl⟩
  obtain ⟨stored, listed, named, placed⟩ := located_mem_needs_iff.mp (grows located)
  have refused := registerCrate_of_refuses (crate?_eq_some_iff.mpr ⟨mem_crates.mp listed, named⟩) (placed ▸ apart)
  rw [merge, split, registerAll_append, run]
  dsimp only
  rw [registerAll_cons, register_crate, refused, placed]

end

/-- A merge of manifests in which a crate lies at different places fails over the first such crate. -/
theorem merge_of_clash {name : String} (clash : one.Clash other name) :
    ∃ failure, merge other one = .error failure one ∧ one.Blames other failure := by
  obtain ⟨some_incoming, mem, -, refused⟩ := clash.refused
  obtain ⟨dependency, met⟩ := Option.isSome_iff_exists.mp (List.find?_isSome.mpr ⟨_, mem, refused⟩)
  obtain ⟨refused, before, rest, split, passed⟩ := List.find?_eq_some_iff_append.mp met
  obtain ⟨existing, incoming, rfl, found, apart⟩ := refuses_iff.mp refused
  have accepted : ∀ dependency ∈ before, one.refuses dependency = false := by simpa using passed
  have foundOther : other.crate? incoming.name = some incoming :=
    crate?_eq_some_iff.mpr ⟨split ▸ List.mem_append_right _ List.mem_cons_self, rfl⟩
  refine ⟨_, merge_of_refused split accepted found apart, incoming.name, existing, incoming, found, foundOther, apart,
    ?_, rfl⟩
  intro another clash different
  obtain ⟨later, mem, rfl, refused⟩ := clash.refused
  rw [split, List.mem_append, List.mem_cons] at mem
  rcases mem with mem | same | mem
  · rw [accepted _ mem] at refused
    cases refused
  · cases same
    exact absurd rfl different
  · exact Text.bytes_lt_iff.mpr (name_lt_of_mem_behind split mem)

end Manifest

namespace Family

variable {family : Family} {one other joined : Manifest}

/-- Under the name of a crate that both have, a merge unites the two declarations. -/
theorem Coherent.unites_of_merge (coherent : family.Coherent one) (coherentOther : family.Coherent other)
    (run : Manifest.merge other one = .ok () joined) {name : String} {existing incoming : CrateDependency}
    (found : one.crate? name = some existing) (foundOther : other.crate? name = some incoming) :
    ∃ united, joined.crate? name = some united ∧ united.Unites existing incoming := by
  have needs := coherent.needs_of_merge coherentOther run
  obtain ⟨mem, rfl⟩ := Manifest.crate?_eq_some_iff.mp found
  obtain ⟨memOther, named⟩ := Manifest.crate?_eq_some_iff.mp foundOther
  have located : .located existing.name existing.location ∈ joined.needs :=
    needs ▸ .inl (Manifest.own_subset_needs mem ⟨rfl, rfl⟩)
  obtain ⟨united, listed, same, -⟩ := Manifest.located_mem_needs_iff.mp located
  have memUnited : .crate united ∈ joined.items := Manifest.mem_crates.mp listed
  have union : ∀ need : Need, need.crateName? = some existing.name →
      (need ∈ united.needs ↔ need ∈ existing.needs ∨ need ∈ incoming.needs) := by
    intro need about
    rw [← Manifest.mem_needs_iff_of_crate memUnited (same ▸ about), needs, Set.mem_union,
      Manifest.mem_needs_iff_of_crate mem about, Manifest.mem_needs_iff_of_crate memOther (named ▸ about)]
  refine ⟨united, Manifest.crate?_eq_some_iff.mpr ⟨memUnited, same⟩, ⟨same, same.trans named.symm⟩, ⟨?_, ?_⟩, ?_, ?_⟩
  · exact ((union (.located existing.name existing.location) rfl).mpr (.inl ⟨rfl, rfl⟩)).2.symm
  · exact ((union (.located existing.name incoming.location) rfl).mpr (.inr ⟨named.symm, rfl⟩)).2.symm
  · intro feature
    simpa [same, named] using union (.featured existing.name feature) rfl
  · simpa [same, named] using union (.compiled existing.name) rfl

/-- An entry stays as it is where a merge brings nothing else about its crate. -/
theorem Coherent.mem_of_needs_eq_union {side rest : Manifest} (coherent : family.Coherent side)
    (coherentJoined : family.Coherent joined) (needs : joined.needs = side.needs ∪ rest.needs) {entry : Dependency}
    (mem : entry ∈ side.items) (alone : ∀ name, entry.key = .crate name → ¬ rest.contains entry.key = true) :
    entry ∈ joined.items := by
  cases entry with
  | inline definition =>
    have generated : .generated definition.key ∈ joined.needs := needs ▸ .inl (Manifest.own_subset_needs mem rfl)
    exact coherentJoined.stored (coherent.held _ mem) generated
  | crate declaration =>
    refine Manifest.crate_mem_of_mem_needs_iff mem fun need about => ?_
    rw [needs, Set.mem_union, or_iff_left]
    intro brought
    refine alone declaration.name rfl (Manifest.contains_iff_exists_need.mpr ⟨need, brought, ?_⟩)
    exact Need.key_of_crateName? about

/-- What a merge of manifests of a family comes to joins the two, entry by entry. -/
theorem Coherent.joins_of_merge (coherent : family.Coherent one) (coherentOther : family.Coherent other)
    (run : Manifest.merge other one = .ok () joined) : one.Joins other joined := by
  have needs := coherent.needs_of_merge coherentOther run
  have coherentJoined := coherent.merge coherentOther run
  constructor
  · intro key
    simp only [Manifest.contains_iff_exists_need, needs, Set.mem_union, or_and_right, exists_or]
  · intro name existing incoming found foundOther
    exact coherent.unites_of_merge coherentOther run found foundOther
  · intro key entry found alone
    rcases found with found | found <;> obtain ⟨mem, rfl⟩ := Keyed.get?_eq_some_iff.mp found
    · have present : one.contains entry.key = true := Keyed.contains_iff.mpr ⟨entry, mem, rfl⟩
      have stays : entry ∈ joined.items := coherent.mem_of_needs_eq_union coherentJoined needs mem
        fun name named there => alone name named ⟨present, there⟩
      exact Keyed.get?_eq_some_iff.mpr ⟨stays, rfl⟩
    · have present : other.contains entry.key = true := Keyed.contains_iff.mpr ⟨entry, mem, rfl⟩
      have stays : entry ∈ joined.items :=
        coherentOther.mem_of_needs_eq_union coherentJoined (needs.trans (Set.union_comm _ _)) mem
          fun name named here => alone name named ⟨here, present⟩
      exact Keyed.get?_eq_some_iff.mpr ⟨stays, rfl⟩

/-- A merge of reached manifests fails exactly when a crate lies at different places; it then leaves the manifest as it
was and names the first such crate. Otherwise it joins the two. -/
theorem merge_joins_or_blames (reached : Manifest.Reached family.Holds one)
    (reachedOther : Manifest.Reached family.Holds other) :
    ((∃ failure left, Manifest.merge other one = .error failure left) ↔ ∃ name, one.Clash other name) ∧
    (∀ failure left, Manifest.merge other one = .error failure left → left = one ∧ one.Blames other failure) ∧
    (∀ joined, Manifest.merge other one = .ok () joined → one.Joins other joined) := by
  have coherent := coherent_of_reached reached
  have coherentOther := coherent_of_reached reachedOther
  have clash_of_error : ∀ {failure left}, Manifest.merge other one = .error failure left →
      ∃ name, one.Clash other name := by
    intro failure left failed
    rw [← Manifest.not_compatible_iff, ← Manifest.agree_union_iff]
    exact coherentOther.not_agree_of_merge failed
  refine ⟨⟨?_, ?_⟩, ?_, ?_⟩
  · rintro ⟨failure, left, failed⟩
    exact clash_of_error failed
  · rintro ⟨name, clash⟩
    obtain ⟨failure, failed, -⟩ := Manifest.merge_of_clash clash
    exact ⟨failure, one, failed⟩
  · intro failure left failed
    obtain ⟨name, clash⟩ := clash_of_error failed
    obtain ⟨blamed, blames, names⟩ := Manifest.merge_of_clash clash
    cases failed.symm.trans blames
    exact ⟨rfl, names⟩
  · exact fun joined run => coherent.joins_of_merge coherentOther run

/-- The manifest that a module of the family brings. -/
def tracedManifest : Manifest := Manifest.after ∅ [.register (.inline traceModule)]

/-- A manifest that has both crates of `loggingManifest` at other places. -/
def divergingManifest : Manifest :=
  Manifest.after ∅ [.register (.crate (.directory "log" "../log")), .register (.crate (.directory "bytes" "../bytes"))]

/-- A merge that joins the modules of one family, and one that is blamed on the first of two crates. -/
theorem merge_loggingManifest :
    (∃ joined, Manifest.merge tracedManifest loggingManifest = .ok () joined ∧
      loggingManifest.Joins tracedManifest joined) ∧
    (∃ failure, Manifest.merge divergingManifest loggingManifest = .error failure loggingManifest ∧
      loggingManifest.Blames divergingManifest failure) := by
  constructor
  · have held : traceFamily.Holds (.inline traceModule) := List.mem_cons_of_mem _ List.mem_cons_self
    have reached : Manifest.Reached traceFamily.Holds tracedManifest := .register .empty held
    have outcome := merge_joins_or_blames reached_loggingManifest reached
    have succeeds : (Manifest.merge tracedManifest).succeeds loggingManifest = true := by decide +kernel
    obtain ⟨_, joined, run⟩ := Action.succeeds_eq_true_iff.mp succeeds
    exact ⟨joined, run, outcome.2.2 joined run⟩
  · have reached : Manifest.Reached traceFamily.Holds divergingManifest :=
      Manifest.Reached.empty.history (by simp [Manifest.Step.Admitted, Holds])
    have outcome := merge_joins_or_blames reached_loggingManifest reached
    have clash : loggingManifest.Clash divergingManifest "log" :=
      ⟨logCrate.withFeature "serde", .directory "log" "../log", by decide +kernel, by decide +kernel, by decide⟩
    obtain ⟨failure, left, failed⟩ := outcome.1.mpr ⟨"log", clash⟩
    obtain ⟨rfl, blames⟩ := outcome.2.1 failure left failed
    exact ⟨failure, failed, blames⟩

end Family

end Cratewright
