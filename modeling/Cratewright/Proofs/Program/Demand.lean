import Cratewright.Program.Run
import Cratewright.Proofs.Manifest.Union

/-!
# What an action demands of a manifest

Whether a step of a program can succeed at all, and what it needs when it does, is known before it is run: only a
crate at two places can make it fail besides. `Records` says so of an action, on manifests of a family, and what it
says composes. A child writer starts with no dependencies and is merged afterwards, and by
`records_fillWritten` it demands of its parent what its action demands of the child.
-/

namespace Cratewright

/-- Whether an action can succeed and what it needs if it does. -/
structure Demand where
  possible : Prop
  needs : Set Need

namespace Demand

/-- The demand of an action that always succeeds and records nothing. -/
def nothing : Demand := ⟨True, ∅⟩

/-- The demand of an action that always fails. -/
def impossible : Demand := ⟨False, ∅⟩

/-- The demand of one action after another. -/
def also (first second : Demand) : Demand := ⟨first.possible ∧ second.possible, first.needs ∪ second.needs⟩

@[simp] theorem also_nothing (demand : Demand) : demand.also nothing = demand := by simp [also, nothing]

@[simp] theorem nothing_also (demand : Demand) : nothing.also demand = demand := by simp [also, nothing]

end Demand

/-- A state that holds a manifest, and the states that are considered. -/
structure Ledger (State : Type) where
  manifest : State → Manifest
  Considers : State → Prop

variable {State Value Result : Type} {ledger : Ledger State} {demand further : Demand}

/-- Whether an action succeeds exactly where its demand can be met, and then records what it needs. -/
structure Records (ledger : Ledger State) (demand : Demand) (action : Action CodegenError State Value) : Prop where
  of_ok : ∀ {state value after}, ledger.Considers state → action state = .ok value after →
    demand.possible ∧ (ledger.manifest after).needs = (ledger.manifest state).needs ∪ demand.needs ∧
      ledger.Considers after
  of_error : ∀ {state failure after}, ledger.Considers state → action state = .error failure after →
    demand.possible → ¬ Agree ((ledger.manifest state).needs ∪ demand.needs)

namespace Records

/-- Returning a value records nothing. -/
theorem pure (value : Value) : Records ledger .nothing (pure value) where
  of_ok considered run := by
    cases run
    exact ⟨trivial, (Set.union_empty _).symm, considered⟩
  of_error _ run := nomatch run

/-- Failing demands what cannot be met. -/
theorem throw (failure : CodegenError) :
    Records ledger .impossible (throw failure : Action CodegenError State Value) where
  of_ok _ run := nomatch run
  of_error _ _ possible := possible.elim

/-- A change that leaves the manifest alone demands nothing. -/
theorem modify {change : State → State} (same : ∀ state, ledger.manifest (change state) = ledger.manifest state)
    (considers : ∀ state, ledger.Considers state → ledger.Considers (change state)) :
    Records ledger .nothing (modify change : Action CodegenError State PUnit) where
  of_ok {state _ _} considered run := by
    cases run
    exact ⟨trivial, by rw [same, Demand.nothing, Set.union_empty], considers state considered⟩
  of_error _ run := nomatch run

/-- An action in two steps demands what both steps demand. -/
theorem bind {first : Action CodegenError State Value} {second : Value → Action CodegenError State Result}
    (records : Records ledger demand first) (recordsAfter : ∀ value, Records ledger further (second value)) :
    Records ledger (demand.also further) (first >>= second) where
  of_ok {state value after} considered run := by
    rw [Action.bind_apply] at run
    split at run
    · rename_i between next ran
      obtain ⟨possible, needs, consideredNext⟩ := records.of_ok considered ran
      obtain ⟨possibleAfter, needsAfter, consideredAfter⟩ := (recordsAfter between).of_ok consideredNext run
      refine ⟨⟨possible, possibleAfter⟩, ?_, consideredAfter⟩
      rw [needsAfter, needs, Set.union_assoc]
      rfl
    · cases run
  of_error {state failure after} considered run := by
    rw [Action.bind_apply] at run
    rintro ⟨possible, possibleAfter⟩ agree
    split at run
    · rename_i between next ran
      obtain ⟨-, needs, consideredNext⟩ := records.of_ok considered ran
      refine (recordsAfter between).of_error consideredNext run possibleAfter ?_
      rwa [needs, Set.union_assoc]
    · rename_i ran
      exact records.of_error considered ran possible
        (agree.mono (Set.union_subset_union_right _ Set.subset_union_left))

/-- What is done with the result of an action demands nothing. -/
theorem map {action : Action CodegenError State Value} (records : Records ledger demand action)
    (change : Value → Result) : Records ledger demand (action >>= fun value => Pure.pure (change value)) := by
  simpa using records.bind fun value => Records.pure (change value)

/-- A first step that demands nothing does not count. -/
theorem after {first : Action CodegenError State Value} {second : Value → Action CodegenError State Result}
    (records : Records ledger .nothing first) (recordsAfter : ∀ value, Records ledger demand (second value)) :
    Records ledger demand (first >>= second) := by
  simpa using records.bind recordsAfter

/-- Only what an action does in the states that are considered counts. -/
theorem congr {action other : Action CodegenError State Value} (records : Records ledger demand other)
    (same : ∀ state, ledger.Considers state → action state = other state) : Records ledger demand action where
  of_ok considered run := records.of_ok considered (same _ considered ▸ run)
  of_error considered run := records.of_error considered (same _ considered ▸ run)

/-- An action succeeds from a state exactly where its demand can be met. -/
theorem succeeds_iff {action : Action CodegenError State Unit} (records : Records ledger demand action) {state : State}
    (considered : ledger.Considers state) :
    (∃ after, action state = .ok () after) ↔
      demand.possible ∧ Agree ((ledger.manifest state).needs ∪ demand.needs) := by
  constructor
  · rintro ⟨after, run⟩
    obtain ⟨possible, needs, -⟩ := records.of_ok considered run
    exact ⟨possible, needs ▸ Manifest.agree_needs _⟩
  · rintro ⟨possible, agree⟩
    cases run : action state with
    | ok _ after => exact ⟨after, rfl⟩
    | error failure after => exact absurd agree (records.of_error considered run possible)

end Records

namespace Family

variable {family : Family} {config : RuntimeConfig} {modulePath : String}

/-- The coherent manifests of a family. -/
def manifests (family : Family) : Ledger Manifest := ⟨id, family.Coherent⟩

/-- The writers of a module whose manifest is coherent. -/
def writers (family : Family) (config : RuntimeConfig) (modulePath : String) : Ledger Writer where
  manifest := Writer.manifest
  Considers writer := writer.config = config ∧ writer.modulePath = modulePath ∧ family.Coherent writer.manifest

/-- A new writer of a module is considered, as its manifest is empty. -/
theorem considers_new (family : Family) (config : RuntimeConfig) (modulePath : String) :
    (family.writers config modulePath).Considers (Writer.new config modulePath) :=
  ⟨rfl, rfl, family.coherent_empty⟩

/-- Registering a dependency of the family records all that it needs. -/
theorem records_register {dependency : Dependency} (held : family.Holds dependency) :
    Records family.manifests ⟨True, dependency.needs⟩ (Manifest.register dependency) where
  of_ok {manifest _ after} coherent run := by
    have coherentAfter := keeps_coherent_register held manifest coherent
    rw [run] at coherentAfter
    exact ⟨trivial, coherent.needs_of_register held run, coherentAfter⟩
  of_error _ run _ := not_agree_of_register run

/-- A registration demands of a writer what it demands of the writer's manifest. -/
theorem records_onManifest {registration : Registration Value}
    (records : Records family.manifests demand registration) :
    Records (family.writers config modulePath) demand (Writer.onManifest registration) where
  of_ok {writer _ _} considered run := by
    rw [Writer.onManifest] at run
    split at run <;> cases run
    rename_i ran
    obtain ⟨possible, needs, coherentAfter⟩ := records.of_ok considered.2.2 ran
    exact ⟨possible, needs, considered.1, considered.2.1, coherentAfter⟩
  of_error considered run := by
    rw [Writer.onManifest] at run
    split at run <;> cases run
    rename_i ran
    exact records.of_error considered.2.2 ran

/-- On a fresh writer an action leaves exactly what it demands. -/
theorem needs_of_new {action : Writing Unit} (records : Records (family.writers config modulePath) demand action)
    {child : Writer} (ran : action (Writer.new config modulePath) = .ok () child) :
    demand.possible ∧ child.manifest.needs = demand.needs ∧ family.Coherent child.manifest := by
  obtain ⟨possible, needs, -, -, coherent⟩ := records.of_ok (family.considers_new config modulePath) ran
  exact ⟨possible, by simpa [writers, Writer.new] using needs, coherent⟩

/-- What is written by a child writer demands of its parent what it demands of the child. -/
theorem records_fillWritten {action : Writing Unit} (records : Records (family.writers config modulePath) demand action)
    (leading : Text.Line) : Records (family.writers config modulePath) demand (Writer.fillWritten action leading) where
  of_ok {writer _ after} considered run := by
    obtain ⟨rfl, rfl, coherent⟩ := considered
    rw [Writer.fillWritten] at run
    split at run
    · cases run
    · rename_i child ran
      obtain ⟨possible, needs, coherentChild⟩ := needs_of_new records ran
      split at run <;> cases run
      rename_i manifest merged
      refine ⟨possible, ?_, rfl, rfl, coherent.merge coherentChild merged⟩
      rw [← needs]
      exact coherent.needs_of_merge coherentChild merged
  of_error {writer _ after} considered run possible := by
    obtain ⟨rfl, rfl, coherent⟩ := considered
    rw [Writer.fillWritten] at run
    split at run
    · rename_i ran
      have conflict := records.of_error (family.considers_new _ _) ran possible
      exact fun agree => conflict (agree.mono (by simp [writers, Writer.new]))
    · rename_i child ran
      obtain ⟨-, needs, coherentChild⟩ := needs_of_new records ran
      split at run <;> cases run
      rename_i merged
      rw [← needs]
      exact coherentChild.not_agree_of_merge merged

end Family

end Cratewright
