import Cratewright.Proofs.Program.Contributions

/-!
# What arguments fill in

An argument is run at the left margin of a writer that has written nothing yet, with a manifest in which every crate
lies at one place. `Unwritten` describes such a writer. Each kind of argument fills in one and the same thing on all of
them: a text itself, a reference its full path, and contributions to a slot their lines back to back, unless one of them
fails. None of them writes anything by itself.
-/

namespace Cratewright

open Text (Line)

/-- A generated module has a path. -/
theorem Reference.modulePath_generated_ne_empty (path name : String) : (generated path name).modulePath ≠ "" := by
  rw [generated]
  dsimp only
  split
  · decide
  · simp [localRoot]

/-- A known crate has a name. -/
theorem KnownCrate.name_ne_empty (config : RuntimeConfig) (known : KnownCrate) :
    (known.declaration config).name ≠ "" := by
  cases known <;> simp [declaration, RuntimeConfig.supportCrate, CrateDependency.directory, CrateDependency.registry]

/-- A support item has a module path under every configuration. -/
theorem SupportItem.modulePath_reference_ne_empty (config : RuntimeConfig) (item : SupportItem) :
    (item.reference config).modulePath ≠ "" := by
  have named := KnownCrate.name_ne_empty config item.owner
  rw [ne_eq, ← String.toList_inj, String.toList_empty] at named ⊢
  rw [reference]
  dsimp only
  split
  · simpa [CrateDependency.modulePath, String.toList_map] using named
  · simp

/-- A reference with a module path that names an item or carries a dependency resolves to its full path. -/
theorem Reference.resolve_of_ne_empty {reference : Reference} (path : reference.modulePath ≠ "")
    (marked : reference.name.isSome ∨ reference.dependency.isSome) (current : String) :
    reference.resolve current = .ok ⟨reference.fullPath, reference.dependency⟩ := by
  have elsewhere : ¬(reference.name.isNone && reference.dependency.isNone && reference.modulePath == current) := by
    rcases marked with marked | marked <;> simp [Option.isSome_iff_ne_none.mp marked]
  rw [resolve, if_neg (by simpa using path), if_neg elsewhere]

/-- Whether a writer stands at the left margin of an empty module, with a confined manifest. -/
def Unwritten (top : Set Need) (config : RuntimeConfig) (modulePath : String) (writer : Writer) : Prop :=
  Flush top config modulePath writer ∧ writer.lines = []

section

variable {top : Set Need} {config : RuntimeConfig} {modulePath : String}

/-- A text is filled in as it stands, without a fault. -/
theorem fills_text (literal : String) :
    Fills (Unwritten top config modulePath) none (.text literal) (Argument.text literal).filler := by
  rw [Argument.filler]
  exact fun _ => .pure _

/-- Registering inside the set succeeds. -/
theorem gives_register (agree : Agree top) {dependency : Dependency} (inside : dependency.needs ⊆ top) :
    Gives (Unwritten top config modulePath) none () (Writer.register dependency) where
  of_ok {writer _ _} unwritten run := by
    obtain ⟨_, manifest, ran, confined⟩ := unwritten.1.confined.register agree inside
    rw [Writer.register_apply, ran] at run
    cases run
    exact ⟨rfl, rfl, { unwritten.1 with confined }, unwritten.2⟩
  of_error {writer _ _} unwritten run := by
    obtain ⟨_, manifest, ran, confined⟩ := unwritten.1.confined.register agree inside
    rw [Writer.register_apply, ran] at run
    cases run

/-- A reference inside the set resolves to its path. -/
theorem gives_resolve (agree : Agree top) {target : Target} {path : String} {dependency : Option Dependency}
    (resolved : (target.referenceFor config modulePath).resolve modulePath = .ok ⟨path, dependency⟩)
    (inside : ∀ needed ∈ dependency, needed.needs ⊆ top) :
    Gives (Unwritten top config modulePath) none path target.resolve := by
  cases dependency with
  | none =>
    refine (Gives.pure path).congr fun writer unwritten => ?_
    rw [Target.resolve_apply, unwritten.1.config, unwritten.1.modulePath, resolved]
    rfl
  | some needed =>
    have registers : Gives (Unwritten top config modulePath) none () (Writer.register needed) :=
      gives_register agree (inside needed rfl)
    refine (registers.map fun _ => path).congr fun writer unwritten => ?_
    rw [Target.resolve_apply, unwritten.1.config, unwritten.1.modulePath, resolved]

/-- A reference inside the set fills in its full path. -/
theorem fills_target (agree : Agree top) {target : Target}
    (covered : (Bond.confined top agree).Covers config target.dependencies target.supportItems) {reference : Reference}
    (means : target.referenceFor config modulePath = reference) (path : reference.modulePath ≠ "")
    (marked : reference.name.isSome ∨ reference.dependency.isSome) :
    Fills (Unwritten top config modulePath) none (.reference reference.fullPath) (Argument.target target).filler := by
  subst means
  have inside : ∀ needed ∈ (target.referenceFor config modulePath).dependency, needed.needs ⊆ top :=
    fun _ carried => covered.admits_dependency carried
  have resolves := gives_resolve agree (Reference.resolve_of_ne_empty path marked modulePath) inside
  rw [Argument.filler]
  exact fun _ => resolves.map String.toList

/-- An item of the generated crate fills in its path. -/
theorem fills_generated (agree : Agree top) (path name : String)
    (covered : (Bond.confined top agree).Covers config (Target.fixed (.generated path name)).dependencies []) :
    Fills (Unwritten top config modulePath) none (.reference (Reference.generated path name).fullPath)
      (Argument.target (.fixed (.generated path name))).filler :=
  fills_target agree covered rfl (Reference.modulePath_generated_ne_empty path name) (.inl rfl)

/-- A support item fills in its path. -/
theorem fills_support (agree : Agree top) {item : SupportItem}
    (covered : (Bond.confined top agree).Covers config [] (Target.support item).supportItems) :
    Fills (Unwritten top config modulePath) none (.reference (item.reference config).fullPath)
      (Argument.target (.support item)).filler :=
  fills_target agree covered rfl (item.modulePath_reference_ne_empty config) (.inr rfl)

/-- An item of the module itself fills in its path. -/
theorem fills_own (agree : Agree top) (inside : modulePath ≠ "") (name : String) :
    Fills (Unwritten top config modulePath) none (.reference (Reference.fullPath ⟨some name, none, modulePath⟩))
      (Argument.target (.own name)).filler :=
  fills_target agree ⟨List.forall_mem_nil _, List.forall_mem_nil _⟩ rfl inside (.inl rfl)

/-- An action that leaves certain lines on a child, and a confined manifest, fills them in or fails as it does there. -/
theorem fills_fillWritten (agree : Agree top) {action : Writing Unit} {lines : List Line}
    (settles : ∀ {child}, action (Writer.new config modulePath) = .ok () child →
      child.lines = lines ∧ child.manifest.Confined top) :
    Fills (Unwritten top config modulePath) (action.failure? (Writer.new config modulePath)) (.slot lines)
      (Writer.fillWritten action) := by
  intro leading
  -- The child starts anew wherever the template stands, so one outcome serves every writer.
  cases ran : action (Writer.new config modulePath) with
  | ok _ child =>
    obtain ⟨rfl, confinedChild⟩ := settles ran
    have clean : action.failure? (Writer.new config modulePath) = none := Action.failure?_eq_none_iff.mpr ⟨_, _, ran⟩
    have fills : ∀ writer, Unwritten top config modulePath writer → ∃ manifest, manifest.Confined top ∧
        Writer.fillWritten action leading writer =
          .ok (Filling.inline leading (.slot child.lines)) { writer with manifest } := by
      rintro writer ⟨flush, -⟩
      obtain ⟨manifest, merged, confined⟩ := flush.confined.merge agree confinedChild
      refine ⟨manifest, confined, ?_⟩
      simp only [Writer.fillWritten, flush.config, flush.modulePath, ran, merged, Filling.inline]
    constructor
    · rintro writer text after unwritten run
      obtain ⟨manifest, confined, filled⟩ := fills writer unwritten
      cases filled.symm.trans run
      exact ⟨clean, rfl, { unwritten.1 with confined }, unwritten.2⟩
    · rintro writer failure after unwritten run
      obtain ⟨manifest, confined, filled⟩ := fills writer unwritten
      cases filled.symm.trans run
  | error failure stopped =>
    have failed : action.failure? (Writer.new config modulePath) = some failure :=
      Action.failure?_eq_some_iff.mpr ⟨_, ran⟩
    have fails : ∀ writer, Unwritten top config modulePath writer →
        Writer.fillWritten action leading writer = .error failure writer := by
      rintro writer ⟨flush, -⟩
      simp only [Writer.fillWritten, flush.config, flush.modulePath, ran]
    constructor
    · rintro writer text after unwritten run
      cases (fails writer unwritten).symm.trans run
    · rintro writer other after unwritten run
      cases (fails writer unwritten).symm.trans run
      exact ⟨failed, unwritten⟩

/-- Contributions fill in their lines, back to back, and fail as they do one after another. -/
theorem fills_contributions (agree : Agree top) {parts : List Writable}
    (covered : ∀ part ∈ parts, (Bond.confined top agree).Covers config part.dependencies part.supportItems)
    (keeps : ∀ part ∈ parts, part.KeepsLevel) :
    Fills (Unwritten top config modulePath)
      (Action.failure? (runAll (parts.map .insert)) (Writer.new config modulePath))
      (.slot (parts.flatMap (·.linesAlone config modulePath))) (Argument.writable (.concat parts)).filler := by
  rw [Argument.filler, Writable.run_concat]
  refine fills_fillWritten agree fun ran => ?_
  obtain ⟨lines, -, flush⟩ := runAll_insert_flush agree covered keeps (flush_new top config modulePath) ran
  exact ⟨lines, flush.confined⟩

end

end Cratewright
