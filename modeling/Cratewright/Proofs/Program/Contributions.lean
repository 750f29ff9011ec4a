import Cratewright.Slot
import Cratewright.Proofs.Manifest.Confinement
import Cratewright.Proofs.Program.Shift
import Cratewright.Proofs.Writer.Splicing

/-!
# Contributions one after another

The contributions to a slot are run on one child writer. Where no crate is declared at two places, nothing that one of
them does matters to another, so the child holds the lines that each of them writes by itself, back to back.
-/

namespace Cratewright

open Text (Line)

namespace Writable

/-- The operations of a writable write what the writable writes. -/
theorem runAll_operations (writable : Writable) : runAll writable.operations = writable.run := by
  cases writable with
  | empty => rw [operations, Writable.run, runAll]
  | program operations => rw [Writable.operations, Writable.run]

/-- The operations of writables in a row write what inserting the writables one after another does. -/
theorem runAll_flatMap_operations (parts : List Writable) :
    runAll (parts.flatMap operations) = runAll (parts.map .insert) := by
  induction parts with
  | nil => rfl
  | cons part rest ih => rw [List.flatMap_cons, runAll_append, runAll_operations, ih, List.map_cons, runAll, Op.run]

/-- The operations of a writable mention its dependencies. -/
theorem programDependencies_operations (writable : Writable) :
    programDependencies writable.operations = writable.dependencies := by
  cases writable <;> rfl

/-- The operations of a writable mention its support items. -/
theorem programSupportItems_operations (writable : Writable) :
    programSupportItems writable.operations = writable.supportItems := by
  cases writable <;> rfl

/-- The operations of writables that are joined are those of each one in order. -/
theorem operations_concat (parts : List Writable) : (concat parts).operations = parts.flatMap operations := by
  rw [concat]
  split
  · rename_i nothing
    symm
    rw [operations, List.flatMap_eq_nil_iff]
    intro part mem
    cases part with
    | empty => rfl
    | program operations => exact absurd (List.all_eq_true.mp nothing _ mem) (by simp [isEmpty])
  · rfl

/-- Writables one after another are inserted one after another. -/
theorem run_concat (parts : List Writable) : (concat parts).run = runAll (parts.map .insert) := by
  rw [← runAll_operations, operations_concat, runAll_flatMap_operations]

/-- Writables one after another mention what each of them mentions. -/
theorem dependencies_concat (parts : List Writable) : (concat parts).dependencies = parts.flatMap dependencies := by
  rw [← programDependencies_operations, operations_concat]
  induction parts with
  | nil => rfl
  | cons first rest ih =>
    rw [List.flatMap_cons, List.flatMap_cons, programDependencies_append, ih, programDependencies_operations]

/-- Writables that are joined mention the support items of each one. -/
theorem supportItems_concat (parts : List Writable) : (concat parts).supportItems = parts.flatMap supportItems := by
  rw [← programSupportItems_operations, operations_concat]
  induction parts with
  | nil => rfl
  | cons first rest ih =>
    rw [List.flatMap_cons, List.flatMap_cons, programSupportItems_append, ih, programSupportItems_operations]

/-- The lines that a writable leaves on a fresh writer. -/
def linesAlone (config : RuntimeConfig) (modulePath : String) (writable : Writable) : List Line :=
  (stateAfter (writable.run (Writer.new config modulePath))).lines

/-- Whether a writable that succeeds leaves the level as it found it. -/
def KeepsLevel (writable : Writable) : Prop :=
  ∀ {writer after}, writable.run writer = .ok () after → after.level = writer.level

/-- What is indented is to be dedented again. -/
theorem keepsLevel_of_levelFrom {writable : Writable} (kept : ∀ level, writable.levelFrom none level = some level) :
    writable.KeepsLevel :=
  fun ran => level_of_run (kept _) ran

end Writable

/-- Whether a failure is that of the first writable to fail when writables are inserted one after another. -/
def FailsFirst (parts : List Writable) (writer : Writer) (failure : CodegenError) : Prop :=
  ∃ done part later reached stopped, parts = done ++ part :: later ∧
    runAll (done.map .insert) writer = .ok () reached ∧ part.run reached = .error failure stopped

/-- Where inserting writables fails, one of them is the first to fail, and the failure is its own. -/
theorem failsFirst_of_error {parts : List Writable} {writer after : Writer} {failure : CodegenError}
    (run : runAll (parts.map .insert) writer = .error failure after) : FailsFirst parts writer failure := by
  induction parts generalizing writer with
  | nil => cases run
  | cons part rest ih =>
    rw [List.map_cons, runAll, Op.run, Action.bind_apply] at run
    split at run
    · rename_i reached ran
      obtain ⟨done, failing, later, state, stopped, rfl, before, failed⟩ := ih run
      refine ⟨part :: done, failing, later, state, stopped, rfl, ?_, failed⟩
      rw [List.map_cons, runAll, Op.run, Action.bind_apply, ran]
      exact before
    · rename_i ran
      cases run
      exact ⟨[], part, rest, writer, after, rfl, rfl, ran⟩

section

variable {top : Set Need} {config : RuntimeConfig} {modulePath : String}

/-- Manifests that are confined to a set in which every crate lies at one place. -/
def Bond.confined (top : Set Need) (agree : Agree top) : Bond where
  Linked one other := one.Confined top ∧ other.Confined top
  Admits dependency := dependency.needs ⊆ top
  linked_empty := ⟨Manifest.confined_empty top, Manifest.confined_empty top⟩
  register := by
    rintro dependency one other changed after inside ⟨confined, confinedOther⟩ run
    obtain ⟨_, afterOne, runOne, confinedAfter⟩ := confined.register agree inside
    obtain ⟨changedOther, afterOther, runOther, confinedAfterOther⟩ := confinedOther.register agree inside
    cases run.symm.trans runOne
    exact ⟨changedOther, afterOther, runOther, confinedAfter, confinedAfterOther⟩
  merge := by
    rintro child ⟨confinedChild, -⟩
    constructor
    rintro one other ⟨⟩ after ⟨confined, confinedOther⟩ run
    obtain ⟨afterOne, runOne, confinedAfter⟩ := confined.merge agree confinedChild
    obtain ⟨afterOther, runOther, confinedAfterOther⟩ := confinedOther.merge agree confinedChild
    cases run.symm.trans runOne
    exact ⟨afterOther, runOther, confinedAfter, confinedAfterOther⟩

namespace Bond.Covers

variable {bond : Bond}

/-- What covers writables one after another covers each of them. -/
theorem of_concat {parts : List Writable}
    (covered : bond.Covers config (Writable.concat parts).dependencies (Writable.concat parts).supportItems) :
    ∀ part ∈ parts, bond.Covers config part.dependencies part.supportItems := by
  rw [Writable.dependencies_concat, Writable.supportItems_concat] at covered
  exact fun part mem => ⟨fun dependency found => covered.1 dependency (List.mem_flatMap.mpr ⟨part, mem, found⟩),
    fun item found => covered.2 item (List.mem_flatMap.mpr ⟨part, mem, found⟩)⟩

/-- What covers named arguments covers each of them. -/
theorem of_named {arguments : List (String × Argument)}
    (covered : bond.Covers config (namedArgumentDependencies arguments) (namedArgumentSupportItems arguments)) :
    ∀ pair ∈ arguments, bond.Covers config pair.2.dependencies pair.2.supportItems := by
  induction arguments with
  | nil => exact fun _ mem => nomatch mem
  | cons first rest ih =>
    obtain ⟨name, argument⟩ := first
    rw [namedArgumentDependencies, namedArgumentSupportItems, covers_append] at covered
    exact List.forall_mem_cons.mpr ⟨covered.1, ih covered.2⟩

end Bond.Covers

/-- Whether a writer of a module stands at the left margin with a confined manifest. -/
structure Flush (top : Set Need) (config : RuntimeConfig) (modulePath : String) (writer : Writer) : Prop where
  config : writer.config = config
  modulePath : writer.modulePath = modulePath
  level : writer.level = 0
  confined : writer.manifest.Confined top

/-- A new writer is flush. -/
theorem flush_new (top : Set Need) (config : RuntimeConfig) (modulePath : String) :
    Flush top config modulePath (Writer.new config modulePath) :=
  ⟨rfl, rfl, rfl, Manifest.confined_empty top⟩

/-- At the left margin a writable adds the lines that it leaves on a fresh writer. -/
theorem Writable.run_flush (agree : Agree top) {writable : Writable}
    (covered : (Bond.confined top agree).Covers config writable.dependencies writable.supportItems)
    {writer after : Writer} (flush : Flush top config modulePath writer) (ran : writable.run writer = .ok () after) :
    after.lines = writer.lines ++ writable.linesAlone config modulePath ∧
      (∀ line ∈ writable.linesAlone config modulePath, Text.Tidy line) ∧
      (after.level = 0 → Flush top config modulePath after) := by
  obtain ⟨level, reached⟩ := writable.exists_levelFrom_none writer.level
  obtain ⟨alone, ranAlone, shifted⟩ := (Writable.follows reached covered).of_ok
    (Bond.shifted_new writer flush.config flush.modulePath flush.level
      ⟨flush.confined, Manifest.confined_empty top⟩) ran
  have lines : writable.linesAlone config modulePath = alone.lines := by rw [linesAlone, ranAlone]; rfl
  have same : alone.lines.map (Writer.layOut 0) = alone.lines := by
    refine (List.map_congr_left fun line mem => ?_).trans (List.map_id _)
    rw [Writer.layOut_zero]
    exact (shifted.tidy line mem).trimmed
  rw [lines]
  refine ⟨shifted.written.trans (congrArg (writer.lines ++ ·) same), shifted.tidy, fun level => ?_⟩
  exact ⟨shifted.config.1, shifted.modulePath.1, level, shifted.linked.1⟩

/-- Writables that leave the level as they found it leave their lines back to back. -/
theorem runAll_insert_flush (agree : Agree top) {parts : List Writable}
    (covered : ∀ part ∈ parts, (Bond.confined top agree).Covers config part.dependencies part.supportItems)
    (keeps : ∀ part ∈ parts, part.KeepsLevel) {writer after : Writer} (flush : Flush top config modulePath writer)
    (ran : runAll (parts.map .insert) writer = .ok () after) :
    after.lines = writer.lines ++ parts.flatMap (·.linesAlone config modulePath) ∧
      (∀ line ∈ parts.flatMap (·.linesAlone config modulePath), Text.Tidy line) ∧
      Flush top config modulePath after := by
  induction parts generalizing writer with
  | nil =>
    cases ran
    exact ⟨(List.append_nil _).symm, (fun _ mem => nomatch mem), flush⟩
  | cons part rest ih =>
    rw [List.forall_mem_cons] at covered keeps
    rw [List.map_cons, runAll, Op.run, Action.bind_apply] at ran
    split at ran
    · rename_i between ranFirst
      obtain ⟨lines, tidy, settle⟩ := Writable.run_flush agree covered.1 flush ranFirst
      have flushBetween := settle ((keeps.1 ranFirst).trans flush.level)
      obtain ⟨linesRest, tidyRest, flushAfter⟩ := ih covered.2 keeps.2 flushBetween ran
      refine ⟨?_, List.forall_mem_append.mpr ⟨tidy, tidyRest⟩, flushAfter⟩
      rw [linesRest, lines, List.flatMap_cons, List.append_assoc]
    · cases ran

end

end Cratewright
