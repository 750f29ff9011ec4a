import Cratewright.Proofs.Program.Level
import Cratewright.Proofs.Program.Mentions
import Cratewright.Proofs.Writer.Emission

/-!
# Programs on two writers

What a program writes depends on the configuration, the module and the level of its writer, and on nothing else: not on
the lines that are there, and not on the dependencies, as long as no registration fails. `Shifted` relates a writer to
a second one that started empty, some levels lower and with dependencies of its own; a `Bond` says how the dependencies
of the two are related. Main statement: a program that succeeds on the first writer, and does not fall below the level
at which the second one starts from zero, succeeds on the second and writes the same lines so many levels lower.
-/

namespace Cratewright

open Text (Line)
open Template (Arguments AssignedLine Piece)

section

variable {State Value Result : Type} {before between after : State → State → Prop}

/-- Whether an action that succeeds on the first of two related states succeeds on the second, with the same result,
and leaves them related. -/
structure Follows (before after : State → State → Prop) (action : Action CodegenError State Value) : Prop where
  of_ok : ∀ {one other value next}, before one other → action one = .ok value next →
    ∃ further, action other = .ok value further ∧ after next further

namespace Follows

/-- Returning a value leaves related states related. -/
theorem pure (value : Value) : Follows before before (pure value : Action CodegenError State Value) where
  of_ok {_ other _ _} related run := by
    cases run
    exact ⟨other, rfl, related⟩

/-- A failure on the first of two related states asks nothing of the second. -/
theorem throw (failure : CodegenError) :
    Follows before after (throw failure : Action CodegenError State Value) where
  of_ok _ run := nomatch run

/-- A change succeeds on both of two related states, and leaves them related if it takes related states to such. -/
theorem modify {change : State → State} (kept : ∀ one other, before one other → after (change one) (change other)) :
    Follows before after (modify change : Action CodegenError State PUnit) where
  of_ok {one other _ _} related run := by
    cases run
    exact ⟨change other, rfl, kept one other related⟩

/-- Actions one after another succeed on both of two related states if each of them does. -/
theorem bind {first : Action CodegenError State Value} {second : Value → Action CodegenError State Result}
    (follows : Follows before between first) (onward : ∀ value, Follows between after (second value)) :
    Follows before after (first >>= second) where
  of_ok {one other result next} related run := by
    rw [Action.bind_apply] at run
    split at run
    · rename_i value midway ran
      obtain ⟨midwayOther, ranOther, relatedMidway⟩ := follows.of_ok related ran
      obtain ⟨nextOther, runOther, relatedNext⟩ := (onward value).of_ok relatedMidway run
      refine ⟨nextOther, ?_, relatedNext⟩
      rw [Action.bind_apply, ranOther]
      exact runOther
    · cases run

end Follows

end

/-- A relation between the manifests of two writers of one program, and the dependencies that keep it. -/
structure Bond where
  Linked : Manifest → Manifest → Prop
  Admits : Dependency → Prop
  linked_empty : Linked ∅ ∅
  register : ∀ {dependency one other changed after}, Admits dependency → Linked one other →
    Manifest.register dependency one = .ok changed after →
    ∃ changedOther afterOther, Manifest.register dependency other = .ok changedOther afterOther ∧
      Linked after afterOther
  merge : ∀ {child}, Linked child child → Follows Linked Linked (Manifest.merge child)

namespace Bond

/-- Whether a bond admits all that is mentioned under a configuration. -/
def Covers (bond : Bond) (config : RuntimeConfig) (dependencies : List Dependency) (items : List SupportItem) : Prop :=
  (∀ dependency ∈ dependencies, bond.Admits dependency) ∧
    ∀ item ∈ items, bond.Admits (.crate (item.owner.declaration config))

/-- A bond covers what is mentioned in two parts if it covers either part. -/
theorem covers_append {bond : Bond} {config : RuntimeConfig} {dependencies further : List Dependency}
    {items others : List SupportItem} :
    bond.Covers config (dependencies ++ further) (items ++ others) ↔
      bond.Covers config dependencies items ∧ bond.Covers config further others := by
  simp only [Covers, List.forall_mem_append]
  exact and_and_and_comm

/-- Whatever a covered target carries with it is admitted. -/
theorem Covers.admits_dependency {bond : Bond} {config : RuntimeConfig} {target : Target} {modulePath : String}
    (covered : bond.Covers config target.dependencies target.supportItems) {dependency : Dependency}
    (carried : dependency ∈ (target.referenceFor config modulePath).dependency) : bond.Admits dependency := by
  cases target with
  | fixed reference => exact covered.1 dependency (Option.mem_toList.mpr carried)
  | support item =>
    cases carried
    exact covered.2 item List.mem_cons_self
  | own name => cases carried

/-- Whether two writers of one module write the same, the first so many levels deeper and after some lines. -/
structure Shifted (bond : Bond) (config : RuntimeConfig) (modulePath : String) (floor : Option Nat)
    (base : List Line) (level : Nat) (one other : Writer) : Prop where
  config : one.config = config ∧ other.config = config
  modulePath : one.modulePath = modulePath ∧ other.modulePath = modulePath
  level : one.level = level ∧ level = floor.getD 0 + other.level
  linked : bond.Linked one.manifest other.manifest
  written : one.lines = base ++ other.lines.map (Writer.layOut (floor.getD 0))
  tidy : ∀ line ∈ other.lines, Text.Tidy line

variable {bond : Bond} {config : RuntimeConfig} {modulePath : String} {floor : Option Nat} {base : List Line}
  {level : Nat}

/-- A fresh writer is a shifted copy of a writer of its module that stands at the floor, if the manifests are linked. -/
theorem shifted_new (writer : Writer) (sameConfig : writer.config = config)
    (sameModule : writer.modulePath = modulePath) (grounded : writer.level = floor.getD 0)
    (linked : bond.Linked writer.manifest ∅) :
    bond.Shifted config modulePath floor writer.lines writer.level writer (Writer.new config modulePath) where
  config := ⟨sameConfig, rfl⟩
  modulePath := ⟨sameModule, rfl⟩
  level := ⟨rfl, grounded⟩
  linked := linked
  written := (List.append_nil _).symm
  tidy := fun _ mem => nomatch mem

/-- Registering an admitted dependency does the same on both writers. -/
theorem follows_register {dependency : Dependency} (admitted : bond.Admits dependency) :
    Follows (bond.Shifted config modulePath floor base level) (bond.Shifted config modulePath floor base level)
      (Writer.register dependency) where
  of_ok {_ other _ _} shifted run := by
    rw [Writer.register_apply] at run
    split at run <;> cases run
    rename_i ran
    obtain ⟨_, manifestOther, ranOther, linked⟩ := bond.register admitted shifted.linked ran
    exact ⟨{ other with manifest := manifestOther }, by rw [Writer.register_apply, ranOther], { shifted with linked }⟩

/-- A target resolves to the same text for both writers. -/
theorem follows_resolve {target : Target} (covered : bond.Covers config target.dependencies target.supportItems) :
    Follows (bond.Shifted config modulePath floor base level) (bond.Shifted config modulePath floor base level)
      target.resolve where
  of_ok {_ other _ _} shifted run := by
    rw [Target.resolve_apply, shifted.config.1, shifted.modulePath.1] at run
    rw [Target.resolve_apply, shifted.config.2, shifted.modulePath.2]
    rcases outcome : (target.referenceFor config modulePath).resolve modulePath with failure | ⟨text, _ | dependency⟩
    · rw [outcome] at run
      cases run
    · rw [outcome] at run
      cases run
      exact ⟨other, rfl, shifted⟩
    · rw [outcome] at run
      have carried := Reference.dependency_of_resolve outcome dependency rfl
      have follows : Follows (bond.Shifted config modulePath floor base level)
          (bond.Shifted config modulePath floor base level) (Writer.register dependency >>= fun _ => pure text) :=
        .bind (follows_register (covered.admits_dependency carried)) fun _ => .pure _
      exact follows.of_ok shifted run

/-- Emitting a text does the same on both writers. -/
theorem follows_emit (text : List Char) :
    Follows (bond.Shifted config modulePath floor base level) (bond.Shifted config modulePath floor base level)
      (Writer.emit text) := by
  refine .modify fun one other shifted => ?_
  have height : one.level = floor.getD 0 + other.level := shifted.level.1.trans shifted.level.2
  refine { shifted with written := ?_, tidy := List.forall_mem_append.mpr ⟨shifted.tidy, fun line mem => ?_⟩ }
  · simp [shifted.written, height, Writer.layOut_layOut]
  · obtain ⟨piece, found, rfl⟩ := List.mem_map.mp mem
    exact Writer.tidy_layOut (Text.newline_not_mem_of_mem_split found)

/-- Emitting texts does the same on both writers. -/
theorem follows_emitAll (texts : List (List Char)) :
    Follows (bond.Shifted config modulePath floor base level) (bond.Shifted config modulePath floor base level)
      (Writer.emitAll texts) := by
  induction texts with
  | nil => exact .pure _
  | cons text rest ih => exact .bind (follows_emit text) fun _ => ih

/-- Going levels deeper raises the levels of both writers alike. -/
theorem follows_indentBy (levels : Nat) :
    Follows (bond.Shifted config modulePath floor base level)
      (bond.Shifted config modulePath floor base (level + levels)) (Writer.indentBy levels) := by
  refine .modify fun one other shifted => { shifted with level := ?_ }
  obtain ⟨same, height⟩ := shifted.level
  exact ⟨congrArg (· + levels) same, by rw [height, Nat.add_assoc]⟩

/-- Above the floor the levels of both writers fall alike. -/
theorem follows_dedentBy {levels after : Nat} (reached : lowered floor levels level = some after) :
    Follows (bond.Shifted config modulePath floor base level) (bond.Shifted config modulePath floor base after)
      (Writer.dedentBy levels) := by
  refine .modify fun one other shifted => { shifted with level := ?_ }
  obtain ⟨same, height⟩ := shifted.level
  have result : after = level - levels ∧ level - levels = floor.getD 0 + (other.level - levels) := by
    cases floor with
    | none =>
      cases reached
      exact ⟨rfl, by simp_all⟩
    | some floor =>
      rw [lowered] at reached
      split at reached <;> cases reached
      rw [Option.getD_some] at height ⊢
      exact ⟨rfl, by omega⟩
  exact ⟨(congrArg (· - levels) same).trans result.1.symm, result.1.trans result.2⟩

/-- Whether a filler fills in the same for both writers, wherever it stands. -/
def FillerFollows (bond : Bond) (config : RuntimeConfig) (modulePath : String) (filler : Filler) : Prop :=
  ∀ {floor base level} leading, Follows (bond.Shifted config modulePath floor base level)
    (bond.Shifted config modulePath floor base level) (filler leading)

/-- Filling in a line does the same on both writers if its fillers do. -/
theorem follows_fill {leading : Line} {pieces : List (Piece Filler)}
    (fillers : ∀ filler, .value filler ∈ pieces → bond.FillerFollows config modulePath filler) :
    Follows (bond.Shifted config modulePath floor base level) (bond.Shifted config modulePath floor base level)
      (Writer.fill leading pieces) := by
  induction pieces with
  | nil => exact .pure _
  | cons piece rest ih =>
    have onward := ih fun filler mem => fillers filler (List.mem_cons_of_mem _ mem)
    cases piece with
    | text text => exact .bind onward fun _ => .pure _
    | value filler =>
      exact .bind (fillers filler List.mem_cons_self leading) fun _ => .bind onward fun _ => .pure _

/-- Filling in lines does the same on both writers if their fillers do. -/
theorem follows_fillLines {lines : List (AssignedLine Filler)}
    (fillers : ∀ line ∈ lines, ∀ filler, .value filler ∈ line.pieces → bond.FillerFollows config modulePath filler) :
    Follows (bond.Shifted config modulePath floor base level) (bond.Shifted config modulePath floor base level)
      (Writer.fillLines lines) := by
  induction lines with
  | nil => exact .pure _
  | cons line rest ih =>
    obtain ⟨first, later⟩ := List.forall_mem_cons.mp fillers
    exact .bind (follows_fill first) fun _ => .bind (ih later) fun _ => .pure _

/-- Rendering a template does the same on both writers if its fillers do. -/
theorem follows_render (template : String) {arguments : Arguments Filler}
    (all : arguments.All (bond.FillerFollows config modulePath)) :
    Follows (bond.Shifted config modulePath floor base level) (bond.Shifted config modulePath floor base level)
      (Writer.render template arguments) := by
  unfold Writer.render
  refine .bind (follows_fillLines (Template.all_assignLines all)) fun texts => ?_
  split
  · exact .throw _
  · exact follows_emitAll texts

/-- What is filled in by an action is the text of one and the same child, whose dependencies both writers take over. -/
theorem fillerFollows_fillWritten {action : Writing Unit} {after : Nat}
    (follows :
      Follows (bond.Shifted config modulePath none [] 0) (bond.Shifted config modulePath none [] after) action) :
    bond.FillerFollows config modulePath (Writer.fillWritten action) := by
  intro floor base level leading
  constructor
  intro one other value next shifted run
  have fresh : bond.Shifted config modulePath none [] 0 (Writer.new config modulePath) (Writer.new config modulePath) :=
    shifted_new (Writer.new config modulePath) rfl rfl rfl bond.linked_empty
  rw [Writer.fillWritten] at run
  split at run
  · cases run
  · rename_i child ran
    rw [shifted.config.1, shifted.modulePath.1] at ran
    obtain ⟨twin, ranTwin, after⟩ := follows.of_ok fresh ran
    cases ran.symm.trans ranTwin
    have ranOther : action (Writer.new other.config other.modulePath) = .ok () child := by
      rw [shifted.config.2, shifted.modulePath.2]
      exact ran
    split at run <;> cases run
    rename_i manifest merged
    obtain ⟨manifestOther, mergedOther, linked⟩ := (bond.merge after.linked).of_ok shifted.linked merged
    refine ⟨{ other with manifest := manifestOther }, ?_, { shifted with linked }⟩
    simp only [Writer.fillWritten, ranOther, mergedOther]

end Bond

section

variable {bond : Bond} {config : RuntimeConfig} {modulePath : String}

open Bond

mutual

/-- An operation that does not fall below the floor writes the same on both writers. -/
theorem Op.follows : ∀ {operation : Op} {floor : Option Nat} {base : List Line} {level after : Nat},
    operation.levelFrom floor level = some after →
    bond.Covers config operation.dependencies operation.supportItems →
    Follows (bond.Shifted config modulePath floor base level) (bond.Shifted config modulePath floor base after)
      operation.run
  | .write template arguments, _, _, _, _, reached, covered => by
    rw [Op.levelFrom] at reached
    cases reached
    rw [Op.run]
    exact follows_render template (Arguments.all_ofList (fillersFollow covered))
  | .writeNamed template arguments, _, _, _, _, reached, covered => by
    rw [Op.levelFrom] at reached
    cases reached
    rw [Op.run]
    exact follows_render template (Arguments.all_ofPairs (namedFillersFollow covered))
  | .block header arguments body, _, _, _, _, reached, covered => by
    rw [Op.levelFrom] at reached
    obtain ⟨inner, reachedInner, reached⟩ := Option.bind_eq_some_iff.mp reached
    obtain ⟨coveredHeader, coveredBody⟩ := covers_append.mp covered
    rw [Op.run]
    exact .bind (follows_render _ (Arguments.all_ofList (fillersFollow coveredHeader))) fun _ =>
      .bind (follows_indentBy 1) fun _ =>
      .bind (follows_runAll reachedInner coveredBody) fun _ =>
      .bind (follows_dedentBy reached) fun _ =>
      follows_render _ (Arguments.all_ofList fun _ mem => nomatch mem)
  | .indent levels, _, _, _, _, reached, _ => by
    rw [Op.levelFrom] at reached
    cases reached
    rw [Op.run]
    exact follows_indentBy levels
  | .dedent levels, _, _, _, _, reached, _ => by
    rw [Op.levelFrom] at reached
    rw [Op.run]
    exact follows_dedentBy reached
  | .resolve target, _, _, _, _, reached, covered => by
    rw [Op.levelFrom] at reached
    cases reached
    rw [Op.run]
    exact .bind (follows_resolve covered) fun _ => .pure _
  | .register dependency, _, _, _, _, reached, covered => by
    rw [Op.levelFrom] at reached
    cases reached
    rw [Op.run]
    exact follows_register (covered.1 dependency List.mem_cons_self)
  | .insert writable, _, _, _, _, reached, covered => by
    rw [Op.levelFrom] at reached
    rw [Op.run]
    exact Writable.follows reached covered
  | .fail error, _, _, _, _, _, _ => by
    rw [Op.run]
    exact .throw _

/-- A program that does not fall below the floor writes the same on both writers. -/
theorem follows_runAll : ∀ {operations : List Op} {floor : Option Nat} {base : List Line} {level after : Nat},
    programLevelFrom floor operations level = some after →
    bond.Covers config (programDependencies operations) (programSupportItems operations) →
    Follows (bond.Shifted config modulePath floor base level) (bond.Shifted config modulePath floor base after)
      (runAll operations)
  | [], _, _, _, _, reached, _ => by
    rw [programLevelFrom] at reached
    cases reached
    rw [runAll]
    exact .pure _
  | operation :: rest, _, _, _, _, reached, covered => by
    rw [programLevelFrom] at reached
    obtain ⟨between, reachedBetween, reached⟩ := Option.bind_eq_some_iff.mp reached
    obtain ⟨coveredFirst, coveredRest⟩ := covers_append.mp covered
    rw [runAll]
    exact .bind (Op.follows reachedBetween coveredFirst) fun _ => follows_runAll reached coveredRest

/-- An argument that a bond covers is filled in the same on both writers. -/
theorem Argument.fillerFollows : ∀ {argument : Argument},
    bond.Covers config argument.dependencies argument.supportItems →
    bond.FillerFollows config modulePath argument.filler
  | .target target, covered => by
    rw [Argument.filler]
    exact fun _ => .bind (follows_resolve covered) fun _ => .pure _
  | .text text, _ => by
    rw [Argument.filler]
    exact fun _ => .pure _
  | .writable writable, covered => by
    obtain ⟨after, reached⟩ := writable.exists_levelFrom_none 0
    rw [Argument.filler]
    exact fillerFollows_fillWritten (Writable.follows reached covered)

/-- Arguments that a bond covers are filled in the same on both writers, each of them. -/
theorem fillersFollow : ∀ {arguments : List Argument},
    bond.Covers config (argumentDependencies arguments) (argumentSupportItems arguments) →
    ∀ filler ∈ fillers arguments, bond.FillerFollows config modulePath filler
  | [], _ => by simp [fillers]
  | argument :: rest, covered => by
    obtain ⟨coveredFirst, coveredRest⟩ := covers_append.mp covered
    rw [fillers]
    exact List.forall_mem_cons.mpr ⟨Argument.fillerFollows coveredFirst, fillersFollow coveredRest⟩

/-- Named arguments that a bond covers are filled in the same on both writers, each of them. -/
theorem namedFillersFollow : ∀ {arguments : List (String × Argument)},
    bond.Covers config (namedArgumentDependencies arguments) (namedArgumentSupportItems arguments) →
    ∀ pair ∈ namedFillers arguments, bond.FillerFollows config modulePath pair.2
  | [], _ => by simp [namedFillers]
  | (name, argument) :: rest, covered => by
    obtain ⟨coveredFirst, coveredRest⟩ := covers_append.mp covered
    rw [namedFillers]
    exact List.forall_mem_cons.mpr ⟨Argument.fillerFollows coveredFirst, namedFillersFollow coveredRest⟩

/-- A writable that does not fall below the floor writes the same on both writers. -/
theorem Writable.follows : ∀ {writable : Writable} {floor : Option Nat} {base : List Line} {level after : Nat},
    writable.levelFrom floor level = some after →
    bond.Covers config writable.dependencies writable.supportItems →
    Follows (bond.Shifted config modulePath floor base level) (bond.Shifted config modulePath floor base after)
      writable.run
  | .empty, _, _, _, _, reached, _ => by
    rw [Writable.levelFrom] at reached
    cases reached
    rw [Writable.run]
    exact .pure _
  | .program operations, _, _, _, _, reached, covered => by
    rw [Writable.levelFrom] at reached
    rw [Writable.run]
    exact follows_runAll reached covered

end

end

/-- Manifests that are the same. -/
def Bond.equal : Bond where
  Linked := Eq
  Admits _ := True
  linked_empty := rfl
  register := by
    rintro dependency one _ changed after - rfl run
    exact ⟨changed, after, run, rfl⟩
  merge := by
    rintro child -
    constructor
    rintro one _ value after rfl run
    exact ⟨after, run, rfl⟩

/-- A writable that succeeds leaves the level that its operations lead to. -/
theorem Writable.level_of_run {writable : Writable} {writer after : Writer} {level : Nat}
    (reached : writable.levelFrom none writer.level = some level) (ran : writable.run writer = .ok () after) :
    after.level = level := by
  have shifted : Bond.equal.Shifted writer.config writer.modulePath none writer.lines writer.level writer
      { writer with lines := [] } :=
    ⟨⟨rfl, rfl⟩, ⟨rfl, rfl⟩, ⟨rfl, (Nat.zero_add _).symm⟩, rfl, (List.append_nil _).symm, fun _ mem => nomatch mem⟩
  obtain ⟨_, -, shiftedAfter⟩ :=
    (Writable.follows reached ⟨fun _ _ => trivial, fun _ _ => trivial⟩).of_ok shifted ran
  exact shiftedAfter.level.1

end Cratewright
