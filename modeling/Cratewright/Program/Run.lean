import Cratewright.Program
import Cratewright.Writer

/-!
# Running programs

The meaning of a program is an action on a writer. Main statement: whatever a program does, failing or not, the
manifest keeps every property that survives the registration of what the program mentions.
-/

namespace Cratewright

open Text (Line)
open Template (Arguments AssignedLine Piece)

/-- Resolves a target for the writer at hand. -/
def Target.resolve (target : Target) : Writing String := do
  let writer ← get
  Writer.resolve (target.referenceFor writer.config writer.modulePath)

mutual

/-- The effect of an operation. -/
def Op.run : Op → Writing Unit
  | .write template arguments => Writer.render template (.ofList (fillers arguments))
  | .writeNamed template arguments => Writer.render template (.ofPairs (namedFillers arguments))
  | .block header arguments body => do
    Writer.render (header ++ " \x7b") (.ofList (fillers arguments))
    Writer.indentBy 1
    runAll body
    Writer.dedentBy 1
    Writer.render "\x7d" (.ofList [])
  | .indent levels => Writer.indentBy levels
  | .dedent levels => Writer.dedentBy levels
  | .resolve target => do
    let _ ← target.resolve
  | .register dependency => Writer.register dependency
  | .insert writable => writable.run
  | .fail error => throw error

/-- The effect of a program: its operations in order, up to the first that fails. -/
def runAll : List Op → Writing Unit
  | [] => return
  | operation :: rest => do
    operation.run
    runAll rest

/-- What an argument fills in. -/
def Argument.filler : Argument → Filler
  | .target target => fun _ => return (← target.resolve).toList
  | .text text => Writer.fillText text
  | .writable writable => Writer.fillWritten writable.run

/-- What positional arguments fill in. -/
def fillers : List Argument → List Filler
  | [] => []
  | argument :: rest => argument.filler :: fillers rest

/-- What named arguments fill in. -/
def namedFillers : List (String × Argument) → List (String × Filler)
  | [] => []
  | (name, argument) :: rest => (name, argument.filler) :: namedFillers rest

/-- The effect of a writable. -/
def Writable.run : Writable → Writing Unit
  | .empty => return
  | .program operations => runAll operations

end

/-- Running one operation alone is running the operation. -/
theorem runAll_singleton (operation : Op) : runAll [operation] = operation.run := by
  rw [runAll, runAll]
  exact bind_pure _

/-- A program in two parts runs the second after the first. -/
theorem runAll_append (first second : List Op) :
    runAll (first ++ second) = (runAll first >>= fun _ => runAll second) := by
  induction first with
  | nil => simp [runAll]
  | cons operation rest ih => simp [runAll, ih]

/-- The fillers of arguments are those of each one. -/
theorem fillers_eq_map (arguments : List Argument) : fillers arguments = arguments.map Argument.filler := by
  induction arguments with
  | nil => rw [fillers, List.map_nil]
  | cons first rest ih => rw [fillers, ih, List.map_cons]

/-- The fillers of named arguments are those of each one under its name. -/
theorem namedFillers_eq_map (arguments : List (String × Argument)) :
    namedFillers arguments = arguments.map fun (name, argument) => (name, argument.filler) := by
  induction arguments with
  | nil => rw [namedFillers, List.map_nil]
  | cons first rest ih => rw [namedFillers, ih, List.map_cons]

/-- Runs an operation and answers with its result: the text of a resolved reference, and nothing for any other. -/
def Op.answer : Op → Writing (Option String)
  | .resolve target => do
    return some (← target.resolve)
  | operation => do
    operation.run
    return none

namespace Writer

variable {invariant : Manifest.Invariant}

/-- Whether the manifest of a writer has a property. -/
def Satisfies (invariant : Manifest.Invariant) (writer : Writer) : Prop := invariant.Holds writer.manifest

/-- A registration keeps for the writer what it keeps for the manifest. -/
theorem keeps_onManifest {Value : Type} {registration : Registration Value}
    (kept : Keeps invariant.Holds registration) : Keeps (Satisfies invariant) (onManifest registration) := by
  intro writer holds
  have after := kept writer.manifest holds
  unfold onManifest
  split <;> rename_i run <;> rw [run] at after <;> exact after

/-- Registering an admitted dependency keeps the property of the writer's manifest. -/
theorem keeps_register {dependency : Dependency} (admitted : invariant.Admits dependency) :
    Keeps (Satisfies invariant) (register dependency) :=
  .bind (keeps_onManifest (invariant.keeps_register admitted)) fun _ => .pure _

/-- Resolving a reference keeps the property if its dependency is admitted. -/
theorem keeps_resolve {reference : Reference}
    (admitted : ∀ dependency ∈ reference.dependency, invariant.Admits dependency) :
    Keeps (Satisfies invariant) (resolve reference) := by
  unfold resolve
  refine .bind .get fun writer => ?_
  split
  · exact .throw _
  · rename_i resolved outcome
    split
    · rename_i dependency found
      have carried := Reference.dependency_of_resolve outcome dependency found
      exact .bind (keeps_register (admitted dependency carried)) fun _ => .pure _
    · exact .bind (.pure _) fun _ => .pure _

/-- Emitting texts leaves the manifest alone. -/
theorem keeps_emitAll (texts : List (List Char)) : Keeps (Satisfies invariant) (emitAll texts) := by
  induction texts with
  | nil => exact .pure _
  | cons text rest ih => exact .bind (.modify fun _ holds => holds) fun _ => ih

/-- Whether a filler keeps the property of a writer's manifest, wherever it stands. -/
def FillerKeeps (invariant : Manifest.Invariant) (filler : Filler) : Prop :=
  ∀ leading, Keeps (Satisfies invariant) (filler leading)

section

variable {property : Writer → Prop}

/-- Filling in a line keeps what its fillers keep. -/
theorem keeps_fill {leading : Line} {pieces : List (Piece Filler)}
    (fillers : ∀ filler, .value filler ∈ pieces → ∀ leading, Keeps property (filler leading)) :
    Keeps property (fill leading pieces) := by
  induction pieces with
  | nil => exact .pure _
  | cons piece rest ih =>
    have later := ih fun filler mem => fillers filler (List.mem_cons_of_mem _ mem)
    cases piece with
    | text text => exact .bind later fun _ => .pure _
    | value filler =>
      exact .bind (fillers filler List.mem_cons_self leading) fun _ => .bind later fun _ => .pure _

/-- Filling in lines keeps what every filler in them keeps. -/
theorem keeps_fillLines {lines : List (AssignedLine Filler)}
    (fillers : ∀ line ∈ lines, ∀ filler, .value filler ∈ line.pieces → ∀ leading, Keeps property (filler leading)) :
    Keeps property (fillLines lines) := by
  induction lines with
  | nil => exact .pure _
  | cons line rest ih =>
    have ⟨first, later⟩ := List.forall_mem_cons.mp fillers
    exact .bind (keeps_fill first) fun _ => .bind (ih later) fun _ => .pure _

/-- Writing a template keeps what its arguments keep and its lines do. -/
theorem keeps_render_of_emitAll (template : String) {arguments : Arguments Filler}
    (emits : ∀ texts, Keeps property (emitAll texts))
    (all : arguments.All fun filler => ∀ leading, Keeps property (filler leading)) :
    Keeps property (render template arguments) := by
  unfold render
  refine .bind (keeps_fillLines (Template.all_assignLines all)) fun texts => ?_
  split
  · exact .throw _
  · exact emits texts

end

/-- Rendering a template keeps what its fillers keep. -/
theorem keeps_render (template : String) {arguments : Arguments Filler}
    (all : arguments.All (FillerKeeps invariant)) : Keeps (Satisfies invariant) (render template arguments) :=
  keeps_render_of_emitAll template keeps_emitAll all

/-- Filling in what an action writes keeps what the action keeps: the manifest it leaves is merged. -/
theorem fillerKeeps_fillWritten {action : Writing Unit} (kept : Keeps (Satisfies invariant) action) :
    FillerKeeps invariant (fillWritten action) := by
  intro leading writer holds
  have written := kept (new writer.config writer.modulePath) invariant.holds_empty
  unfold fillWritten
  split
  · exact holds
  · rename_i state run
    rw [run] at written
    have merged : invariant.Holds (stateAfter (Manifest.merge state.manifest writer.manifest)) :=
      invariant.keeps_merge written writer.manifest holds
    split <;> rename_i outcome <;> rw [outcome] at merged <;> exact merged

end Writer

section

variable {invariant : Manifest.Invariant}

open Writer

/-- Resolving a target keeps the property if its dependencies are admitted. -/
theorem Target.keeps_resolve {target : Target}
    (admitted : ∀ dependency ∈ target.dependencies, invariant.Admits dependency) :
    Keeps (Satisfies invariant) target.resolve := by
  unfold Target.resolve
  refine .bind .get fun writer => Writer.keeps_resolve fun dependency found => ?_
  cases target with
  | fixed reference => exact admitted dependency (Option.mem_toList.mpr found)
  | support item =>
    cases found
    exact invariant.admits_crate _
  | own name => cases found

mutual

/-- Running an operation keeps every property of manifests that admits what the operation mentions. -/
theorem Op.keeps_run : ∀ {operation : Op},
    (∀ dependency ∈ operation.dependencies, invariant.Admits dependency) →
    Keeps (Satisfies invariant) operation.run
  | .write template arguments, admitted => by
    rw [Op.run]
    exact keeps_render template (Arguments.all_ofList (fillersKeep admitted))
  | .writeNamed template arguments, admitted => by
    rw [Op.run]
    exact keeps_render template (Arguments.all_ofPairs (namedFillersKeep admitted))
  | .block header arguments body, admitted => by
    rw [Op.dependencies, List.forall_mem_append] at admitted
    rw [Op.run]
    exact .bind (keeps_render _ (Arguments.all_ofList (fillersKeep admitted.1))) fun _ =>
      .bind (.modify fun _ holds => holds) fun _ =>
      .bind (keeps_runAll admitted.2) fun _ =>
      .bind (.modify fun _ holds => holds) fun _ =>
      keeps_render _ (Arguments.all_ofList fun _ mem => nomatch mem)
  | .indent levels, _ => by
    rw [Op.run]
    exact .modify fun _ holds => holds
  | .dedent levels, _ => by
    rw [Op.run]
    exact .modify fun _ holds => holds
  | .resolve target, admitted => by
    rw [Op.run]
    exact .bind (target.keeps_resolve admitted) fun _ => .pure _
  | .register dependency, admitted => by
    rw [Op.run]
    exact Writer.keeps_register (admitted dependency List.mem_cons_self)
  | .insert writable, admitted => by
    rw [Op.run]
    exact Writable.keeps_run admitted
  | .fail error, _ => by
    rw [Op.run]
    exact .throw _

/-- Running a program keeps every property of manifests that admits what the program mentions. -/
theorem keeps_runAll : ∀ {operations : List Op},
    (∀ dependency ∈ programDependencies operations, invariant.Admits dependency) →
    Keeps (Satisfies invariant) (runAll operations)
  | [], _ => by
    rw [runAll]
    exact .pure _
  | operation :: rest, admitted => by
    rw [programDependencies, List.forall_mem_append] at admitted
    rw [runAll]
    exact .bind (Op.keeps_run admitted.1) fun _ => keeps_runAll admitted.2

/-- Filling in an argument keeps the property if its dependencies are admitted. -/
theorem Argument.fillerKeeps : ∀ {argument : Argument},
    (∀ dependency ∈ argument.dependencies, invariant.Admits dependency) → FillerKeeps invariant argument.filler
  | .target target, admitted => by
    rw [Argument.filler]
    exact fun _ => .bind (target.keeps_resolve admitted) fun _ => .pure _
  | .text text, _ => by
    rw [Argument.filler]
    exact fun _ => .pure _
  | .writable writable, admitted => by
    rw [Argument.filler]
    exact fillerKeeps_fillWritten (Writable.keeps_run admitted)

/-- The fillers of arguments keep the property if the dependencies of all are admitted. -/
theorem fillersKeep : ∀ {arguments : List Argument},
    (∀ dependency ∈ argumentDependencies arguments, invariant.Admits dependency) →
    ∀ filler ∈ fillers arguments, FillerKeeps invariant filler
  | [], _ => by simp [fillers]
  | argument :: rest, admitted => by
    rw [argumentDependencies, List.forall_mem_append] at admitted
    rw [fillers]
    exact List.forall_mem_cons.mpr ⟨Argument.fillerKeeps admitted.1, fillersKeep admitted.2⟩

/-- The fillers of named arguments keep the property if the dependencies of all are admitted. -/
theorem namedFillersKeep : ∀ {arguments : List (String × Argument)},
    (∀ dependency ∈ namedArgumentDependencies arguments, invariant.Admits dependency) →
    ∀ pair ∈ namedFillers arguments, FillerKeeps invariant pair.2
  | [], _ => by simp [namedFillers]
  | (name, argument) :: rest, admitted => by
    rw [namedArgumentDependencies, List.forall_mem_append] at admitted
    rw [namedFillers]
    exact List.forall_mem_cons.mpr ⟨Argument.fillerKeeps admitted.1, namedFillersKeep admitted.2⟩

/-- Writing a writable keeps the property if its dependencies are admitted. -/
theorem Writable.keeps_run : ∀ {writable : Writable},
    (∀ dependency ∈ writable.dependencies, invariant.Admits dependency) →
    Keeps (Satisfies invariant) writable.run
  | .empty, _ => by
    rw [Writable.run]
    exact .pure _
  | .program operations, admitted => by
    rw [Writable.run]
    exact keeps_runAll admitted

end

end

end Cratewright
