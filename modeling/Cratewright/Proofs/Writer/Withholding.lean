import Cratewright.Proofs.Manifest.History
import Cratewright.Proofs.Template.Mapping
import Cratewright.Proofs.Writer.Emission

/-!
# Failures of a template

What is filled in for a placeholder reaches a writer through its manifest alone, and the lines of a template are held
back until the whole of it is filled in. `fillEach` is what filling in does but for the texts, so a template fails as
the first of its arguments that fails or, after all of them, with its own fault. Main statement: a template that fails
leaves the source, the level and what the manifest says, and nothing of a writable that cannot be filled in.
-/

namespace Cratewright

open Text (Line)
open Template (Arguments AssignedLine Assignment Piece)

/-- Whether a writer is another one with a manifest that says at least as much. -/
structure Gains (writer after : Writer) : Prop where
  same : after = { writer with manifest := after.manifest }
  more : writer.manifest.needs ⊆ after.manifest.needs

namespace Gains

variable {writer after later : Writer}

/-- A writer gains nothing over itself. -/
theorem refl (writer : Writer) : Gains writer writer := ⟨rfl, subset_rfl⟩

/-- What a writer gains in two steps it gains together. -/
theorem trans (gains : Gains writer after) (further : Gains after later) : Gains writer later where
  same := by
    rw [further.same, gains.same]
  more := gains.more.trans further.more

/-- A step in the history of a manifest is a gain. -/
theorem step (writer : Writer) (step : Manifest.Step) :
    Gains writer { writer with manifest := step.after writer.manifest } :=
  ⟨rfl, Manifest.needs_subset_step writer.manifest step⟩

/-- Gaining dependencies leaves the contents as they are. -/
theorem contents (gains : Gains writer after) : after.contents = writer.contents := by
  rw [gains.same]
  rfl

/-- Gaining dependencies leaves the level as it is. -/
theorem level (gains : Gains writer after) : after.level = writer.level := by
  rw [gains.same]

end Gains

open Writer

section

variable {base : Writer}

/-- Registering a dependency adds at most dependencies, even where it fails. -/
theorem keeps_gains_register (dependency : Dependency) : Keeps (Gains base) (register dependency) := by
  intro writer gains
  have step := gains.trans (.step writer (.register dependency))
  rw [Manifest.Step.after] at step
  rw [register_apply]
  cases run : Manifest.register dependency writer.manifest <;> rw [run] at step <;> exact step

/-- Resolving a target adds at most dependencies, even where it fails. -/
theorem Target.keeps_gains_resolve (target : Target) : Keeps (Gains base) target.resolve := by
  intro writer gains
  rw [Target.resolve_apply]
  split
  · exact gains
  · exact gains
  · exact Keeps.bind (keeps_gains_register _) (fun _ => .pure _) writer gains

/-- What an action writes from the left margin reaches the writer through the merge of the manifests alone. -/
theorem keeps_gains_fillWritten (action : Writing Unit) (leading : Line) :
    Keeps (Gains base) (fillWritten action leading) := by
  intro writer gains
  unfold fillWritten
  split
  · exact gains
  · rename_i written _
    have step := gains.trans (.step writer (.merge written.manifest))
    rw [Manifest.Step.after] at step
    cases run : Manifest.merge written.manifest writer.manifest <;> rw [run] at step <;> exact step

/-- Whatever stands for a placeholder, filled in or not, the writer at most gains. -/
theorem Argument.keeps_gains_filler (argument : Argument) (leading : Line) :
    Keeps (Gains base) (argument.filler leading) := by
  cases argument with
  | target target =>
    rw [Argument.filler]
    exact .bind target.keeps_gains_resolve fun _ => .pure _
  | text text =>
    rw [Argument.filler]
    exact .pure _
  | writable writable =>
    rw [Argument.filler]
    exact keeps_gains_fillWritten writable.run leading

end

/-- The values of a line, each with the indentation of the line. -/
def Template.AssignedLine.placed {Value : Type} (line : AssignedLine Value) : List (Line × Value) :=
  line.values.map (line.leading, ·)

/-- The values in an assignment, in reading order, each with the indentation of its line. -/
def Template.Assignment.placed {Value : Type} (assignment : Assignment Value) : List (Line × Value) :=
  assignment.lines.flatMap AssignedLine.placed

/-- Fills in arguments one after another, and forgets the texts. -/
def fillEach : List (Line × Argument) → Writing Unit
  | [] => return
  | (leading, argument) :: rest => do
    let _ ← argument.filler leading
    fillEach rest

/-- Filling in arguments in two parts fills in the second part after the first. -/
theorem fillEach_append (before later : List (Line × Argument)) :
    fillEach (before ++ later) = (fillEach before >>= fun _ => fillEach later) := by
  induction before with
  | nil => simp [fillEach]
  | cons placed rest ih => simp [fillEach, ih]

/-- Arguments that are filled in one after another, all or up to a failure, only add to the manifest. -/
theorem keeps_gains_fillEach {base : Writer} (placed : List (Line × Argument)) :
    Keeps (Gains base) (fillEach placed) := by
  induction placed with
  | nil => exact .pure _
  | cons first rest ih => exact .bind (first.2.keeps_gains_filler first.1) fun _ => ih

section

variable {Value : Type}

/-- Apart from the text, filling in a line is filling in its arguments. -/
theorem fill_bind (leading : Line) (pieces : List (Piece Argument)) (next : Writing Value) :
    (fill leading (pieces.map (Piece.map Argument.filler)) >>= fun _ => next) =
      (fillEach (AssignedLine.placed ⟨leading, pieces⟩) >>= fun _ => next) := by
  induction pieces with
  | nil => simp [fill, fillEach, AssignedLine.placed, AssignedLine.values]
  | cons piece rest ih =>
    cases piece with
    | text text =>
      have same : AssignedLine.placed ⟨leading, .text text :: rest⟩ = AssignedLine.placed ⟨leading, rest⟩ := rfl
      rw [List.map_cons, Piece.map, fill, bind_assoc, same, ← ih]
      simp only [pure_bind]
    | value argument =>
      have first : AssignedLine.placed ⟨leading, .value argument :: rest⟩ =
          (leading, argument) :: AssignedLine.placed ⟨leading, rest⟩ := rfl
      rw [List.map_cons, Piece.map, fill, first, fillEach]
      simp only [bind_assoc, pure_bind, ih]

/-- Filling in lines before another action is filling in their arguments in order before it. -/
theorem fillLines_bind (lines : List (AssignedLine Argument)) (next : Writing Value) :
    (fillLines (lines.map (AssignedLine.map Argument.filler)) >>= fun _ => next) =
      (fillEach (lines.flatMap AssignedLine.placed) >>= fun _ => next) := by
  induction lines with
  | nil => simp [fillLines, fillEach]
  | cons line rest ih =>
    rw [List.map_cons, fillLines, List.flatMap_cons, fillEach_append]
    simp only [bind_assoc, pure_bind, ih]
    exact fill_bind line.leading line.pieces _

end

/-- A template that fails does so as its arguments do one after another, or with its fault after all of them. -/
theorem render_eq_error {template : String} {arguments : Arguments Argument} {writer after : Writer}
    {failure : CodegenError} (run : render template (arguments.map Argument.filler) writer = .error failure after) :
    fillEach (Template.assign template arguments).placed writer = .error failure after ∨
      fillEach (Template.assign template arguments).placed writer = .ok () after ∧
        ∃ fault, (Template.assign template arguments).fault = some fault ∧ failure = .template fault := by
  -- With nothing to do afterwards, `fillLines` and `fillEach` end in the same state with the same failure.
  have filled := congrFun (fillLines_bind (Template.assign template arguments).lines (pure ())) writer
  rw [bind_pure_unit, Action.bind_apply] at filled
  rw [render_apply, Template.assign_map] at run
  rw [Assignment.placed, ← filled]
  simp only [Assignment.map] at run
  split at run
  · rename_i texts between ran
    rw [ran]
    split at run
    · rename_i fault found
      cases run
      exact .inr ⟨rfl, fault, found, rfl⟩
    · cases run
  · rename_i ran
    cases run
    rw [ran]
    exact .inl rfl

/-- Whether a writable cannot be filled in for a writer: it fails for the child writer that it is run with, or the child
needs what the writer has no place for. -/
inductive Writable.Spoils (writable : Writable) (writer : Writer) : CodegenError → Prop where
  | fails {failure child} (run : writable.run (Writer.new writer.config writer.modulePath) = .error failure child) :
      Spoils writable writer failure
  | conflicts {failure child left} (run : writable.run (Writer.new writer.config writer.modulePath) = .ok () child)
      (refused : Manifest.merge child.manifest writer.manifest = .error failure left) : Spoils writable writer failure

/-- A writable that cannot be filled in leaves the writer as it was. -/
theorem Writable.Spoils.filler {writable : Writable} {writer : Writer} {failure : CodegenError}
    (spoils : writable.Spoils writer failure) (leading : Line) :
    (Argument.writable writable).filler leading writer = .error failure writer := by
  rw [Argument.filler, fillWritten]
  cases spoils with
  | fails run => rw [run]
  | conflicts run refused =>
    obtain ⟨rfl, -⟩ := Manifest.merge_eq_error refused
    rw [run]
    simp only [refused]

/-- Whether an operation writes a template, with its arguments. -/
inductive Op.Writes : Op → String → Arguments Argument → Prop where
  | positional {template arguments} : Writes (.write template arguments) template (.ofList arguments)
  | named {template arguments} : Writes (.writeNamed template arguments) template (.ofPairs arguments)

/-- An operation that writes a template renders it with the fillers of its arguments. -/
theorem Op.Writes.run_eq {operation : Op} {template : String} {arguments : Arguments Argument}
    (writes : operation.Writes template arguments) :
    operation.run = render template (arguments.map Argument.filler) := by
  cases writes with
  | positional => rw [Op.run, fillers_eq_map, Arguments.ofList_map]
  | named => rw [Op.run, namedFillers_eq_map, Arguments.ofPairs_map]

/-- A template that fails leaves the source and the level, and the manifest retains all it held. If a writable cannot be
filled in when its turn comes, the writer is left as it was then: whatever the writable had recorded goes with it. -/
theorem Op.Writes.withholds {operation : Op} {template : String} {arguments : Arguments Argument}
    (writes : operation.Writes template arguments) {writer after : Writer} {failure : CodegenError}
    (run : operation.run writer = .error failure after) :
    after.contents = writer.contents ∧ after.level = writer.level ∧ writer.manifest.Retains after.manifest ∧
      ∀ before leading writable later left error,
        (Template.assign template arguments).placed = before ++ (leading, .writable writable) :: later →
        fillEach before writer = .ok () left → writable.Spoils left error → failure = error ∧ after = left := by
  rw [writes.run_eq] at run
  have gains : Gains writer after := by
    have gained := keeps_gains_fillEach (Template.assign template arguments).placed writer (.refl writer)
    rcases render_eq_error run with ran | ⟨ran, -⟩ <;> rw [ran] at gained <;> exact gained
  refine ⟨gains.contents, gains.level, Manifest.retains_of_needs_subset gains.more, ?_⟩
  intro before leading writable later left error placed filled spoils
  -- `fillEach` comes to the writable in `left` and ends there, and it has one outcome only.
  have stops : fillEach (Template.assign template arguments).placed writer = .error error left := by
    rw [placed, fillEach_append, Action.bind_apply, filled]
    dsimp only
    rw [fillEach, Action.bind_apply, spoils.filler leading]
  rcases render_eq_error run with ran | ⟨ran, -⟩
  · cases ran.symm.trans stops
    exact ⟨rfl, rfl⟩
  · cases ran.symm.trans stops

/-- A writer inside a block whose module logs. -/
def loggingWriter : Writer :=
  { Writer.new {} "crate::api" with
    lines := ["impl Api \x7b".toList]
    level := 1
    manifest := Manifest.after ∅ [.register (.crate (.registry "log" "0.4"))] }

/-- An item of a crate. -/
def bytesItem : Argument := .target (.fixed (.inCrate (.registry "bytes" "1") "" "Bytes"))

/-- A writable that records a crate, and fills in another that needs the crate of the writer above from elsewhere. -/
def divergingWritable : Writable :=
  .program [
    .register (.crate (.registry "anyhow" "1")),
    .write "trace(#T)" [.writable (.program [.register (.crate (.directory "log" "../log")), .write "log::info" []])]]

/-- A template with the item before and after the writable. -/
def divergingTemplate : String := "let bytes = #\x7bitem\x7d;\n    #\x7bbody\x7d #\x7bitem\x7d"

/-- The arguments of the template. -/
def divergingArguments : List (String × Argument) := [("item", bytesItem), ("body", .writable divergingWritable)]

/-- The writer when the turn of the writable comes. -/
def reachedWriter : Writer := stateAfter (fillEach [([], bytesItem)] loggingWriter)

/-- The writer that the writable is run with, as far as that gets. -/
def divergedWriter : Writer := stateAfter (divergingWritable.run (.new reachedWriter.config reachedWriter.modulePath))

/-- A template whose second writable needs a crate from another place, while the first has been filled in already. -/
theorem Op.Writes.withholds_divergingTemplate :
    ∃ after, (Op.writeNamed divergingTemplate divergingArguments).run loggingWriter =
        .error (.conflictingCrate "log" (.registry "0.4") (.directory "../log")) after ∧
      after.contents = "impl Api \x7b\n" ∧ after.level = 1 ∧ loggingWriter.manifest.Retains after.manifest ∧
      divergedWriter.manifest.keys = [.crate "anyhow", .crate "log"] ∧
      after.manifest.keys = [.crate "bytes", .crate "log"] := by
  have fails : (Op.writeNamed divergingTemplate divergingArguments).run.failure? loggingWriter =
      some (.conflictingCrate "log" (.registry "0.4") (.directory "../log")) := by decide +kernel
  obtain ⟨after, run⟩ := Action.failure?_eq_some_iff.mp fails
  obtain ⟨contents, level, retains, withheld⟩ := Op.Writes.withholds .named run
  have lines : Template.dedent divergingTemplate.toList =
      ["let bytes = #\x7bitem\x7d;".toList, "    #\x7bbody\x7d #\x7bitem\x7d".toList] := by decide
  have first : Template.segments "let bytes = #\x7bitem\x7d;".toList =
      .ok [.literal "let bytes = ".toList, .named "item".toList, .literal [';']] := by decide +kernel
  have second : Template.segments "    #\x7bbody\x7d #\x7bitem\x7d".toList =
      .ok [.literal Writer.indent, .named "body".toList, .literal [' '], .named "item".toList] := by decide +kernel
  have placed : (Template.assign divergingTemplate (.ofPairs divergingArguments)).placed =
      [([], bytesItem)] ++ (Writer.indent, .writable divergingWritable) :: [(Writer.indent, bytesItem)] := by
    rw [Template.assign, lines, Template.assignLines, first]
    simp only [Template.assignSegments, Template.assignLines, second]
    rfl
  have fills : (fillEach [([], bytesItem)]).succeeds loggingWriter = true := by decide +kernel
  have runs : divergingWritable.run.succeeds (.new reachedWriter.config reachedWriter.modulePath) = true := by
    decide +kernel
  have refuses : (Manifest.merge divergedWriter.manifest).failure? reachedWriter.manifest =
      some (.conflictingCrate "log" (.registry "0.4") (.directory "../log")) := by decide +kernel
  obtain ⟨_, refused⟩ := Action.failure?_eq_some_iff.mp refuses
  have spoils : divergingWritable.Spoils reachedWriter
      (.conflictingCrate "log" (.registry "0.4") (.directory "../log")) :=
    .conflicts (Action.apply_of_succeeds runs) refused
  obtain ⟨-, rfl⟩ := withheld _ _ _ _ reachedWriter _ placed (Action.apply_of_succeeds fills) spoils
  exact ⟨_, run, contents, level, retains, by decide +kernel, by decide +kernel⟩

end Cratewright
