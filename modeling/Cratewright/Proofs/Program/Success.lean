import Cratewright.Proofs.Program.Filling
import Cratewright.Proofs.Template.Mapping
import Cratewright.Template.Source

/-!
# Programs that cannot fail

A program fails for one of four reasons: a template and its arguments do not fit, a reference has no module path, two
declarations of a crate disagree on its place, or it is told to. The first two and the last can be read off the
program; `programFits` does so. Main statement: a program that fits, all of whose crates lie in a set that has one
place for each, succeeds on every writer of a module whose manifest lies in that set. What the texts are that it fills
in does not matter.
-/

namespace Cratewright

open Text (Line)
open Template (Arguments AssignedLine Piece)

section

variable {Failure State Value Result : Type} {property : State → Prop}

/-- Whether an action succeeds wherever a property of the state holds, and leaves the property as it is. -/
def Completes (property : State → Prop) (action : Action Failure State Value) : Prop :=
  ∀ state, property state → ∃ value after, action state = .ok value after ∧ property after

namespace Completes

/-- Returning a value succeeds anywhere. -/
theorem pure (value : Value) : Completes property (pure value : Action Failure State Value) :=
  fun state holds => ⟨value, state, rfl, holds⟩

/-- A change of the state succeeds, and keeps what the change itself keeps. -/
theorem modify {change : State → State} (kept : ∀ state, property state → property (change state)) :
    Completes property (modify change : Action Failure State PUnit) :=
  fun state holds => ⟨⟨⟩, change state, rfl, kept state holds⟩

/-- An action in two steps succeeds where both steps do. -/
theorem bind {first : Action Failure State Value} {second : Value → Action Failure State Result}
    (completes : Completes property first) (completesAfter : ∀ value, Completes property (second value)) :
    Completes property (first >>= second) := by
  intro state holds
  obtain ⟨value, next, run, holdsNext⟩ := completes state holds
  obtain ⟨result, after, runAfter, holdsAfter⟩ := completesAfter value next holdsNext
  refine ⟨result, after, ?_, holdsAfter⟩
  rw [Action.bind_apply, run]
  exact runAfter

end Completes

end

namespace Template

variable {Value Other : Type}

/-- Whether a template takes its arguments without a fault. -/
def fits (template : String) (arguments : Arguments Value) : Bool := (assign template arguments).fault.isNone

/-- Whether a template fits does not depend on what its arguments are. -/
theorem fits_map (template : String) (change : Value → Other) (arguments : Arguments Value) :
    fits template (arguments.map change) = fits template arguments := by
  rw [fits, assign_map]
  rfl

/-- Positional arguments fit if there are as many as the template takes. -/
theorem fits_ofList (template : String) (values : List Value) :
    fits template (.ofList values) = fits template (.ofList (List.replicate values.length ())) := by
  rw [← fits_map template fun _ => (), ← Arguments.ofList_map, List.map_const']

/-- Named arguments fit if their names are those that the template takes. -/
theorem fits_ofPairs (template : String) (pairs : List (String × Value)) :
    fits template (.ofPairs pairs) = fits template (.ofPairs ((pairs.map Prod.fst).map fun name => (name, ()))) := by
  rw [← fits_map template fun _ => (), ← Arguments.ofPairs_map, List.map_map]
  rfl

/-- A template with named placeholders fits arguments of their names. -/
theorem fits_of_takes {template : String} {pairs : List (String × Value)}
    (takes : Takes (dedent template.toList) (pairs.map Prod.fst)) : fits template (.ofPairs pairs) = true := by
  rw [fits_ofPairs, fits, assign_named takes fun _ => ()]
  rfl

/-- Whether a template of this library fits is computed from its lines. -/
theorem fits_source (lines : List String) (arguments : Arguments Value) :
    fits (source lines) arguments =
      (assignLines (dedent (Text.join (lines.map fun line => line.toList.map brace))) arguments).fault.isNone := by
  rw [fits, assign, source, String.toList_ofList]

end Template

/-- Whether a target has a module path wherever it is written. -/
def Target.fits : Target → Bool
  | .fixed reference => !reference.modulePath.isEmpty
  | .support _ => true
  | .own _ => true

mutual

/-- Whether the templates of an operation take their arguments and its references have a module path, at any depth. -/
def Op.fits : Op → Bool
  | .write template arguments => Template.fits template (.ofList arguments) && argumentsFit arguments
  | .writeNamed template arguments => Template.fits template (.ofPairs arguments) && namedArgumentsFit arguments
  | .block header arguments body =>
    Template.fits (header ++ " \x7b") (.ofList arguments) && argumentsFit arguments && programFits body
  | .indent _ => true
  | .dedent _ => true
  | .resolve target => target.fits
  | .register _ => true
  | .insert writable => writable.fits
  | .fail _ => false

/-- Whether the operations of a program fit. -/
def programFits : List Op → Bool
  | [] => true
  | operation :: rest => operation.fits && programFits rest

/-- Whether an argument fits. -/
def Argument.fits : Argument → Bool
  | .target target => target.fits
  | .text _ => true
  | .writable writable => writable.fits

/-- Whether positional arguments fit. -/
def argumentsFit : List Argument → Bool
  | [] => true
  | argument :: rest => argument.fits && argumentsFit rest

/-- Whether named arguments fit. -/
def namedArgumentsFit : List (String × Argument) → Bool
  | [] => true
  | (_, argument) :: rest => argument.fits && namedArgumentsFit rest

/-- Whether a writable fits. -/
def Writable.fits : Writable → Bool
  | .empty => true
  | .program operations => programFits operations

end

/-- A program fits if each of its operations does. -/
theorem programFits_eq_all (operations : List Op) : programFits operations = operations.all Op.fits := by
  induction operations with
  | nil => rw [programFits, List.all_nil]
  | cons first rest ih => rw [programFits, ih, List.all_cons]

/-- Arguments fit if each of them does. -/
theorem argumentsFit_eq_all (arguments : List Argument) : argumentsFit arguments = arguments.all Argument.fits := by
  induction arguments with
  | nil => rw [argumentsFit, List.all_nil]
  | cons first rest ih => rw [argumentsFit, ih, List.all_cons]

/-- Named arguments fit if each of them does. -/
theorem namedArgumentsFit_eq_all (arguments : List (String × Argument)) :
    namedArgumentsFit arguments = arguments.all fun (_, argument) => argument.fits := by
  induction arguments with
  | nil => rw [namedArgumentsFit, List.all_nil]
  | cons first rest ih => rw [namedArgumentsFit, ih, List.all_cons]

/-- The operations of a writable fit exactly if the writable does. -/
theorem Writable.programFits_operations (writable : Writable) :
    programFits writable.operations = writable.fits := by
  cases writable <;> rfl

/-- Writables one after another fit if each of them does. -/
theorem Writable.fits_concat {parts : List Writable} (fits : ∀ part ∈ parts, part.fits = true) :
    (concat parts).fits = true := by
  rw [← programFits_operations, operations_concat, programFits_eq_all, List.all_flatMap, List.all_eq_true]
  intro part mem
  rw [← programFits_eq_all, programFits_operations, fits part mem]

namespace Writer

variable {property : Writer → Prop}

/-- Filling in a line succeeds if its fillers do. -/
theorem completes_fill {leading : Line} {pieces : List (Piece Filler)}
    (fillers : ∀ filler, .value filler ∈ pieces → ∀ leading, Completes property (filler leading)) :
    Completes property (fill leading pieces) := by
  induction pieces with
  | nil => exact .pure _
  | cons piece rest ih =>
    have later := ih fun filler mem => fillers filler (List.mem_cons_of_mem _ mem)
    cases piece with
    | text text => exact .bind later fun _ => .pure _
    | value filler =>
      exact .bind (fillers filler List.mem_cons_self leading) fun _ => .bind later fun _ => .pure _

/-- Filling in lines succeeds if their fillers do. -/
theorem completes_fillLines {lines : List (AssignedLine Filler)}
    (fillers : ∀ line ∈ lines, ∀ filler, .value filler ∈ line.pieces → ∀ leading,
      Completes property (filler leading)) :
    Completes property (fillLines lines) := by
  induction lines with
  | nil => exact .pure _
  | cons line rest ih =>
    have ⟨first, later⟩ := List.forall_mem_cons.mp fillers
    exact .bind (completes_fill first) fun _ => .bind (ih later) fun _ => .pure _

/-- A template that takes its arguments is written if they can be filled in. -/
theorem completes_render {template : String} {arguments : Arguments Filler}
    (fits : Template.fits template arguments = true) (emits : ∀ texts, Completes property (emitAll texts))
    (all : arguments.All fun filler => ∀ leading, Completes property (filler leading)) :
    Completes property (render template arguments) := by
  have clean : (Template.assign template arguments).fault = none := Option.isNone_iff_eq_none.mp fits
  unfold render
  refine .bind (completes_fillLines (Template.all_assignLines all)) fun texts => ?_
  simp only [clean]
  exact emits texts

/-- Whether a writer of a module has a manifest that says nothing outside a set of needs. -/
structure Ready (top : Set Need) (config : RuntimeConfig) (modulePath : String) (writer : Writer) : Prop where
  config : writer.config = config
  modulePath : writer.modulePath = modulePath
  confined : writer.manifest.Confined top

end Writer

open Writer

variable {top : Set Need} {config : RuntimeConfig} {modulePath : String}

/-- A new writer is ready. -/
theorem ready_new (top : Set Need) (config : RuntimeConfig) (modulePath : String) :
    Ready top config modulePath (Writer.new config modulePath) :=
  ⟨rfl, rfl, Manifest.confined_empty top⟩

/-- Emitting texts succeeds. -/
theorem completes_emitAll (texts : List (List Char)) : Completes (Ready top config modulePath) (emitAll texts) :=
  fun writer ready => ⟨(), _, emitAll_apply texts writer, ⟨ready.config, ready.modulePath, ready.confined⟩⟩

/-- Registering a dependency succeeds if it says nothing outside a set of needs in which every crate lies at one place.
-/
theorem completes_register (agree : Agree top) {dependency : Dependency} (inside : dependency.needs ⊆ top) :
    Completes (Ready top config modulePath) (register dependency) := by
  intro writer ready
  obtain ⟨changed, manifest, run, confined⟩ := ready.confined.register agree inside
  refine ⟨(), { writer with manifest }, ?_, ⟨ready.config, ready.modulePath, confined⟩⟩
  rw [register_apply, run]

/-- A target with a module path, whose dependency lies in the set, is resolved. -/
theorem completes_resolve (agree : Agree top) (inside : modulePath ≠ "") {target : Target}
    (covered : (Bond.confined top agree).Covers config target.dependencies target.supportItems)
    (fits : target.fits = true) : Completes (Ready top config modulePath) target.resolve := by
  have path : (target.referenceFor config modulePath).modulePath ≠ "" := by
    cases target with
    | fixed reference => simpa [Target.fits, Target.referenceFor] using fits
    | support item => exact item.modulePath_reference_ne_empty config
    | own name => exact inside
  intro writer ready
  rw [Target.resolve_apply, ready.config, ready.modulePath]
  rcases outcome : (target.referenceFor config modulePath).resolve modulePath with failure | ⟨text, _ | dependency⟩
  · rw [Reference.resolve, if_neg (by simpa using path)] at outcome
    split at outcome <;> cases outcome
  · exact ⟨text, writer, rfl, ready⟩
  · have carried := Reference.dependency_of_resolve outcome dependency rfl
    have registers : Completes (Ready top config modulePath) (register dependency) :=
      completes_register agree (covered.admits_dependency carried)
    exact (registers.bind fun _ => .pure text) writer ready

/-- What succeeds on a fresh writer can be filled in. -/
theorem completes_fillWritten (agree : Agree top) {action : Writing Unit}
    (completes : Completes (Ready top config modulePath) action) (leading : Line) :
    Completes (Ready top config modulePath) (fillWritten action leading) := by
  rintro writer ⟨rfl, rfl, confined⟩
  obtain ⟨_, child, ran, ready⟩ := completes _ (ready_new top writer.config writer.modulePath)
  obtain ⟨manifest, merged, confinedAfter⟩ := confined.merge agree ready.confined
  have filled : fillWritten action leading writer =
      .ok (Text.hang leading (Text.join (Text.dropEndWhile List.isEmpty child.lines))) { writer with manifest } := by
    simp only [fillWritten, ran, merged]
  exact ⟨_, _, filled, rfl, rfl, confinedAfter⟩

open Bond (covers_append)

mutual

/-- An operation that fits, whose crates lie in the set, succeeds. -/
theorem Op.completes (agree : Agree top) (inside : modulePath ≠ "") : ∀ {operation : Op},
    (Bond.confined top agree).Covers config operation.dependencies operation.supportItems → operation.fits = true →
    Completes (Ready top config modulePath) operation.run
  | .write template arguments, covered, fits => by
    rw [Op.fits, Bool.and_eq_true] at fits
    rw [Op.run]
    refine completes_render ?_ completes_emitAll (Arguments.all_ofList (completes_fillers agree inside covered fits.2))
    rw [fillers_eq_map, Arguments.ofList_map, Template.fits_map, fits.1]
  | .writeNamed template arguments, covered, fits => by
    rw [Op.fits, Bool.and_eq_true] at fits
    rw [Op.run]
    refine completes_render ?_ completes_emitAll
      (Arguments.all_ofPairs (completes_namedFillers agree inside covered fits.2))
    rw [namedFillers_eq_map, Arguments.ofPairs_map, Template.fits_map, fits.1]
  | .block header arguments body, covered, fits => by
    rw [Op.fits, Bool.and_eq_true, Bool.and_eq_true] at fits
    obtain ⟨⟨fitsHeader, fitsArguments⟩, fitsBody⟩ := fits
    obtain ⟨coveredHeader, coveredBody⟩ := covers_append.mp covered
    have fitsBrace : Template.fits "\x7d" (.ofList ([] : List Filler)) = true := by decide +kernel
    rw [Op.run]
    refine .bind (completes_render ?_ completes_emitAll
        (Arguments.all_ofList (completes_fillers agree inside coveredHeader fitsArguments))) fun _ =>
      .bind (.modify fun _ ready => ⟨ready.config, ready.modulePath, ready.confined⟩) fun _ =>
      .bind (completes_runAll agree inside coveredBody fitsBody) fun _ =>
      .bind (.modify fun _ ready => ⟨ready.config, ready.modulePath, ready.confined⟩) fun _ =>
      completes_render fitsBrace completes_emitAll (Arguments.all_ofList fun _ mem => nomatch mem)
    rw [fillers_eq_map, Arguments.ofList_map, Template.fits_map, fitsHeader]
  | .indent levels, _, _ => by
    rw [Op.run]
    exact .modify fun _ ready => ⟨ready.config, ready.modulePath, ready.confined⟩
  | .dedent levels, _, _ => by
    rw [Op.run]
    exact .modify fun _ ready => ⟨ready.config, ready.modulePath, ready.confined⟩
  | .resolve target, covered, fits => by
    rw [Op.fits] at fits
    rw [Op.run]
    exact .bind (completes_resolve agree inside covered fits) fun _ => .pure _
  | .register dependency, covered, _ => by
    rw [Op.run]
    exact completes_register agree (covered.1 dependency List.mem_cons_self)
  | .insert writable, covered, fits => by
    rw [Op.fits] at fits
    rw [Op.run]
    exact Writable.completes agree inside covered fits
  | .fail error, _, fits => by
    rw [Op.fits] at fits
    cases fits

/-- A program that fits, whose crates lie in the set, succeeds. -/
theorem completes_runAll (agree : Agree top) (inside : modulePath ≠ "") : ∀ {operations : List Op},
    (Bond.confined top agree).Covers config (programDependencies operations) (programSupportItems operations) →
    programFits operations = true → Completes (Ready top config modulePath) (runAll operations)
  | [], _, _ => by
    rw [runAll]
    exact .pure _
  | operation :: rest, covered, fits => by
    rw [programFits, Bool.and_eq_true] at fits
    obtain ⟨coveredFirst, coveredRest⟩ := covers_append.mp covered
    rw [runAll]
    exact .bind (Op.completes agree inside coveredFirst fits.1) fun _ =>
      completes_runAll agree inside coveredRest fits.2

/-- Filling in an argument that fits succeeds if what it mentions lies in a set of needs that agrees. -/
theorem Argument.completes (agree : Agree top) (inside : modulePath ≠ "") : ∀ {argument : Argument},
    (Bond.confined top agree).Covers config argument.dependencies argument.supportItems → argument.fits = true →
    ∀ leading, Completes (Ready top config modulePath) (argument.filler leading)
  | .target target, covered, fits, _ => by
    rw [Argument.fits] at fits
    rw [Argument.filler]
    exact .bind (completes_resolve agree inside covered fits) fun _ => .pure _
  | .text text, _, _, _ => by
    rw [Argument.filler]
    exact .pure _
  | .writable writable, covered, fits, leading => by
    rw [Argument.fits] at fits
    rw [Argument.filler]
    exact completes_fillWritten agree (Writable.completes agree inside covered fits) leading

/-- Filling in arguments that fit succeeds, for each of them, if what they mention lies in a set of needs that agrees.
-/
theorem completes_fillers (agree : Agree top) (inside : modulePath ≠ "") : ∀ {arguments : List Argument},
    (Bond.confined top agree).Covers config (argumentDependencies arguments) (argumentSupportItems arguments) →
    argumentsFit arguments = true →
    ∀ filler ∈ fillers arguments, ∀ leading, Completes (Ready top config modulePath) (filler leading)
  | [], _, _ => by simp [fillers]
  | argument :: rest, covered, fits => by
    rw [argumentsFit, Bool.and_eq_true] at fits
    obtain ⟨coveredFirst, coveredRest⟩ := covers_append.mp covered
    rw [fillers]
    exact List.forall_mem_cons.mpr
      ⟨Argument.completes agree inside coveredFirst fits.1, completes_fillers agree inside coveredRest fits.2⟩

/-- Filling in named arguments that fit succeeds, for each of them, if what they mention lies in a set of needs that
agrees. -/
theorem completes_namedFillers (agree : Agree top) (inside : modulePath ≠ "") :
    ∀ {arguments : List (String × Argument)},
    (Bond.confined top agree).Covers config (namedArgumentDependencies arguments)
      (namedArgumentSupportItems arguments) →
    namedArgumentsFit arguments = true →
    ∀ pair ∈ namedFillers arguments, ∀ leading, Completes (Ready top config modulePath) (pair.2 leading)
  | [], _, _ => by simp [namedFillers]
  | (name, argument) :: rest, covered, fits => by
    rw [namedArgumentsFit, Bool.and_eq_true] at fits
    obtain ⟨coveredFirst, coveredRest⟩ := covers_append.mp covered
    rw [namedFillers]
    exact List.forall_mem_cons.mpr
      ⟨Argument.completes agree inside coveredFirst fits.1, completes_namedFillers agree inside coveredRest fits.2⟩

/-- Writing a writable that fits succeeds if what it mentions lies in a set of needs that agrees. -/
theorem Writable.completes (agree : Agree top) (inside : modulePath ≠ "") : ∀ {writable : Writable},
    (Bond.confined top agree).Covers config writable.dependencies writable.supportItems → writable.fits = true →
    Completes (Ready top config modulePath) writable.run
  | .empty, _, _ => by
    rw [Writable.run]
    exact .pure _
  | .program operations, covered, fits => by
    rw [Writable.fits] at fits
    rw [Writable.run]
    exact completes_runAll agree inside covered fits

end

end Cratewright
