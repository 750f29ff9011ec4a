import Cratewright.Proofs.Program.Mentions
import Cratewright.Proofs.Program.Outline

/-!
# Programs under another prefix

`Retargets` says of an action that it leads from writers drawn by one outline to writers drawn by another one, under
every prefix that can stand in a path, and it composes. A placeholder that comes out blank does so under every prefix,
since a gap is never blank, and a line ends where it ends under every prefix, since a gap holds no newline. Main
statement: whatever a program writes and records on a fresh writer, it is drawn by one outline under all such prefixes.
-/

namespace Cratewright

open Text (Line Sketch Firm)
open Text.Sketch (literal)
open Template (Arguments AssignedLine Piece)

/-- Whether a dependency is an inline module of a family. -/
def Family.Names (family : Family) : Dependency → Prop
  | .crate _ => False
  | .inline definition => family.Member definition

/-- What a family names belongs to it. -/
theorem Family.Names.holds {family : Family} {dependency : Dependency} (names : family.Names dependency) :
    family.Holds dependency := by
  cases dependency with
  | crate => trivial
  | inline => exact names

/-- The outline that brings one inline module. -/
def Outline.ofModule {family : Family} (definition : InlineDependency) (member : family.Member definition) :
    Outline family :=
  { modules := [⟨definition, member⟩] }

/-- The outline that brings one known crate. -/
def Outline.ofCrate (family : Family) (known : KnownCrate) : Outline family := { crates := [known] }

/-- Whether an action on writers of a module, which may depend on what stands for the prefix, leads from any outline to
another one, with a value that is the same shape filled in under every prefix. -/
def Retargets (family : Family) (modulePath : String) {Shape Value : Type} (fill : Line → Shape → Value)
    (action : Line → Writing Value) : Prop :=
  ∀ outline : Outline family, ∃ (after : Outline family) (shape : Shape),
    ∀ {config : RuntimeConfig} {writer next : Writer} {value : Value}, config.Plain →
      outline.Draws config modulePath writer → action config.stem writer = .ok value next →
      after.Draws config modulePath next ∧ value = fill config.stem shape

/-- What fills a sketch of several lines. -/
def fillAll (stem : Line) (lines : List Sketch) : List Line := lines.map (Sketch.fill stem)

/-- What fills the sketch of a text. -/
def fillText (stem : Line) (sketch : Sketch) : String := String.ofList (sketch.fill stem)

/-- The only value of an action without a result. -/
def fillNothing (_ : Line) (_ : Unit) : Unit := ()

section

variable {family : Family} {modulePath : String} {Shape Value OtherShape Result : Type} {fill : Line → Shape → Value}
  {fillResult : Line → OtherShape → Result}

namespace Retargets

/-- A value that fits one shape for every stem keeps it when it is returned. -/
theorem pure {value : Line → Value} (shape : Shape) (same : ∀ {stem}, Firm stem → value stem = fill stem shape) :
    Retargets family modulePath fill fun stem => Pure.pure (value stem) := by
  intro outline
  refine ⟨outline, shape, fun plain draws run => ?_⟩
  cases run
  exact ⟨draws, same plain.firm⟩

/-- A failure is the same for every stem. -/
theorem throw (shape : Shape) (failure : CodegenError) :
    Retargets family modulePath fill fun _ => throw failure :=
  fun outline => ⟨outline, shape, fun _ _ run => nomatch run⟩

/-- Only what an action does on writers of the module counts. -/
theorem congr {action other : Line → Writing Value} (retargets : Retargets family modulePath fill other)
    (same : ∀ {outline : Outline family} {config writer}, outline.Draws config modulePath writer →
      action config.stem writer = other config.stem writer) : Retargets family modulePath fill action := by
  intro outline
  obtain ⟨after, shape, leads⟩ := retargets outline
  exact ⟨after, shape, fun plain draws run => leads plain draws (same draws ▸ run)⟩

/-- A change of writers that is a change of outlines. -/
theorem modify {change : Writer → Writer} (redraw : Outline family → Outline family)
    (draws : ∀ {outline config writer}, outline.Draws config modulePath writer →
      (redraw outline).Draws config modulePath (change writer)) :
    Retargets family modulePath fillNothing fun _ => modify change := by
  intro outline
  refine ⟨redraw outline, (), fun _ drawn run => ?_⟩
  cases run
  exact ⟨draws drawn, rfl⟩

/-- An action in two steps, where the second one is known for each shape of what the first one answers. -/
theorem bind {first : Line → Writing Value} {second : Line → Value → Writing Result}
    (retargets : Retargets family modulePath fill first)
    (retargetsAfter : ∀ shape, Retargets family modulePath fillResult fun stem => second stem (fill stem shape)) :
    Retargets family modulePath fillResult fun stem => first stem >>= second stem := by
  intro outline
  obtain ⟨between, shape, leads⟩ := retargets outline
  obtain ⟨after, result, leadsOn⟩ := retargetsAfter shape between
  refine ⟨after, result, fun plain draws run => ?_⟩
  obtain ⟨value, next, ran, runAfter⟩ := Action.ok_of_bind run
  obtain ⟨drawsNext, rfl⟩ := leads plain draws ran
  exact leadsOn plain drawsNext runAfter

end Retargets

open Retargets

namespace Writer

/-- What pieces fill in is a sketch if each value is. -/
theorem retargets_fill {leading : Line} {pieces : List (Piece Filler)}
    (fillers : ∀ filler, .value filler ∈ pieces → ∀ leading,
      Retargets family modulePath Sketch.fill fun _ => filler leading) :
    Retargets family modulePath Sketch.fill fun _ => Writer.fill leading pieces := by
  induction pieces with
  | nil => exact .pure [] fun _ => rfl
  | cons piece rest ih =>
    have later := ih fun filler mem => fillers filler (List.mem_cons_of_mem _ mem)
    cases piece with
    | text text => exact .bind later fun sketch => .pure (literal text ++ sketch) fun _ => by simp
    | value filler =>
      refine .bind (fillers filler List.mem_cons_self leading) fun first => ?_
      exact .bind later fun sketch => .pure (first ++ sketch) fun _ => by simp

/-- Whether a line with placeholders comes out blank does not depend on the prefix. -/
theorem retargets_fillLines {lines : List (AssignedLine Filler)}
    (fillers : ∀ line ∈ lines, ∀ filler, .value filler ∈ line.pieces → ∀ leading,
      Retargets family modulePath Sketch.fill fun _ => filler leading) :
    Retargets family modulePath fillAll fun _ => fillLines lines := by
  induction lines with
  | nil => exact .pure [] fun _ => rfl
  | cons line rest ih =>
    have ⟨first, later⟩ := List.forall_mem_cons.mp fillers
    refine .bind (retargets_fill first) fun text => .bind (ih later) fun texts => ?_
    refine .pure (if line.hasValue && text.blank then texts else text :: texts) fun firm => ?_
    rw [Sketch.blank_fill firm]
    split <;> rfl

/-- Emitting texts with gaps leaves one outline for every stem. -/
theorem retargets_emitAll (texts : List Sketch) :
    Retargets family modulePath fillNothing fun stem => emitAll (fillAll stem texts) := by
  intro outline
  refine ⟨{ outline with lines := outline.lines ++ (texts.flatMap Sketch.split).map (Sketch.layOut outline.level) },
    (), fun {config writer next value} plain draws run => ?_⟩
  have cut : (fillAll config.stem texts).flatMap Text.split = fillAll config.stem (texts.flatMap Sketch.split) := by
    rw [fillAll, List.flatMap_map, fillAll, List.map_flatMap]
    exact congrArg (texts.flatMap ·) (funext fun text => Sketch.split_fill plain.firm text)
  have laidOut : (fillAll config.stem (texts.flatMap Sketch.split)).map (layOut writer.level) =
      ((texts.flatMap Sketch.split).map (Sketch.layOut outline.level)).map (Sketch.fill config.stem) := by
    rw [draws.level, fillAll, List.map_map, List.map_map]
    exact List.map_congr_left fun line _ => Sketch.layOut_fill plain.firm outline.level line
  have ran := emitAll_apply (fillAll config.stem texts) writer
  rw [cut] at ran
  cases ran.symm.trans run
  refine ⟨⟨draws.configured, draws.named, ?_, draws.level, draws.coherent, draws.needs⟩, rfl⟩
  rw [appended, laidOut, draws.lines, List.map_append]

/-- Going levels deeper has one outline for every stem. -/
theorem retargets_indentBy (levels : Nat) :
    Retargets family modulePath fillNothing fun _ => indentBy levels :=
  .modify (fun outline => { outline with level := outline.level + levels }) fun draws =>
    { draws with level := congrArg (· + levels) draws.level }

/-- Coming back levels has one outline for every stem. -/
theorem retargets_dedentBy (levels : Nat) :
    Retargets family modulePath fillNothing fun _ => dedentBy levels :=
  .modify (fun outline => { outline with level := outline.level - levels }) fun draws =>
    { draws with level := congrArg (· - levels) draws.level }

/-- A template is written under every prefix as it is under one. -/
theorem retargets_render (template : String) {arguments : Arguments Filler}
    (all : arguments.All fun filler => ∀ leading, Retargets family modulePath Sketch.fill fun _ => filler leading) :
    Retargets family modulePath fillNothing fun _ => render template arguments := by
  unfold render
  refine .bind (retargets_fillLines (Template.all_assignLines all)) fun texts => ?_
  cases (Template.assign template arguments).fault with
  | some fault => exact .throw () _
  | none => exact retargets_emitAll texts

/-- What an action writes on a fresh writer is filled in as a sketch. -/
theorem retargets_fillWritten {action : Writing Unit}
    (retargets : Retargets family modulePath fillNothing fun _ => action) (leading : Line) :
    Retargets family modulePath Sketch.fill fun _ => fillWritten action leading := by
  intro outline
  obtain ⟨inner, _, leads⟩ := retargets {}
  refine ⟨outline.also inner,
    (Sketch.join (Text.dropEndWhile List.isEmpty inner.lines)).hang leading,
    fun {config writer next text} plain draws run => ?_⟩
  have fresh : Writer.new writer.config writer.modulePath = Writer.new config modulePath := by
    rw [draws.configured, draws.named]
  replace run : fillWritten action leading writer = .ok text next := run
  rw [fillWritten, fresh] at run
  split at run
  · cases run
  · rename_i child ran
    obtain ⟨drawsChild, -⟩ := leads plain (Outline.draws_new family config modulePath) ran
    split at run <;> cases run
    rename_i manifest merged
    constructor
    · refine draws.also (draws.coherent.merge drawsChild.coherent merged) ?_
      rw [draws.coherent.needs_of_merge drawsChild.coherent merged, drawsChild.needs]
    · rw [drawsChild.lines, Sketch.dropEndWhile_isEmpty_fill plain.firm, ← Sketch.fill_join,
        Sketch.hang_fill plain.firm]

end Writer

/-- Recording what an outline brings. -/
theorem Outline.Draws.register {outline other : Outline family} {config : RuntimeConfig} {writer next : Writer}
    {dependency : Dependency} (draws : outline.Draws config modulePath writer) (held : family.Holds dependency)
    (brings : other.brought config = [dependency]) (run : Writer.register dependency writer = .ok () next) :
    (outline.also other).Draws config modulePath next := by
  rw [Writer.register_apply] at run
  split at run <;> cases run
  rename_i changed manifest registered
  have coherent := Family.keeps_coherent_register held writer.manifest draws.coherent
  rw [registered] at coherent
  refine draws.also coherent ?_
  rw [draws.coherent.needs_of_register held registered, brings, Dependency.needsOfAll, Dependency.needsOfAll,
    Set.union_empty]

/-- Recording an inline module of the family is the same under every prefix. -/
theorem retargets_register {dependency : Dependency} (names : family.Names dependency) :
    Retargets family modulePath fillNothing fun _ => Writer.register dependency := by
  intro outline
  cases dependency with
  | crate => exact names.elim
  | inline definition =>
    exact ⟨outline.also (.ofModule definition names), (), fun _ draws run => ⟨draws.register names.holds rfl run, rfl⟩⟩

/-- A reference that is the same under every prefix resolves to the same text. -/
theorem retargets_resolve_fixed {target : Target} {reference : Reference}
    (means : ∀ config, target.referenceFor config modulePath = reference)
    (named : ∀ dependency ∈ reference.dependency, family.Names dependency) :
    Retargets family modulePath fillText fun _ => target.resolve := by
  rcases outcome : reference.resolve modulePath with failure | ⟨text, _ | dependency⟩
  · have fails : Retargets family modulePath fillText fun _ => throw failure := .throw [] failure
    refine fails.congr fun draws => ?_
    rw [Target.resolve_apply, draws.named, means, outcome]
    rfl
  · have answers : Retargets family modulePath fillText fun _ => pure text :=
      .pure (literal text.toList) fun _ => by simp [fillText]
    refine answers.congr fun draws => ?_
    rw [Target.resolve_apply, draws.named, means, outcome]
    rfl
  · have carried := named dependency (Reference.dependency_of_resolve outcome dependency rfl)
    have registers : Retargets family modulePath fillText fun _ =>
        (Writer.register dependency >>= fun _ => pure text : Writing String) :=
      (retargets_register carried).bind fun _ => .pure (literal text.toList) fun _ => by simp [fillText]
    refine registers.congr fun draws => ?_
    rw [Target.resolve_apply, draws.named, means, outcome]

/-- A support item resolves to its sketch and records its crate. -/
theorem retargets_resolve_support (item : SupportItem) :
    Retargets family modulePath fillText fun _ => (Target.support item).resolve := by
  intro outline
  refine ⟨outline.also (.ofCrate family item.owner), item.sketch, fun {config writer next text} plain draws run => ?_⟩
  have resolved : (item.reference config).resolve modulePath =
      .ok ⟨(item.reference config).fullPath, some (.crate (item.owner.declaration config))⟩ :=
    Reference.resolve_of_ne_empty (item.modulePath_reference_ne_empty config) (.inr rfl) modulePath
  replace run : (Target.support item).resolve writer = .ok text next := run
  rw [Target.resolve_apply, draws.configured, draws.named, Target.referenceFor, resolved] at run
  obtain ⟨_, between, registered, ended⟩ := Action.ok_of_bind run
  cases ended
  have held : family.Holds (.crate (item.owner.declaration config)) := trivial
  refine ⟨draws.register held rfl registered, ?_⟩
  rw [fillText, item.fill_sketch plain, String.ofList_toList]

/-- Resolving a target that names the family has one outline for every prefix. -/
theorem Target.retargets_resolve {target : Target}
    (named : ∀ dependency ∈ target.dependencies, family.Names dependency) :
    Retargets family modulePath fillText fun _ => target.resolve := by
  cases target with
  | fixed reference =>
    exact retargets_resolve_fixed (fun _ => rfl) fun dependency found =>
      named dependency (Option.mem_toList.mpr found)
  | support item => exact retargets_resolve_support item
  | own name => exact retargets_resolve_fixed (fun _ => rfl) nofun

open Writer

mutual

/-- An operation that mentions no dependencies but inline modules of a family does the same under every prefix. -/
theorem Op.retargets : ∀ {operation : Op}, (∀ dependency ∈ operation.dependencies, family.Names dependency) →
    Retargets family modulePath fillNothing fun _ => operation.run
  | .write template arguments, named => by
    simp only [Op.run]
    exact retargets_render template (Arguments.all_ofList (retargets_fillers named))
  | .writeNamed template arguments, named => by
    simp only [Op.run]
    exact retargets_render template (Arguments.all_ofPairs (retargets_namedFillers named))
  | .block header arguments body, named => by
    rw [Op.dependencies, List.forall_mem_append] at named
    simp only [Op.run]
    exact .bind (retargets_render _ (Arguments.all_ofList (retargets_fillers named.1))) fun _ =>
      .bind (retargets_indentBy 1) fun _ =>
      .bind (retargets_runAll named.2) fun _ =>
      .bind (retargets_dedentBy 1) fun _ =>
      retargets_render _ (Arguments.all_ofList fun _ mem => nomatch mem)
  | .indent levels, _ => by
    simp only [Op.run]
    exact retargets_indentBy levels
  | .dedent levels, _ => by
    simp only [Op.run]
    exact retargets_dedentBy levels
  | .resolve target, named => by
    simp only [Op.run]
    exact .bind (target.retargets_resolve named) fun _ => .pure () fun _ => rfl
  | .register dependency, named => by
    simp only [Op.run]
    exact retargets_register (named dependency List.mem_cons_self)
  | .insert writable, named => by
    simp only [Op.run]
    exact Writable.retargets named
  | .fail error, _ => by
    simp only [Op.run]
    exact .throw () error

/-- A program that mentions no dependencies but inline modules of a family does the same under every prefix. -/
theorem retargets_runAll : ∀ {operations : List Op},
    (∀ dependency ∈ programDependencies operations, family.Names dependency) →
    Retargets family modulePath fillNothing fun _ => runAll operations
  | [], _ => by
    simp only [runAll]
    exact .pure () fun _ => rfl
  | operation :: rest, named => by
    rw [programDependencies, List.forall_mem_append] at named
    simp only [runAll]
    exact .bind (Op.retargets named.1) fun _ => retargets_runAll named.2

/-- Filling in an argument that names the family has one outline for every prefix. -/
theorem Argument.retargets : ∀ {argument : Argument},
    (∀ dependency ∈ argument.dependencies, family.Names dependency) →
    ∀ leading, Retargets family modulePath Sketch.fill fun _ => argument.filler leading
  | .target target, named, _ => by
    simp only [Argument.filler]
    exact .bind (target.retargets_resolve named) fun sketch => .pure sketch fun _ => by simp [fillText]
  | .text text, _, leading => by
    simp only [Argument.filler]
    exact .pure (literal (Text.hang leading text.toList)) fun _ => by simp
  | .writable writable, named, leading => by
    simp only [Argument.filler]
    exact retargets_fillWritten (Writable.retargets named) leading

/-- Filling in arguments that name the family has one outline for every prefix, for each of them. -/
theorem retargets_fillers : ∀ {arguments : List Argument},
    (∀ dependency ∈ argumentDependencies arguments, family.Names dependency) →
    ∀ filler ∈ fillers arguments, ∀ leading, Retargets family modulePath Sketch.fill fun _ => filler leading
  | [], _ => by simp [fillers]
  | argument :: rest, named => by
    rw [argumentDependencies, List.forall_mem_append] at named
    rw [fillers]
    exact List.forall_mem_cons.mpr ⟨Argument.retargets named.1, retargets_fillers named.2⟩

/-- Filling in named arguments that name the family has one outline for every prefix, for each of them. -/
theorem retargets_namedFillers : ∀ {arguments : List (String × Argument)},
    (∀ dependency ∈ namedArgumentDependencies arguments, family.Names dependency) →
    ∀ pair ∈ namedFillers arguments, ∀ leading, Retargets family modulePath Sketch.fill fun _ => pair.2 leading
  | [], _ => by simp [namedFillers]
  | (name, argument) :: rest, named => by
    rw [namedArgumentDependencies, List.forall_mem_append] at named
    rw [namedFillers]
    exact List.forall_mem_cons.mpr ⟨Argument.retargets named.1, retargets_namedFillers named.2⟩

/-- Writing a writable that names the family has one outline for every prefix. -/
theorem Writable.retargets : ∀ {writable : Writable},
    (∀ dependency ∈ writable.dependencies, family.Names dependency) →
    Retargets family modulePath fillNothing fun _ => writable.run
  | .empty, _ => by
    simp only [Writable.run]
    exact .pure () fun _ => rfl
  | .program operations, named => by
    simp only [Writable.run]
    exact retargets_runAll named

end

/-- What a program leaves on a fresh writer is drawn by one outline under every prefix that can stand in a path. -/
theorem exists_outline (modulePath : String) {operations : Program}
    (named : ∀ dependency ∈ programDependencies operations, family.Names dependency) :
    ∃ outline : Outline family, ∀ {config : RuntimeConfig} {writer : Writer}, config.Plain →
      runAll operations (Writer.new config modulePath) = .ok () writer →
      outline.Draws config modulePath writer := by
  have retargets : Retargets family modulePath fillNothing fun _ => runAll operations := retargets_runAll named
  obtain ⟨outline, _, leads⟩ := retargets {}
  refine ⟨outline, fun {config _} plain run => ?_⟩
  exact (leads plain (Outline.draws_new family config modulePath) run).1

end

end Cratewright
