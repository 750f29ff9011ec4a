import Cratewright.Proofs.Program.Demand
import Cratewright.Proofs.Template.Mapping
import Cratewright.Proofs.Writer.Emission

/-!
# Recording straight into one manifest

A program runs a writable argument on a child writer, with a manifest of its own that is merged into the manifest of
the parent. `recordAll` is the same program without children and without text: each dependency goes, when its turn
comes, into one manifest. Main statement: in a family the two succeed together and leave equal manifests, so no
dependency is lost and no conflict overlooked on the way through any number of children.
-/

namespace Cratewright

open Template (Arguments AssignedLine Piece)

/-- Registrations one after another. -/
def inOrder : List (Registration Unit) → Registration Unit
  | [] => return
  | first :: rest => do
    first
    inOrder rest

/-- Records what stands at the placeholders of a template, in reading order up to a fault. -/
def recordTemplate (template : String) (arguments : Arguments (Registration Unit)) : Registration Unit := do
  let assignment := Template.assign template arguments
  inOrder assignment.values
  match assignment.fault with
  | some fault => throw (.template fault)
  | none => return

/-- Records the dependency of what a target stands for in a module. -/
def Target.record (config : RuntimeConfig) (modulePath : String) (target : Target) : Registration Unit :=
  match (target.referenceFor config modulePath).resolve modulePath with
  | .error failure => throw failure
  | .ok resolved =>
    match resolved.dependency with
    | some dependency => do
      let _ ← Manifest.register dependency
    | none => return

mutual

/-- Records what an operation of a module needs. -/
def Op.record (config : RuntimeConfig) (modulePath : String) : Op → Registration Unit
  | .write template arguments => recordTemplate template (.ofList (recorders config modulePath arguments))
  | .writeNamed template arguments => recordTemplate template (.ofPairs (namedRecorders config modulePath arguments))
  | .block header arguments body => do
    recordTemplate (header ++ " \x7b") (.ofList (recorders config modulePath arguments))
    recordAll config modulePath body
    recordTemplate "\x7d" (.ofList [])
  | .indent _ => return
  | .dedent _ => return
  | .resolve target => target.record config modulePath
  | .register dependency => do
    let _ ← Manifest.register dependency
  | .insert writable => writable.record config modulePath
  | .fail error => throw error

/-- Records what the operations of a module need, up to the first that fails. -/
def recordAll (config : RuntimeConfig) (modulePath : String) : List Op → Registration Unit
  | [] => return
  | operation :: rest => do
    operation.record config modulePath
    recordAll config modulePath rest

/-- Records what an argument needs. -/
def Argument.record (config : RuntimeConfig) (modulePath : String) : Argument → Registration Unit
  | .target target => target.record config modulePath
  | .text _ => return
  | .writable writable => writable.record config modulePath

/-- Records what positional arguments need. -/
def recorders (config : RuntimeConfig) (modulePath : String) : List Argument → List (Registration Unit)
  | [] => []
  | argument :: rest => argument.record config modulePath :: recorders config modulePath rest

/-- Records what named arguments need. -/
def namedRecorders (config : RuntimeConfig) (modulePath : String) :
    List (String × Argument) → List (String × Registration Unit)
  | [] => []
  | (name, argument) :: rest => (name, argument.record config modulePath) :: namedRecorders config modulePath rest

/-- Records what a writable needs. -/
def Writable.record (config : RuntimeConfig) (modulePath : String) : Writable → Registration Unit
  | .empty => return
  | .program operations => recordAll config modulePath operations

end

/-- Registrations in two parts register the second part after the first. -/
theorem inOrder_append (first second : List (Registration Unit)) :
    inOrder (first ++ second) = (inOrder first >>= fun _ => inOrder second) := by
  induction first with
  | nil => simp [inOrder]
  | cons registration rest ih => simp [inOrder, ih]

variable {family : Family} {config : RuntimeConfig} {modulePath : String}

/-- Whether an action on the writers of a module and a registration have one demand. -/
def Alike (family : Family) (config : RuntimeConfig) (modulePath : String) {Value Result : Type}
    (action : Writing Value) (registration : Registration Result) : Prop :=
  ∃ demand, Records (family.writers config modulePath) demand action ∧ Records family.manifests demand registration

/-- Whether a filler has, wherever it stands, the demand of a registration. -/
def FillsAlike (family : Family) (config : RuntimeConfig) (modulePath : String)
    (pair : Filler × Registration Unit) : Prop :=
  ∃ demand, (∀ leading, Records (family.writers config modulePath) demand (pair.1 leading)) ∧
    Records family.manifests demand pair.2

/-- Emitting texts records nothing. -/
theorem records_emitAll (texts : List (List Char)) :
    Records (family.writers config modulePath) .nothing (Writer.emitAll texts) := by
  induction texts with
  | nil => exact .pure _
  | cons text rest ih => exact .after (.modify (fun _ => rfl) fun _ considered => considered) fun _ => ih

/-- Going levels deeper records nothing. -/
theorem records_indentBy (levels : Nat) :
    Records (family.writers config modulePath) .nothing (Writer.indentBy levels) :=
  .modify (fun _ => rfl) fun _ considered => considered

/-- Coming back levels records nothing. -/
theorem records_dedentBy (levels : Nat) :
    Records (family.writers config modulePath) .nothing (Writer.dedentBy levels) :=
  .modify (fun _ => rfl) fun _ considered => considered

/-- Filling in a line has the demand of the registrations for its values, in order. -/
theorem alike_fill {leading : Text.Line} {pieces : List (Piece (Filler × Registration Unit))}
    (alike : ∀ pair, .value pair ∈ pieces → FillsAlike family config modulePath pair) :
    Alike family config modulePath (Writer.fill leading (pieces.map (Piece.map Prod.fst)))
      (inOrder ((AssignedLine.values ⟨leading, pieces⟩).map Prod.snd)) := by
  induction pieces with
  | nil => exact ⟨.nothing, .pure _, .pure _⟩
  | cons piece rest ih =>
    obtain ⟨later, action, registration⟩ := ih fun pair mem => alike pair (List.mem_cons_of_mem _ mem)
    cases piece with
    | text literal => exact ⟨later, action.map _, registration⟩
    | value pair =>
      obtain ⟨first, filler, recorder⟩ := alike pair List.mem_cons_self
      exact ⟨first.also later, (filler leading).bind fun _ => action.map _, recorder.bind fun _ => registration⟩

/-- Filling in lines has the demand of the registrations for their values, in order. -/
theorem alike_fillLines {lines : List (AssignedLine (Filler × Registration Unit))}
    (alike : ∀ line ∈ lines, ∀ pair, .value pair ∈ line.pieces → FillsAlike family config modulePath pair) :
    Alike family config modulePath (Writer.fillLines (lines.map (AssignedLine.map Prod.fst)))
      (inOrder ((lines.flatMap AssignedLine.values).map Prod.snd)) := by
  induction lines with
  | nil => exact ⟨.nothing, .pure _, .pure _⟩
  | cons line rest ih =>
    obtain ⟨alikeFirst, alikeRest⟩ := List.forall_mem_cons.mp alike
    obtain ⟨first, action, registration⟩ := alike_fill alikeFirst
    obtain ⟨later, actionRest, registrationRest⟩ := ih alikeRest
    refine ⟨first.also later, action.bind fun _ => actionRest.map _, ?_⟩
    rw [List.flatMap_cons, List.map_append, inOrder_append]
    exact registration.bind fun _ => registrationRest

/-- Writing a template demands what stands at its placeholders and that the arguments fit. -/
theorem alike_render (template : String) {arguments : Arguments (Filler × Registration Unit)}
    (alike : arguments.All (FillsAlike family config modulePath)) :
    Alike family config modulePath (Writer.render template (arguments.map Prod.fst))
      (recordTemplate template (arguments.map Prod.snd)) := by
  obtain ⟨filled, action, registration⟩ := alike_fillLines (Template.all_assignLines alike)
  rw [Writer.render, recordTemplate, Template.assign_map, Template.assign_map, Template.Assignment.values_map]
  cases faulty : (Template.assign template arguments).fault with
  | some fault =>
    refine ⟨filled.also .impossible, action.bind fun _ => ?_, registration.bind fun _ => ?_⟩
    · simp only [Template.Assignment.map, faulty]
      exact .throw _
    · simp only [Template.Assignment.map, faulty]
      exact .throw _
  | none =>
    refine ⟨filled.also .nothing, action.bind fun _ => ?_, registration.bind fun _ => ?_⟩
    · simp only [Template.Assignment.map, faulty]
      exact records_emitAll _
    · simp only [Template.Assignment.map, faulty]
      exact .pure _

/-- The dependency that a target of the family resolves to belongs to the family. -/
theorem Target.holds_of_resolve {target : Target} {resolved : Resolved}
    (held : ∀ dependency ∈ target.dependencies, family.Holds dependency)
    (outcome : (target.referenceFor config modulePath).resolve modulePath = .ok resolved) :
    ∀ dependency ∈ resolved.dependency, family.Holds dependency := by
  intro dependency found
  have carried := Reference.dependency_of_resolve outcome dependency found
  cases target with
  | fixed reference => exact held dependency (Option.mem_toList.mpr carried)
  | support item =>
    cases carried
    trivial
  | own name => cases carried

/-- Resolving a target demands the dependency of what it stands for. -/
theorem Target.alike_resolve {target : Target}
    (held : ∀ dependency ∈ target.dependencies, family.Holds dependency) :
    Alike family config modulePath target.resolve (target.record config modulePath) := by
  rw [Target.record]
  rcases outcome : (target.referenceFor config modulePath).resolve modulePath with failure | ⟨text, _ | dependency⟩
  · refine ⟨.impossible, .congr (.throw failure) fun writer considered => ?_, .throw failure⟩
    obtain ⟨rfl, rfl, -⟩ := considered
    rw [Target.resolve_apply, outcome]
    rfl
  · refine ⟨.nothing, .congr (.pure text) fun writer considered => ?_, .pure ()⟩
    obtain ⟨rfl, rfl, -⟩ := considered
    rw [Target.resolve_apply, outcome]
    rfl
  · have held := Target.holds_of_resolve held outcome dependency rfl
    have records := family.records_register held
    have written : Records (family.writers config modulePath) _ (Writer.register dependency >>= fun _ => pure text) :=
      ((family.records_onManifest records).map fun _ => ()).map fun _ => text
    refine ⟨_, written.congr fun writer considered => ?_, records.map fun _ => ()⟩
    obtain ⟨rfl, rfl, -⟩ := considered
    rw [Target.resolve_apply, outcome]

/-- Whether fillers have, one by one, the demands of registrations. -/
def AllFillAlike (family : Family) (config : RuntimeConfig) (modulePath : String) (fillers : List Filler)
    (registrations : List (Registration Unit)) : Prop :=
  ∃ pairs : List (Filler × Registration Unit), pairs.map Prod.fst = fillers ∧ pairs.map Prod.snd = registrations ∧
    ∀ pair ∈ pairs, FillsAlike family config modulePath pair

/-- Whether named fillers have, one by one, the demands of registrations of the same names. -/
def AllFillAlikeNamed (family : Family) (config : RuntimeConfig) (modulePath : String)
    (fillers : List (String × Filler)) (registrations : List (String × Registration Unit)) : Prop :=
  ∃ pairs : List (String × Filler × Registration Unit),
    (pairs.map fun (name, pair) => (name, pair.1)) = fillers ∧
    (pairs.map fun (name, pair) => (name, pair.2)) = registrations ∧
    ∀ pair ∈ pairs, FillsAlike family config modulePath pair.2

/-- Rendering a template has the demand of recording it, if its fillers have those of the registrations. -/
theorem AllFillAlike.render {fillers : List Filler} {registrations : List (Registration Unit)}
    (alike : AllFillAlike family config modulePath fillers registrations) (template : String) :
    Alike family config modulePath (Writer.render template (.ofList fillers))
      (recordTemplate template (.ofList registrations)) := by
  obtain ⟨pairs, rfl, rfl, alike⟩ := alike
  rw [Arguments.ofList_map, Arguments.ofList_map]
  exact alike_render template (Template.Arguments.all_ofList alike)

/-- Rendering a template with named fillers has the demand of recording it, if these have those of the registrations. -/
theorem AllFillAlikeNamed.render {fillers : List (String × Filler)}
    {registrations : List (String × Registration Unit)}
    (alike : AllFillAlikeNamed family config modulePath fillers registrations) (template : String) :
    Alike family config modulePath (Writer.render template (.ofPairs fillers))
      (recordTemplate template (.ofPairs registrations)) := by
  obtain ⟨pairs, rfl, rfl, alike⟩ := alike
  rw [Arguments.ofPairs_map Prod.fst, Arguments.ofPairs_map Prod.snd]
  exact alike_render template (Template.Arguments.all_ofPairs alike)

/-- Actions one after another have the demand of their registrations one after another. -/
theorem Alike.andThen {Value Result : Type} {first : Writing Value} {recordFirst : Registration Result}
    {second : Writing Unit} {recordSecond : Registration Unit}
    (alike : Alike family config modulePath first recordFirst)
    (alikeAfter : Alike family config modulePath second recordSecond) :
    Alike family config modulePath (first >>= fun _ => second) (recordFirst >>= fun _ => recordSecond) := by
  obtain ⟨demand, action, registration⟩ := alike
  obtain ⟨further, actionAfter, registrationAfter⟩ := alikeAfter
  exact ⟨demand.also further, action.bind fun _ => actionAfter, registration.bind fun _ => registrationAfter⟩

/-- A step that demands nothing has no counterpart. -/
theorem Alike.silently {Value Result : Type} {first : Writing Unit} {second : Writing Value}
    {registration : Registration Result} (silent : Records (family.writers config modulePath) .nothing first)
    (alike : Alike family config modulePath second registration) :
    Alike family config modulePath (first >>= fun _ => second) registration := by
  obtain ⟨demand, action, registration⟩ := alike
  exact ⟨demand, silent.after fun _ => action, registration⟩

mutual

/-- An operation and its record have one demand. -/
theorem Op.alike : ∀ {operation : Op}, (∀ dependency ∈ operation.dependencies, family.Holds dependency) →
    Alike family config modulePath operation.run (operation.record config modulePath)
  | .write template arguments, held => by
    rw [Op.run, Op.record]
    exact (allFillAlike held).render template
  | .writeNamed template arguments, held => by
    rw [Op.run, Op.record]
    exact (allFillAlikeNamed held).render template
  | .block header arguments body, held => by
    rw [Op.dependencies, List.forall_mem_append] at held
    have close : Alike family config modulePath (Writer.render "\x7d" (.ofList []))
        (recordTemplate "\x7d" (.ofList [])) :=
      AllFillAlike.render ⟨[], rfl, rfl, fun _ mem => nomatch mem⟩ _
    rw [Op.run, Op.record]
    exact ((allFillAlike held.1).render _).andThen
      (.silently (records_indentBy 1) ((alike_runAll held.2).andThen (.silently (records_dedentBy 1) close)))
  | .indent levels, _ => by
    rw [Op.run, Op.record]
    exact ⟨.nothing, records_indentBy levels, .pure ()⟩
  | .dedent levels, _ => by
    rw [Op.run, Op.record]
    exact ⟨.nothing, records_dedentBy levels, .pure ()⟩
  | .resolve target, held => by
    obtain ⟨demand, action, registration⟩ : Alike family config modulePath _ _ := target.alike_resolve held
    rw [Op.run, Op.record]
    exact ⟨demand, action.map fun _ => (), registration⟩
  | .register dependency, held => by
    have registration := family.records_register (held dependency List.mem_cons_self)
    rw [Op.run, Op.record]
    exact ⟨_, (family.records_onManifest registration).map fun _ => (), registration.map fun _ => ()⟩
  | .insert writable, held => by
    rw [Op.run, Op.record]
    exact Writable.alike held
  | .fail error, _ => by
    rw [Op.run, Op.record]
    exact ⟨.impossible, .throw error, .throw error⟩

/-- A program and its record have one demand. -/
theorem alike_runAll : ∀ {operations : List Op},
    (∀ dependency ∈ programDependencies operations, family.Holds dependency) →
    Alike family config modulePath (runAll operations) (recordAll config modulePath operations)
  | [], _ => by
    rw [runAll, recordAll]
    exact ⟨.nothing, .pure (), .pure ()⟩
  | operation :: rest, held => by
    rw [programDependencies, List.forall_mem_append] at held
    rw [runAll, recordAll]
    exact (Op.alike held.1).andThen (alike_runAll held.2)

/-- Filling in an argument of the family has the demand of recording it. -/
theorem Argument.alike : ∀ {argument : Argument}, (∀ dependency ∈ argument.dependencies, family.Holds dependency) →
    FillsAlike family config modulePath (argument.filler, argument.record config modulePath)
  | .target target, held => by
    obtain ⟨demand, action, registration⟩ : Alike family config modulePath _ _ := target.alike_resolve held
    rw [Argument.filler, Argument.record]
    exact ⟨demand, fun _ => action.map _, registration⟩
  | .text text, _ => by
    rw [Argument.filler, Argument.record]
    exact ⟨.nothing, fun _ => .pure _, .pure ()⟩
  | .writable writable, held => by
    obtain ⟨demand, action, registration⟩ : Alike family config modulePath writable.run _ := Writable.alike held
    rw [Argument.filler, Argument.record]
    exact ⟨demand, family.records_fillWritten action, registration⟩

/-- Filling in arguments of the family has the demands of recording each one. -/
theorem allFillAlike : ∀ {arguments : List Argument},
    (∀ dependency ∈ argumentDependencies arguments, family.Holds dependency) →
    AllFillAlike family config modulePath (fillers arguments) (recorders config modulePath arguments)
  | [], _ => ⟨[], rfl, rfl, fun _ mem => nomatch mem⟩
  | argument :: rest, held => by
    rw [argumentDependencies, List.forall_mem_append] at held
    obtain ⟨pairs, fills, records, alike⟩ := allFillAlike held.2
    refine ⟨(argument.filler, argument.record config modulePath) :: pairs, ?_, ?_, ?_⟩
    · rw [List.map_cons, fills, fillers]
    · rw [List.map_cons, records, recorders]
    · exact List.forall_mem_cons.mpr ⟨Argument.alike held.1, alike⟩

/-- Filling in named arguments of the family has the demands of recording each one under its name. -/
theorem allFillAlikeNamed : ∀ {arguments : List (String × Argument)},
    (∀ dependency ∈ namedArgumentDependencies arguments, family.Holds dependency) →
    AllFillAlikeNamed family config modulePath (namedFillers arguments) (namedRecorders config modulePath arguments)
  | [], _ => ⟨[], rfl, rfl, fun _ mem => nomatch mem⟩
  | (name, argument) :: rest, held => by
    rw [namedArgumentDependencies, List.forall_mem_append] at held
    obtain ⟨pairs, fills, records, alike⟩ := allFillAlikeNamed held.2
    refine ⟨(name, argument.filler, argument.record config modulePath) :: pairs, ?_, ?_, ?_⟩
    · rw [List.map_cons, fills, namedFillers]
    · rw [List.map_cons, records, namedRecorders]
    · exact List.forall_mem_cons.mpr ⟨Argument.alike held.1, alike⟩

/-- Writing a writable of the family has the demand of recording it. -/
theorem Writable.alike : ∀ {writable : Writable}, (∀ dependency ∈ writable.dependencies, family.Holds dependency) →
    Alike family config modulePath writable.run (writable.record config modulePath)
  | .empty, _ => by
    rw [Writable.run, Writable.record]
    exact ⟨.nothing, .pure (), .pure ()⟩
  | .program operations, held => by
    rw [Writable.run, Writable.record]
    exact alike_runAll held

end

/-- On a fresh writer a program and its record succeed together, and they leave equal manifests. -/
theorem runAll_iff_recordAll {operations : Program}
    (held : ∀ dependency ∈ programDependencies operations, family.Holds dependency)
    (config : RuntimeConfig) (modulePath : String) :
    ((∃ writer, runAll operations (Writer.new config modulePath) = .ok () writer) ↔
      ∃ manifest, recordAll config modulePath operations ∅ = .ok () manifest) ∧
    ∀ {writer manifest}, runAll operations (Writer.new config modulePath) = .ok () writer →
      recordAll config modulePath operations ∅ = .ok () manifest → writer.manifest = manifest := by
  obtain ⟨demand, action, registration⟩ : Alike family config modulePath (runAll operations) _ := alike_runAll held
  have fresh := family.considers_new config modulePath
  constructor
  · exact (action.succeeds_iff fresh).trans (registration.succeeds_iff family.coherent_empty).symm
  · intro writer manifest ran recorded
    obtain ⟨-, needs, -, -, coherent⟩ := action.of_ok fresh ran
    obtain ⟨-, needsFlat, coherentFlat⟩ := registration.of_ok family.coherent_empty recorded
    exact Family.eq_of_needs_eq coherent coherentFlat (needs.trans needsFlat.symm)

/-- An inline module that brings a crate. -/
def tokenModule : InlineDependency := ⟨"token", "token", [.crate (.registry "fastrand" "2")], .defined "token"⟩

/-- A block in which a nested writable mentions an inline module whose crate is registered again afterwards. -/
def nestedProgram : Program :=
  [.block "fn issue()" []
    [.write "let token = #T;" [.writable (.program [.write "#T()" [.target (.fixed (tokenModule.item "issue"))]])]],
   .register (.crate ((CrateDependency.registry "fastrand" "2").withFeature "std"))]

/-- The module as a family. -/
def tokenFamily : Family := .listed [tokenModule] (by simp) (by simp [tokenModule])

/-- A program with a writable in a writable, which is run and recorded with one manifest. -/
theorem runAll_iff_recordAll_nestedProgram :
    ∃ writer, runAll nestedProgram (Writer.new {} "crate::api") = .ok () writer ∧
      recordAll {} "crate::api" nestedProgram ∅ = .ok () writer.manifest := by
  have held : ∀ dependency ∈ programDependencies nestedProgram, tokenFamily.Holds dependency := by
    intro dependency mem
    have mentioned : dependency = .inline tokenModule ∨ ∃ declaration, dependency = .crate declaration := by
      simp only [nestedProgram, programDependencies, Op.dependencies, argumentDependencies, Argument.dependencies,
        Writable.dependencies, Target.dependencies, InlineModule.item] at mem
      rcases List.mem_cons.mp mem with same | mem
      · exact .inl same
      · exact .inr ⟨_, List.mem_singleton.mp mem⟩
    obtain rfl | ⟨declaration, rfl⟩ := mentioned
    · exact List.mem_singleton.mpr rfl
    · trivial
  obtain ⟨together, equal⟩ := runAll_iff_recordAll held {} "crate::api"
  have succeeds : Action.succeeds (recordAll {} "crate::api" nestedProgram) ∅ = true := by decide +kernel
  obtain ⟨_, manifest, recorded⟩ := Action.succeeds_eq_true_iff.mp succeeds
  obtain ⟨writer, ran⟩ := together.mpr ⟨manifest, recorded⟩
  exact ⟨writer, ran, by rw [equal ran recorded, recorded]⟩

end Cratewright
