import Cratewright.Customizations
import Cratewright.Proofs.Program.TextArguments
import Cratewright.Proofs.Text.Lines
import Mathlib.Data.List.Induction

/-!
# The token field of an input

A model is built by steps that add members and set traits in any order. Main statement: the token field of a structure
is the snake case of the first member added to it that any step, earlier or later, marks as an idempotency token, and
without such a member there is none. Code for an operation comes from the token only where the input is adjusted, and
only if there is a token field.
-/

namespace Cratewright

/-- What follows the first occurrence of a character. -/
theorem afterFirst?_append {mark : Char} {before : List Char} (absent : mark ∉ before) (rest : List Char) :
    afterFirst? mark (before ++ mark :: rest) = some rest := by
  have passed : (before ++ mark :: rest).dropWhile (· ≠ mark) = mark :: rest := by
    rw [List.dropWhile_append_of_pos]
    · simp
    · intro c mem
      simp only [ne_eq, decide_eq_true_eq]
      rintro rfl
      exact absent mem
  rw [afterFirst?, passed]

/-- The member can be told from its identifier if the structure has no dollar sign of its own. -/
theorem ShapeId.member_withMember {structureId : ShapeId} (plain : '$' ∉ structureId.text.toList) (name : String) :
    (structureId.withMember name).member = some name := by
  have spelled : (structureId.withMember name).text.toList = structureId.text.toList ++ '$' :: name.toList := by
    simp [withMember]
  rw [member, spelled, afterFirst?_append plain]
  simp

namespace Model

/-- A step in which a model is built. -/
inductive Step
  /-- Adds a member to a structure. -/
  | member (structureId : ShapeId) (name : String)
  /-- Sets the value of a trait of a shape. -/
  | trait (shape : ShapeId) (traitId value : String)
deriving DecidableEq, Repr

namespace Step

/-- The member that a step adds to a structure. -/
def memberOf? (structureId : ShapeId) : Step → Option String
  | .member owner name => if owner = structureId then some name else none
  | .trait .. => none

/-- The value that a step gives a trait of a shape. -/
def valueOf? (shape : ShapeId) (traitId : String) : Step → Option String
  | .member .. => none
  | .trait bearer other value => if bearer = shape ∧ other = traitId then some value else none

/-- A step adds a member to a structure exactly if it is that step. -/
theorem memberOf?_eq_some_iff {structureId : ShapeId} {step : Step} {name : String} :
    step.memberOf? structureId = some name ↔ step = .member structureId name := by
  cases step <;> simp [memberOf?]

/-- A step gives a trait a value exactly if it is that step. -/
theorem valueOf?_eq_some_iff {shape : ShapeId} {traitId value : String} {step : Step} :
    step.valueOf? shape traitId = some value ↔ step = .trait shape traitId value := by
  cases step <;> simp [valueOf?, and_assoc]

end Step

/-- The model after a step. -/
def after (model : Model) : Step → Model
  | .member structureId name => model.withMember structureId name
  | .trait shape traitId value => model.withTrait shape traitId value

/-- The model that steps build, one after another. -/
def built (steps : List Step) : Model := steps.foldl after {}

/-- The last step changes the model that the others build. -/
theorem built_concat (steps : List Step) (step : Step) : built (steps ++ [step]) = (built steps).after step := by
  simp [built]

/-- The members of a structure are those that were added to it, in order. -/
theorem members_built (steps : List Step) (structureId : ShapeId) :
    (built steps).members structureId =
      (steps.filterMap (Step.memberOf? structureId)).map structureId.withMember := by
  induction steps using List.reverseRecOn with
  | nil => rfl
  | append_singleton before last ih =>
    rw [built_concat, List.filterMap_append, List.map_append, ← ih]
    cases last with
    | member owner name =>
      by_cases same : owner = structureId
      · subst same
        simp [after, withMember, members, Step.memberOf?]
      · simp [after, withMember, members, Step.memberOf?, same]
    | trait shape traitId value => simp [after, withTrait, members, Step.memberOf?]

/-- A trait has the value that was set last. -/
theorem traitValue_built (steps : List Step) (shape : ShapeId) (traitId : String) :
    (built steps).traitValue shape traitId = (steps.filterMap (Step.valueOf? shape traitId)).getLast? := by
  induction steps using List.reverseRecOn with
  | nil => rfl
  | append_singleton before last ih =>
    rw [built_concat, List.filterMap_append, List.getLast?_append, ← ih]
    cases last with
    | member owner name => simp [after, withMember, traitValue, Step.valueOf?]
    | trait bearer other value =>
      -- The newest value stands at the front of the model's list and at the end of the steps.
      by_cases same : bearer = shape ∧ other = traitId
      · obtain ⟨rfl, rfl⟩ := same
        simp [after, withTrait, traitValue, Step.valueOf?]
      · have differs : ((shape, traitId) == (bearer, other)) = false := by
          rw [beq_eq_false_iff_ne, ne_eq, Prod.mk.injEq]
          rintro ⟨rfl, rfl⟩
          exact same ⟨rfl, rfl⟩
        simp [after, withTrait, traitValue, Step.valueOf?, same, List.lookup_cons, differs]

/-- A shape has a trait if a step has set it, to whatever value. -/
theorem hasTrait_built_iff {steps : List Step} {shape : ShapeId} {traitId : String} :
    (built steps).hasTrait shape traitId = true ↔ ∃ value, .trait shape traitId value ∈ steps := by
  rw [hasTrait, traitValue_built, List.getLast?_isSome, ne_eq, List.filterMap_eq_nil_iff]
  constructor
  · intro set
    push Not at set
    obtain ⟨step, mem, given⟩ := set
    obtain ⟨value, found⟩ := Option.ne_none_iff_exists'.mp given
    exact ⟨value, Step.valueOf?_eq_some_iff.mp found ▸ mem⟩
  · rintro ⟨value, mem⟩ unset
    have found := Step.valueOf?_eq_some_iff.mpr (rfl : Step.trait shape traitId value = _)
    rw [unset _ mem] at found
    cases found

/-- The first member of a structure that passes a test is the first one added that does. -/
theorem find?_memberOf?_iff {steps : List Step} {structureId : ShapeId} {test : String → Bool} {name : String} :
    (steps.filterMap (Step.memberOf? structureId)).find? test = some name ↔
      test name = true ∧ ∃ before after, steps = before ++ .member structureId name :: after ∧
        ∀ other, .member structureId other ∈ before → test other = false := by
  rw [List.find?_filterMap, Option.bind_eq_some_iff]
  constructor
  · rintro ⟨step, found, added⟩
    obtain rfl := Step.memberOf?_eq_some_iff.mp added
    obtain ⟨passes, before, after, parts, earlier⟩ := List.find?_eq_some_iff_append.mp found
    rw [added, Option.any_some] at passes
    refine ⟨passes, before, after, parts, fun other mem => ?_⟩
    have fails := earlier _ mem
    rwa [Step.memberOf?_eq_some_iff.mpr rfl, Option.any_some, Bool.not_eq_true'] at fails
  · rintro ⟨passes, before, after, parts, earlier⟩
    refine ⟨.member structureId name, ?_, Step.memberOf?_eq_some_iff.mpr rfl⟩
    rw [List.find?_eq_some_iff_append, Step.memberOf?_eq_some_iff.mpr rfl, Option.any_some]
    refine ⟨passes, before, after, parts, fun step mem => ?_⟩
    rw [Bool.not_eq_true']
    cases added : step.memberOf? structureId with
    | none => rfl
    | some other => exact earlier other (Step.memberOf?_eq_some_iff.mp added ▸ mem)

/-- Whether a step marks a member of a structure as an idempotency token. -/
def Marked (steps : List Step) (structureId : ShapeId) (name : String) : Prop :=
  ∃ value, .trait (structureId.withMember name) idempotencyTokenTrait value ∈ steps

/-- Whether a member is the first of those added to a structure that is marked by any step. -/
def FirstMarked (steps : List Step) (structureId : ShapeId) (name : String) : Prop :=
  Marked steps structureId name ∧ ∃ before after, steps = before ++ .member structureId name :: after ∧
    ∀ other, .member structureId other ∈ before → ¬ Marked steps structureId other

/-- A member has the trait of a token exactly if a step marks it. -/
theorem marked_iff {steps : List Step} {structureId : ShapeId} {name : String} :
    (built steps).hasTrait (structureId.withMember name) idempotencyTokenTrait = true ↔
      Marked steps structureId name := hasTrait_built_iff

instance (steps : List Step) (structureId : ShapeId) (name : String) : Decidable (Marked steps structureId name) :=
  decidable_of_iff _ marked_iff

end Model

open Model (Step built Marked FirstMarked)
open Template (Arguments AssignedLine Piece keptTexts)
open Writer

namespace Template

variable {Value Other : Type}

/-- Whether a line has text of its own that is not blank. -/
def AssignedLine.visible (line : AssignedLine Value) : Bool :=
  line.pieces.any fun
    | .text text => !Text.blank text
    | .value _ => false

/-- What is filled in has no influence on whether a line has text of its own. -/
theorem AssignedLine.visible_map (change : Value → Other) (line : AssignedLine Value) :
    (line.map change).visible = line.visible := by
  rw [visible, AssignedLine.map, List.any_map, visible]
  congr 1
  funext piece
  cases piece <;> rfl

/-- A line with text of its own is not blank, whatever is filled in. -/
theorem AssignedLine.blank_text {line : AssignedLine String} (visible : line.visible = true) :
    Text.blank line.text = false := by
  obtain ⟨piece, mem, shows⟩ := List.any_eq_true.mp visible
  cases piece with
  | value given => cases shows
  | text literal =>
    obtain ⟨c, inside, dark⟩ := List.all_eq_false.mp (Bool.not_eq_true' _ ▸ shows)
    refine List.all_eq_false.mpr ⟨c, ?_, dark⟩
    exact List.mem_flatMap.mpr ⟨.text literal, mem, inside⟩

/-- A text that is not blank has a line that is not. -/
theorem exists_mem_split {text : List Char} (shown : Text.blank text = false) :
    ∃ line ∈ Text.split text, Text.blank line = false := by
  rw [← Text.join_split text, Text.blank_join, List.all_eq_false] at shown
  simpa using shown

end Template

/-- Writing a template with named texts is rendering it with these texts. -/
theorem Op.run_writeNamed_texts (template : String) (pairs : List (String × String)) :
    (Op.writeNamed template (pairs.map fun (name, text) => (name, .text text))).run =
      render template ((Arguments.ofPairs pairs).map fillText) := by
  have given : namedFillers (pairs.map fun (name, text) => (name, .text text)) =
      pairs.map fun (name, text) => (name, fillText text) := by
    rw [namedFillers_eq_map, List.map_map]
    refine List.map_congr_left fun ⟨name, text⟩ _ => ?_
    simp only [Function.comp_apply, Argument.filler]
  rw [Op.run, given, Arguments.ofPairs_map]

/-- A template with text of its own that takes texts by name adds a line that is not blank, whatever the texts are. -/
theorem Op.run_writeNamed_visible {template : String} (pairs : List (String × String)) {units : Arguments Unit}
    (named : (Arguments.ofPairs pairs).map (fun _ => ()) = units)
    (fits : (Template.assign template units).fault = none)
    (shows : (Template.assign template units).lines.any AssignedLine.visible = true) (writer : Writer) :
    ∃ lines, (Op.writeNamed template (pairs.map fun (name, text) => (name, .text text))).run writer =
        .ok () (writer.appended lines) ∧ ∃ line ∈ lines, Text.blank line = false := by
  rw [← named, Template.assign_map] at fits shows
  obtain ⟨_, mapped, visible⟩ := List.any_eq_true.mp shows
  obtain ⟨line, mem, rfl⟩ := List.mem_map.mp mapped
  rw [AssignedLine.visible_map] at visible
  have shown := AssignedLine.blank_text visible
  have kept : line.text ∈ keptTexts (Template.assign template (.ofPairs pairs)).lines := by
    refine List.mem_map_of_mem (List.mem_filter.mpr ⟨mem, ?_⟩)
    rw [shown, Bool.and_false]
    rfl
  obtain ⟨part, inside, visible⟩ := Template.exists_mem_split shown
  refine ⟨(keptTexts (Template.assign template (.ofPairs pairs)).lines).flatMap Text.split, ?_, part, ?_, visible⟩
  · have faultless : (Template.assign template (.ofPairs pairs)).fault = none := fits
    rw [Op.run_writeNamed_texts, render_fillText]
    simp only [faultless]
  · exact List.mem_flatMap.mpr ⟨line.text, kept, inside⟩

namespace IdempotencyToken

variable {steps : List Step} {input : ShapeId}

/-- The token field of an input is that of the first member for which the test of the trait comes out true. -/
theorem fieldOf_built (plain : '$' ∉ input.text.toList) :
    fieldOf (built steps) input =
      ((steps.filterMap (Step.memberOf? input)).find? fun name =>
        (built steps).hasTrait (input.withMember name) idempotencyTokenTrait).map snakeCase := by
  rw [fieldOf, Model.idempotencyTokenMember, Model.members_built, List.find?_map]
  have named (found : Option String) :
      ((found.map input.withMember).bind fun member => member.member.map snakeCase) = found.map snakeCase := by
    cases found with
    | none => rfl
    | some name => simp [ShapeId.member_withMember plain]
  exact named _

/-- The token field is that of the first marked member. -/
theorem fieldOf_eq_some_iff (plain : '$' ∉ input.text.toList) {field : String} :
    fieldOf (built steps) input = some field ↔ ∃ name, FirstMarked steps input name ∧ field = snakeCase name := by
  rw [fieldOf_built plain, Option.map_eq_some_iff]
  refine exists_congr fun name => and_congr ?_ eq_comm
  rw [Model.find?_memberOf?_iff, Model.marked_iff]
  simp only [FirstMarked, ← Model.marked_iff, Bool.not_eq_true]

/-- There is no token field exactly if no member is marked. -/
theorem fieldOf_eq_none_iff (plain : '$' ∉ input.text.toList) :
    fieldOf (built steps) input = none ↔ ∀ name, .member input name ∈ steps → ¬ Marked steps input name := by
  rw [fieldOf_built plain, Option.map_eq_none_iff, List.find?_eq_none]
  simp only [Model.marked_iff, List.mem_filterMap, Step.memberOf?_eq_some_iff]
  constructor
  · intro none name mem
    exact none name ⟨_, mem, rfl⟩
  · rintro none name ⟨_, mem, rfl⟩
    exact none name mem

/-- Code that fills in a token is not nothing exactly where the input is adjusted and there is a token field. -/
theorem isEmpty_contribution (tokenField : Option String) (slot : OperationSlot) :
    ((forOperation tokenField).contribution slot).isEmpty = false ↔
      (∃ input config, slot = .mutateInput input config) ∧ tokenField ≠ none := by
  cases slot with
  | implBlock | plugin => simp [forOperation, contributionToOperation, Writable.isEmpty]
  | mutateInput input config =>
    cases tokenField <;> simp [forOperation, contributionToOperation, Writable.isEmpty]

/-- Code that fills in a token is written without a failure, and some of it shows unless it is nothing. -/
theorem run_contribution (tokenField : Option String) (slot : OperationSlot) (writer : Writer) :
    ∃ lines, ((forOperation tokenField).contribution slot).run writer = .ok () (writer.appended lines) ∧
      ((∃ line ∈ lines, Text.blank line = false) ↔
        ((forOperation tokenField).contribution slot).isEmpty = false) := by
  have silent : ∃ lines, Writable.empty.run writer = .ok () (writer.appended lines) ∧
      ((∃ line ∈ lines, Text.blank line = false) ↔ Writable.empty.isEmpty = false) := by
    refine ⟨[], ?_, by simp [Writable.isEmpty]⟩
    rw [Writable.run, appended_nil]
    rfl
  cases slot with
  | implBlock | plugin => exact silent
  | mutateInput input config =>
    cases tokenField with
    | none => exact silent
    | some field =>
      have fits : (Template.assign adjustmentTemplate
          (.ofPairs [("input", ()), ("field", ()), ("config", ())])).fault = none := by
        rw [adjustmentTemplate, Template.assign, Template.source, String.toList_ofList]
        decide +kernel
      have shows : (Template.assign adjustmentTemplate
          (.ofPairs [("input", ()), ("field", ()), ("config", ())])).lines.any AssignedLine.visible = true := by
        rw [adjustmentTemplate, Template.assign, Template.source, String.toList_ofList]
        decide +kernel
      obtain ⟨lines, run, visible⟩ := Op.run_writeNamed_visible
        [("input", input), ("field", field), ("config", config)] rfl fits shows writer
      refine ⟨lines, ?_, fun _ => rfl, fun _ => visible⟩
      exact (congrFun (runAll_singleton _) writer).trans run

/-- The token field is the snake case of the first member added to the input that is marked as a token before or after,
and there is none without such a member. The token contributes to the code of an operation exactly where the input is
adjusted and such a member exists; what it contributes is written without a failure, and then it shows. -/
theorem fieldOf_first_marked (steps : List Step) {input : ShapeId} (plain : '$' ∉ input.text.toList) :
    (∀ field, fieldOf (built steps) input = some field ↔
      ∃ name, FirstMarked steps input name ∧ field = snakeCase name) ∧
    (fieldOf (built steps) input = none ↔ ∀ name, .member input name ∈ steps → ¬ Marked steps input name) ∧
    ∀ slot,
      (((forInput (built steps) input).contribution slot).isEmpty = false ↔
        (∃ adjusted config, slot = .mutateInput adjusted config) ∧
          ∃ name, .member input name ∈ steps ∧ Marked steps input name) ∧
      ∀ writer, ∃ lines,
        ((forInput (built steps) input).contribution slot).run writer = .ok () (writer.appended lines) ∧
        ((∃ line ∈ lines, Text.blank line = false) ↔
          ((forInput (built steps) input).contribution slot).isEmpty = false) := by
  refine ⟨fun field => fieldOf_eq_some_iff plain, fieldOf_eq_none_iff plain, fun slot => ⟨?_, ?_⟩⟩
  · rw [forInput, isEmpty_contribution, ne_eq, fieldOf_eq_none_iff plain]
    push Not
    rfl
  · exact run_contribution _ slot

/-- An input that gets three members. The second is marked before it is added, the third behind it. -/
def putSteps : List Step :=
  [.trait ⟨"store#PutItemInput$clientToken"⟩ idempotencyTokenTrait "",
   .member ⟨"store#PutItemInput"⟩ "name",
   .member ⟨"store#GetItemInput"⟩ "name",
   .trait ⟨"store#GetItemInput$name"⟩ idempotencyTokenTrait "",
   .member ⟨"store#PutItemInput"⟩ "clientToken",
   .member ⟨"store#PutItemInput"⟩ "spare#$Token",
   .trait ⟨"store#PutItemInput$spare#$Token"⟩ idempotencyTokenTrait "spare"]

/-- The second member of the input is the first that is marked; that of the same name as the first is another one's. -/
theorem fieldOf_first_marked_clientToken :
    '$' ∉ "store#PutItemInput".toList ∧
      FirstMarked putSteps ⟨"store#PutItemInput"⟩ "clientToken" ∧
      fieldOf (built putSteps) ⟨"store#PutItemInput"⟩ = some "client_token" ∧
      ((forInput (built putSteps) ⟨"store#PutItemInput"⟩).contribution (.mutateInput "input" "config")).isEmpty =
        false ∧
      ((forInput (built putSteps) ⟨"store#PutItemInput"⟩).contribution .implBlock).isEmpty = true := by
  have plain : '$' ∉ "store#PutItemInput".toList := by decide
  have marked : Marked putSteps ⟨"store#PutItemInput"⟩ "clientToken" := by decide
  have first : FirstMarked putSteps ⟨"store#PutItemInput"⟩ "clientToken" := by
    refine ⟨marked, putSteps.take 4, putSteps.drop 5, rfl, fun other added => ?_⟩
    obtain rfl : other = "name" := by simpa [putSteps] using added
    decide
  obtain ⟨field, -, code⟩ := fieldOf_first_marked putSteps plain
  refine ⟨plain, first, (field _).mpr ⟨"clientToken", first, by decide⟩, ?_, ?_⟩
  · exact (code (.mutateInput "input" "config")).1.mpr ⟨⟨"input", "config", rfl⟩, "clientToken", by decide, marked⟩
  · rw [← Bool.not_eq_false, (code .implBlock).1]
    rintro ⟨⟨_, _, adjusts⟩, -⟩
    cases adjusts

end IdempotencyToken

end Cratewright
