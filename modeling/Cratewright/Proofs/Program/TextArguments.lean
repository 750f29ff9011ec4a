import Cratewright.Proofs.Template.Mapping
import Cratewright.Proofs.Template.Named
import Cratewright.Proofs.Writer.Emission

/-!
# Writing a template with texts

A text is filled in without a failure and without a trace on the writer, so whether a template can be written with
texts is a matter of its placeholders alone. `WritesTexts` says of an action for which templates it succeeds, what it
then adds to the module and how it fails. Main statement: writing with positional texts succeeds exactly if
`TakesInOrder` holds, and with named texts exactly if `Takes` does. Lines that are dropped because they come out blank
take their arguments like any others.
-/

namespace Cratewright

open Text (Line)
open Template (Arguments AssignedLine Piece Takes TakesInOrder Filled InOrder ByName)

namespace Template

/-- The text of a line that is filled with texts, whose further lines stand behind the blanks the line starts with. -/
def AssignedLine.text (line : AssignedLine String) : List Char :=
  line.pieces.flatMap fun
    | .text literal => literal
    | .value given => Text.hang line.leading given.toList

/-- The texts of lines, without those that come out blank where a placeholder was. -/
def keptTexts (assigned : List (AssignedLine String)) : List (List Char) :=
  (assigned.filter fun line => !(line.hasValue && Text.blank line.text)).map AssignedLine.text

end Template

open Template (keptTexts)

namespace Writer

/-- Filling in a line with texts gives its text. -/
theorem fill_fillText (line : AssignedLine String) (writer : Writer) :
    fill line.leading (line.map fillText).pieces writer = .ok line.text writer := by
  obtain ⟨leading, pieces⟩ := line
  induction pieces with
  | nil => rfl
  | cons piece rest ih =>
    have filledRest : fill leading (rest.map (Piece.map fillText)) writer =
        .ok (AssignedLine.text ⟨leading, rest⟩) writer := ih
    cases piece with
    | text literal =>
      change fill leading (.text literal :: rest.map (Piece.map fillText)) writer = _
      rw [fill_text_apply, filledRest]
      rfl
    | value given =>
      have filled : fillText given leading writer = .ok (Text.hang leading given.toList) writer := rfl
      change fill leading (.value (fillText given) :: rest.map (Piece.map fillText)) writer = _
      rw [fill_value_apply, filled]
      dsimp only
      rw [filledRest]
      rfl

/-- A line that takes texts has a value exactly if the line that takes their fillers has one. -/
theorem hasValue_fillText (line : AssignedLine String) : (line.map fillText).hasValue = line.hasValue := by
  rw [AssignedLine.hasValue, AssignedLine.map, List.any_map, AssignedLine.hasValue]
  congr 1
  funext piece
  cases piece <;> rfl

/-- Filling in lines with texts gives the texts of those that are kept. -/
theorem fillLines_fillText (assigned : List (AssignedLine String)) (writer : Writer) :
    fillLines (assigned.map (AssignedLine.map fillText)) writer = .ok (keptTexts assigned) writer := by
  induction assigned with
  | nil => rfl
  | cons line rest ih =>
    have filled : fill (line.map fillText).leading (line.map fillText).pieces writer = .ok line.text writer :=
      fill_fillText line writer
    rw [List.map_cons, fillLines_cons_apply, filled]
    dsimp only
    rw [ih]
    dsimp only
    rw [keptLine, hasValue_fillText, keptTexts, keptTexts, List.filter_cons]
    cases line.hasValue && Text.blank line.text <;> rfl

/-- Writing a template with texts adds its kept lines, unless the template has a fault. -/
theorem render_fillText (template : String) (arguments : Arguments String) (writer : Writer) :
    render template (arguments.map fillText) writer =
      let assignment := Template.assign template arguments
      match assignment.fault with
      | some fault => .error (.template fault) writer
      | none => .ok () (writer.appended ((keptTexts assignment.lines).flatMap Text.split)) := by
  cases found : (Template.assign template arguments).fault <;>
    simp only [render_apply, Template.assign_map, Template.Assignment.map, fillLines_fillText, found]

end Writer

open Writer

/-- Whether an action writes a template with texts: it succeeds exactly if the template fits and then adds the lines of
a template that is filled as it should be; otherwise it fails with a fault of the template and changes nothing. -/
structure WritesTexts (action : Writing Unit) (fits : Prop) (fills : List (AssignedLine String) → Prop) : Prop where
  succeeds_iff : ∀ {writer}, (∃ after, action writer = .ok () after) ↔ fits
  of_ok : ∀ {writer after}, action writer = .ok () after → ∃ assigned, fills assigned ∧
    after = writer.appended ((keptTexts assigned).flatMap Text.split)
  of_error : ∀ {writer failure after}, action writer = .error failure after →
    (∃ fault, failure = .template fault) ∧ after = writer

/-- Rendering a template writes it with texts, as far as these can be assigned to its placeholders. -/
theorem writesTexts_render {template : String} {arguments : Arguments String} {fits : Prop}
    {fills : List (AssignedLine String) → Prop}
    (fills_of_assign : ∀ {assigned}, Template.assign template arguments = ⟨assigned, none⟩ → fills assigned)
    (fits_iff : (∃ assigned, Template.assign template arguments = ⟨assigned, none⟩) ↔ fits) :
    WritesTexts (render template (arguments.map fillText)) fits fills := by
  rcases assignment : Template.assign template arguments with ⟨assigned, _ | fault⟩
  · have run (writer : Writer) : render template (arguments.map fillText) writer =
        .ok () (writer.appended ((keptTexts assigned).flatMap Text.split)) := by
      rw [render_fillText, assignment]
    refine ⟨?_, ?_, ?_⟩
    · intro writer
      exact ⟨fun _ => fits_iff.mp ⟨assigned, assignment⟩, fun _ => ⟨_, run writer⟩⟩
    · intro writer after ok
      cases (run writer).symm.trans ok
      exact ⟨assigned, fills_of_assign assignment, rfl⟩
    · intro writer failure after error
      cases (run writer).symm.trans error
  · have run (writer : Writer) :
        render template (arguments.map fillText) writer = .error (.template fault) writer := by
      rw [render_fillText, assignment]
    refine ⟨?_, ?_, ?_⟩
    · intro writer
      constructor
      · rintro ⟨after, ok⟩
        cases (run writer).symm.trans ok
      · intro fit
        obtain ⟨_, faultless⟩ := fits_iff.mpr fit
        cases assignment.symm.trans faultless
    · intro writer after ok
      cases (run writer).symm.trans ok
    · intro writer failure after error
      cases (run writer).symm.trans error
      exact ⟨⟨fault, rfl⟩, rfl⟩

/-- A template can be written with positional texts if and only if it takes as many in order, and with named texts if
and only if it takes their names. The placeholders receive the texts in reading order, or those of their names. -/
theorem Op.writes_texts (template : String) :
    (∀ texts : List String, WritesTexts (Op.write template (texts.map .text)).run
      (TakesInOrder (Template.dedent template.toList) texts.length)
      fun assigned => Filled InOrder (Template.dedent template.toList) assigned ∧
        assigned.flatMap AssignedLine.values = texts) ∧
    ∀ pairs : List (String × String),
      WritesTexts (Op.writeNamed template (pairs.map fun (name, text) => (name, .text text))).run
        (Takes (Template.dedent template.toList) (pairs.map Prod.fst))
        (Filled (ByName pairs) (Template.dedent template.toList)) := by
  have filled (text : String) : (Argument.text text).filler = fillText text := by rw [Argument.filler]
  constructor
  · intro texts
    have given : fillers (texts.map .text) = texts.map fillText := by
      rw [fillers_eq_map, List.map_map]
      exact List.map_congr_left fun text _ => filled text
    rw [Op.run, given, Arguments.ofList_map]
    refine writesTexts_render Template.assign_ofList_iff.mp ?_
    rw [← Template.exists_filled_inOrder_iff]
    exact exists_congr fun assigned => Template.assign_ofList_iff
  · intro pairs
    have given : namedFillers (pairs.map fun (name, text) => (name, .text text)) =
        pairs.map fun (name, text) => (name, fillText text) := by
      rw [namedFillers_eq_map, List.map_map]
      exact List.map_congr_left fun ⟨name, text⟩ _ => congrArg (Prod.mk name) (filled text)
    rw [Op.run, given, Arguments.ofPairs_map]
    refine writesTexts_render (fun faultless => (Template.assign_ofPairs_iff.mp faultless).1) ?_
    rw [← Template.exists_filled_byName_iff]
    exact exists_congr fun assigned => Template.assign_ofPairs_iff

/-- The second line is left out, and its placeholder has taken the second text all the same. -/
example :
    (stateAfter ((Op.write "a: #T\n  #T\nb: #T" [.text "1", .text " ", .text "2"]).run (.new {} "crate"))).lines =
        ["a: 1".toList, "b: 2".toList] ∧
      (Op.write "a: #T\n  #T\nb: #T" [.text "1", .text "2"]).run.failure? (.new {} "crate") =
        some (.template (.tooFewArguments 2)) := by
  decide +kernel

end Cratewright
