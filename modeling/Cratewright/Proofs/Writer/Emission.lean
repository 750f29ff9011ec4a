import Cratewright.Program.Run
import Cratewright.Proofs.Writer.Layout

/-!
# What reaches the module

Equations for the actions of a writer on a given state: how a template is filled, what its lines add to the module and
how a target is resolved. `split_slot` says what a line becomes in which a text stands alone behind blanks: each line of
the text behind these blanks, and nothing at all for a text without lines.
-/

namespace Cratewright

open Text (Line blank)
open Template (Arguments AssignedLine Piece)

namespace Writer

/-- The writer with more lines, which are laid out at its level. -/
def appended (writer : Writer) (lines : List Line) : Writer :=
  { writer with lines := writer.lines ++ lines.map (layOut writer.level) }

/-- Appending no lines changes nothing. -/
theorem appended_nil (writer : Writer) : writer.appended [] = writer := by
  simp [appended]

/-- Lines that are appended one after another are appended together. -/
theorem appended_appended (writer : Writer) (first second : List Line) :
    (writer.appended first).appended second = writer.appended (first ++ second) := by
  simp [appended]

/-- Emitting a text appends its lines. -/
theorem emit_apply (text : List Char) (writer : Writer) :
    emit text writer = .ok () (writer.appended (Text.split text)) :=
  rfl

/-- Emitting texts appends the lines of each one. -/
theorem emitAll_apply (texts : List (List Char)) (writer : Writer) :
    emitAll texts writer = .ok () (writer.appended (texts.flatMap Text.split)) := by
  induction texts generalizing writer with
  | nil =>
    rw [List.flatMap_nil, appended_nil]
    rfl
  | cons text rest ih =>
    rw [emitAll, Action.bind_apply, emit_apply, List.flatMap_cons, ← appended_appended]
    exact ih _

/-- A text in a line comes before what is filled in behind it. -/
theorem fill_text_apply (leading text : Line) (rest : List (Piece Filler)) (writer : Writer) :
    fill leading (.text text :: rest) writer =
      match fill leading rest writer with
      | .ok filled after => .ok (text ++ filled) after
      | .error failure after => .error failure after := by
  rw [fill, Action.bind_apply]
  cases fill leading rest writer <;> rfl

/-- A value in a line is filled in before what follows it, and a failure of either is the failure of the line. -/
theorem fill_value_apply (leading : Line) (filler : Filler) (rest : List (Piece Filler)) (writer : Writer) :
    fill leading (.value filler :: rest) writer =
      match filler leading writer with
      | .ok text between =>
        match fill leading rest between with
        | .ok filled after => .ok (text ++ filled) after
        | .error failure after => .error failure after
      | .error failure after => .error failure after := by
  rw [fill, Action.bind_apply]
  cases filler leading writer with
  | error failure after => rfl
  | ok text between =>
    dsimp only
    rw [Action.bind_apply]
    cases fill leading rest between <;> rfl

/-- The texts that a filled line adds to those of the lines after it. -/
def keptLine (line : AssignedLine Filler) (text : List Char) : List (List Char) :=
  if line.hasValue && blank text then [] else [text]

/-- A line is filled in before the lines behind it, and is left out if it has a value and is blank. -/
theorem fillLines_cons_apply (line : AssignedLine Filler) (rest : List (AssignedLine Filler)) (writer : Writer) :
    fillLines (line :: rest) writer =
      match fill line.leading line.pieces writer with
      | .ok text between =>
        match fillLines rest between with
        | .ok texts after => .ok (keptLine line text ++ texts) after
        | .error failure after => .error failure after
      | .error failure after => .error failure after := by
  rw [fillLines, Action.bind_apply]
  cases fill line.leading line.pieces writer with
  | error failure after => rfl
  | ok text between =>
    dsimp only
    rw [Action.bind_apply]
    cases fillLines rest between with
    | error failure after => rfl
    | ok texts after =>
      dsimp only
      rw [keptLine]
      split <;> rfl

/-- Rendering fills in all lines, and emits them only if the arguments fit the template. -/
theorem render_apply (template : String) (arguments : Arguments Filler) (writer : Writer) :
    render template arguments writer =
      match fillLines (Template.assign template arguments).lines writer with
      | .ok texts filled =>
        match (Template.assign template arguments).fault with
        | some fault => .error (.template fault) filled
        | none => .ok () (filled.appended (texts.flatMap Text.split))
      | .error failure filled => .error failure filled := by
  rw [render, Action.bind_apply]
  cases fillLines (Template.assign template arguments).lines writer with
  | error failure filled => rfl
  | ok texts filled =>
    dsimp only
    cases (Template.assign template arguments).fault with
    | some fault => rfl
    | none => exact emitAll_apply texts filled

/-- Registering changes nothing of a writer but its manifest. -/
theorem register_apply (dependency : Dependency) (writer : Writer) :
    register dependency writer =
      match Manifest.register dependency writer.manifest with
      | .ok _ manifest => .ok () { writer with manifest }
      | .error failure manifest => .error failure { writer with manifest } := by
  rw [register, Action.bind_apply, onManifest]
  cases Manifest.register dependency writer.manifest <;> rfl

/-- A text alone behind blanks becomes its lines behind these blanks, and nothing if it has no lines. -/
theorem split_slot (leading : Line) {lines : List Line} (blanks : blank leading = true)
    (whole : ∀ line ∈ lines, '\n' ∉ line) (single : '\n' ∉ leading)
    (visible : ∀ line ∈ lines.getLast?, blank line = false) :
    (if blank (leading ++ Text.hang leading (Text.join lines)) then [] else
      [leading ++ Text.hang leading (Text.join lines)]).flatMap Text.split = lines.map (leading ++ ·) := by
  rcases List.eq_nil_or_concat lines with rfl | ⟨before, last, rfl⟩
  · simp [Text.join, Text.hang, blanks]
  · have some_line : before ++ [last] ≠ [] := by simp
    have shown : blank last = false := visible last (by simp)
    rw [List.concat_eq_append] at whole ⊢
    have text : leading ++ Text.hang leading (Text.join (before ++ [last])) =
        Text.join ((before ++ [last]).map (leading ++ ·)) := Text.append_hang_join some_line whole
    have not_blank : blank (leading ++ Text.hang leading (Text.join (before ++ [last]))) = false := by
      rw [text, Text.blank_join, List.map_append, List.all_append]
      simp [Text.blank_append, shown]
    have lines_whole : ∀ line ∈ (before ++ [last]).map (leading ++ ·), '\n' ∉ line := by
      intro line mem
      obtain ⟨own, found, rfl⟩ := List.mem_map.mp mem
      rw [List.mem_append, not_or]
      exact ⟨single, whole own found⟩
    rw [if_neg (by simp [not_blank]), List.flatMap_singleton, text]
    exact Text.split_join (by simp) lines_whole

end Writer

/-- A target resolves in the module of its writer, and registers its dependency if it has one. -/
theorem Target.resolve_apply (target : Target) (writer : Writer) :
    target.resolve writer =
      match (target.referenceFor writer.config writer.modulePath).resolve writer.modulePath with
      | .error failure => .error failure writer
      | .ok ⟨text, none⟩ => .ok text writer
      | .ok ⟨text, some dependency⟩ => (Writer.register dependency >>= fun _ => pure text : Writing String) writer := by
  change Writer.resolve (target.referenceFor writer.config writer.modulePath) writer = _
  rw [Writer.resolve, Action.bind_apply]
  have read : (get : Writing Writer) writer = .ok writer writer := rfl
  simp only [read]
  rcases (target.referenceFor writer.config writer.modulePath).resolve writer.modulePath with
    failure | ⟨text, _ | dependency⟩
  · rfl
  · rfl
  · rfl

end Cratewright
