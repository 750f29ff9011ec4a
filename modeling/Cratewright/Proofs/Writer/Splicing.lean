import Cratewright.Proofs.Template.Named
import Cratewright.Proofs.Writer.Emission

/-!
# Splicing lines into a template

A template with named arguments may hold a slot: a line with nothing but blanks and one placeholder, which stands for
any number of lines. `spliceLine` says what a line of such a template becomes, a slot or a line of code, without regard
to how it is filled in. Main statement: rendering the template fails with the fault of the first placeholder that has
one, and appends the spliced lines if none has.
-/

namespace Cratewright

open Text (Line blank trimEnd)
open Template (AssignedLine Piece Segment)

/-- What stands for a placeholder: a reference, a text, or the lines of a slot. -/
inductive Filling
  | reference (path : String)
  | text (literal : String)
  | slot (lines : List Line)

/-- The text that is filled in at an indentation, where the lines of a reference are not hung. -/
def Filling.inline (leading : Line) : Filling → List Char
  | .reference path => path.toList
  | .text literal => Text.hang leading literal.toList
  | .slot lines => Text.hang leading (Text.join (Text.dropEndWhile List.isEmpty lines))

section

variable {Value Result : Type} {Considers : Writer → Prop} {fault further : Option CodegenError}

/-- Whether an action has, in every state that is considered, one fault or, without a fault, one value, and leaves a
state that is considered. -/
structure Gives (Considers : Writer → Prop) (fault : Option CodegenError) (value : Value) (action : Writing Value) :
    Prop where
  of_ok : ∀ {writer result after}, Considers writer → action writer = .ok result after →
    fault = none ∧ result = value ∧ Considers after
  of_error : ∀ {writer failure after}, Considers writer → action writer = .error failure after →
    fault = some failure ∧ Considers after

namespace Gives

/-- Returning a value has no fault. -/
theorem pure (value : Value) : Gives Considers none value (pure value : Writing Value) where
  of_ok considered run := by
    cases run
    exact ⟨rfl, rfl, considered⟩
  of_error _ run := nomatch run

/-- An action in two steps has the fault of its first step or, failing that, of its second. -/
theorem bind {value : Value} {result : Result} {first : Writing Value} {second : Value → Writing Result}
    (gives : Gives Considers fault value first) (onward : Gives Considers further result (second value)) :
    Gives Considers (fault.or further) result (first >>= second) where
  of_ok {writer _ _} considered run := by
    rw [Action.bind_apply] at run
    split at run
    · rename_i ran
      obtain ⟨rfl, rfl, consideredNext⟩ := gives.of_ok considered ran
      exact onward.of_ok consideredNext run
    · cases run
  of_error {writer _ _} considered run := by
    rw [Action.bind_apply] at run
    split at run
    · rename_i ran
      obtain ⟨rfl, rfl, consideredNext⟩ := gives.of_ok considered ran
      exact onward.of_error consideredNext run
    · rename_i ran
      cases run
      obtain ⟨rfl, consideredAfter⟩ := gives.of_error considered ran
      exact ⟨rfl, consideredAfter⟩

/-- Only what an action does in the states that are considered counts. -/
theorem congr {value : Value} {action other : Writing Value} (gives : Gives Considers fault value other)
    (same : ∀ writer, Considers writer → action writer = other writer) : Gives Considers fault value action where
  of_ok considered run := gives.of_ok considered (same _ considered ▸ run)
  of_error considered run := gives.of_error considered (same _ considered ▸ run)

/-- What is done with the value of an action has no fault of its own. -/
theorem map {value : Value} {action : Writing Value} (gives : Gives Considers fault value action)
    (change : Value → Result) :
    Gives Considers fault (change value) (action >>= fun value => Pure.pure (change value)) := by
  have both : Gives Considers (fault.or none) (change value) (action >>= fun value => Pure.pure (change value)) :=
    gives.bind (.pure _)
  rwa [Option.or_none] at both

end Gives

end

/-- Whether a filler has a fault or fills in a filling, wherever it stands. -/
def Fills (Considers : Writer → Prop) (fault : Option CodegenError) (filling : Filling) (filler : Filler) : Prop :=
  ∀ leading, Gives Considers fault (filling.inline leading) (filler leading)

/-- The text of a segment whose placeholder is filled in at an indentation. -/
def segmentText (filling : String → Filling) (leading : Line) : Segment → List Char
  | .literal text => text
  | .hash => ['#']
  | .positional => ['#', 'T']
  | .named name => (filling (String.ofList name)).inline leading

/-- The text of a line whose placeholders are filled in. -/
def lineText (filling : String → Filling) (line : Line) : List Char :=
  (Template.parts line).flatMap (segmentText filling (Text.lead line))

/-- The texts that a line adds to a template: its own, unless that is blank and the line has a placeholder. -/
def lineTexts (filling : String → Filling) (line : Line) : List (List Char) :=
  if ((Template.parts line).any fun part => part.name?.isSome) && blank (lineText filling line) then []
  else [lineText filling line]

/-- The first that is found is found at the first item or among the others. -/
theorem findSome?_cons_or {Item Found : Type} (found : Item → Option Found) (first : Item) (rest : List Item) :
    (first :: rest).findSome? found = (found first).or (rest.findSome? found) := by
  rw [List.findSome?_cons]
  cases found first <;> rfl

/-- The indentation and the name of a slot: a line with nothing but blanks and one placeholder. -/
def slot? (line : Line) : Option (Line × String) :=
  match Template.parts line with
  | [.literal leading, .named name] => if blank leading then some (leading, String.ofList name) else none
  | _ => none

/-- A line behind an indentation, unless it is blank. -/
def indented (leading line : Line) : Line := if blank line then [] else leading ++ line

/-- The lines of the text of a line, without the blanks at their ends. -/
def ownLines (filling : String → Filling) (line : Line) : List Line :=
  (Text.split (lineText filling line)).map trimEnd

/-- The lines that a line of a template becomes: the lines of a slot, indented as the slot is and without the blank ones
at their end, or the lines of its own text. -/
def spliceLine (filling : String → Filling) (line : Line) : List Line :=
  match slot? line with
  | none => ownLines filling line
  | some (leading, name) =>
    match filling name with
    | .slot lines => (Text.dropEndWhile blank lines).map (indented leading)
    | _ => ownLines filling line

/-- Whether a part of a line shows for sure. -/
def showsUp : Segment → Bool
  | .literal text => !blank text
  | .hash => true
  | _ => false

/-- Whether the lines of a template are slots of the given names and lines of code, which show whatever stands for
their placeholders. -/
structure Slotted (lines : List Line) (slots : List String) : Prop where
  slot : ∀ line ∈ lines, ∀ found ∈ slot? line, found.2 ∈ slots ∧ Text.lead line = found.1 ∧ '\n' ∉ found.1
  code : ∀ line ∈ lines, slot? line = none →
    (Template.parts line).any showsUp ∨ ∀ part ∈ Template.parts line, part.name? = none

instance (lines : List Line) (slots : List String) : Decidable (Slotted lines slots) :=
  decidable_of_iff
    ((∀ line ∈ lines, ∀ found ∈ slot? line, found.2 ∈ slots ∧ Text.lead line = found.1 ∧ '\n' ∉ found.1) ∧
      ∀ line ∈ lines, slot? line = none →
        (Template.parts line).any showsUp ∨ ∀ part ∈ Template.parts line, part.name? = none)
    ⟨fun ⟨slot, code⟩ => ⟨slot, code⟩, fun slotted => ⟨slotted.slot, slotted.code⟩⟩

section

variable {filling : String → Filling} {line : Line}

/-- A line of which something shows is not blank, whatever is filled in. -/
theorem blank_lineText_of_showsUp (shows : (Template.parts line).any showsUp) :
    blank (lineText filling line) = false := by
  obtain ⟨part, mem, shown⟩ := List.any_eq_true.mp shows
  rw [lineText, blank, List.all_flatMap, List.all_eq_false]
  refine ⟨part, mem, ?_⟩
  cases part with
  | literal text => simpa [showsUp, segmentText, blank] using shown
  | hash => simp [segmentText, Text.isBlank]
  | positional => cases shown
  | named name => cases shown

/-- A line of code adds its own lines. -/
theorem layOut_lineTexts_code (noSlot : slot? line = none)
    (code : (Template.parts line).any showsUp ∨ ∀ part ∈ Template.parts line, part.name? = none) :
    ((lineTexts filling line).flatMap Text.split).map (Writer.layOut 0) = spliceLine filling line := by
  have kept : lineTexts filling line = [lineText filling line] := by
    rw [lineTexts, if_neg]
    rw [Bool.and_eq_true, not_and, Bool.not_eq_true]
    intro held
    rcases code with shows | plain
    · exact blank_lineText_of_showsUp shows
    · obtain ⟨part, mem, isName⟩ := List.any_eq_true.mp held
      rw [plain part mem] at isName
      cases isName
  rw [kept, List.flatMap_singleton, spliceLine, noSlot]
  exact List.map_congr_left fun own _ => Writer.layOut_zero own

/-- At the left margin a tidy line behind blanks stays as it is, or empty. -/
theorem layOut_append_of_tidy {leading : Line} (blanks : blank leading = true) (tidy : Text.Tidy line) :
    Writer.layOut 0 (leading ++ line) = indented leading line := by
  rw [Writer.layOut_zero, indented]
  cases kind : blank line with
  | true =>
    rw [if_pos rfl, Text.trimEnd_eq_nil_iff, Text.blank_append, blanks, kind]
    rfl
  | false => rw [if_neg Bool.false_ne_true, Text.trimEnd_append kind, tidy.trimmed]

/-- A slot is a line with blanks and one named placeholder. -/
theorem parts_of_slot? {leading : Line} {name : String} (slot : slot? line = some (leading, name)) :
    blank leading = true ∧ ∃ written, Template.parts line = [.literal leading, .named written] ∧
      name = String.ofList written := by
  rw [slot?] at slot
  split at slot
  · rename_i text written parts
    split at slot <;> cases slot
    exact ⟨‹_›, written, parts, rfl⟩
  · cases slot

/-- A slot adds the lines that stand for it. -/
theorem layOut_lineTexts_slot {leading : Line} {name : String} (slot : slot? line = some (leading, name))
    (lead : Text.lead line = leading) (whole : '\n' ∉ leading) {lines : List Line} (fills : filling name = .slot lines)
    (tidy : ∀ line ∈ lines, Text.Tidy line) :
    ((lineTexts filling line).flatMap Text.split).map (Writer.layOut 0) = spliceLine filling line := by
  obtain ⟨blanks, written, parts, rfl⟩ := parts_of_slot? slot
  have kept : Text.dropEndWhile List.isEmpty lines = Text.dropEndWhile blank lines :=
    Text.dropEndWhile_congr fun line mem => (tidy line mem).isEmpty
  have tidyKept : ∀ line ∈ Text.dropEndWhile blank lines, Text.Tidy line := fun line mem =>
    tidy line ((List.rdropWhile_prefix blank lines).subset mem)
  have text : lineText filling line =
      leading ++ Text.hang leading (Text.join (Text.dropEndWhile blank lines)) := by
    rw [lineText, parts, lead]
    simp [segmentText, fills, Filling.inline, kept]
  have texts : lineTexts filling line = if blank (lineText filling line) then [] else [lineText filling line] := by
    rw [lineTexts, parts]
    rfl
  rw [texts, text, Writer.split_slot leading blanks (fun line mem => (tidyKept line mem).whole) whole
    Text.test_getLast?_dropEndWhile, List.map_map, spliceLine, slot]
  simp only [fills]
  exact List.map_congr_left fun line mem => layOut_append_of_tidy blanks (tidyKept line mem)

/-- On an empty writer at the left margin the texts of a template leave its lines with the slots spliced in. -/
theorem layOut_lineTexts {lines : List Line} {slots : List String} (slotted : Slotted lines slots)
    (filled : ∀ name ∈ slots, ∃ lines, filling name = .slot lines ∧ ∀ line ∈ lines, Text.Tidy line) :
    ((lines.flatMap (lineTexts filling)).flatMap Text.split).map (Writer.layOut 0) =
      lines.flatMap (spliceLine filling) := by
  rw [List.flatMap_assoc, List.map_flatMap]
  refine List.flatMap_congr fun line mem => ?_
  cases slot : slot? line with
  | none => exact layOut_lineTexts_code slot (slotted.code line mem slot)
  | some found =>
    obtain ⟨leading, name⟩ := found
    obtain ⟨known, lead, whole⟩ := slotted.slot line mem _ slot
    obtain ⟨lines, fills, tidy⟩ := filled name known
    exact layOut_lineTexts_slot slot lead whole fills tidy

end

namespace Writer

variable {Considers : Writer → Prop} {fault : String → Option CodegenError} {filling : String → Filling}
  {filler : String → Filler}

/-- Filling in the placeholders of a line gives its text, or the first of the faults. -/
theorem gives_fill {parts : List Segment} {leading : Line}
    (fills : ∀ name ∈ parts.filterMap Segment.name?, Fills Considers (fault name) (filling name) (filler name)) :
    Gives Considers ((parts.filterMap Segment.name?).findSome? fault)
      (parts.flatMap (segmentText filling leading)) (fill leading (parts.map (Segment.piece filler))) := by
  induction parts with
  | nil => exact .pure _
  | cons part rest ih =>
    cases part with
    | literal text =>
      rw [List.filterMap_cons_none rfl] at fills ⊢
      exact (ih fills).map _
    | hash =>
      rw [List.filterMap_cons_none rfl] at fills ⊢
      exact (ih fills).map _
    | positional =>
      rw [List.filterMap_cons_none rfl] at fills ⊢
      exact (ih fills).map _
    | named name =>
      have head : (Segment.named name).name? = some (String.ofList name) := rfl
      rw [List.filterMap_cons_some head] at fills ⊢
      obtain ⟨first, later⟩ := List.forall_mem_cons.mp fills
      rw [findSome?_cons_or]
      exact (first leading).bind ((ih later).map _)

/-- A line has a value exactly if it has a placeholder. -/
theorem hasValue_named (line : Line) :
    (Template.named filler line).hasValue = (Template.parts line).any fun part => part.name?.isSome := by
  rw [Template.named, AssignedLine.hasValue, List.any_map]
  congr 1
  funext part
  cases part <;> rfl

/-- The lines of a template are filled in up to the first placeholder that has a fault. -/
theorem gives_fillLines {lines : List Line}
    (fills : ∀ name ∈ Template.placeholders lines, Fills Considers (fault name) (filling name) (filler name)) :
    Gives Considers ((Template.placeholders lines).findSome? fault) (lines.flatMap (lineTexts filling))
      (fillLines (lines.map (Template.named filler))) := by
  induction lines with
  | nil => exact .pure _
  | cons line rest ih =>
    rw [Template.placeholders, List.flatMap_cons] at fills ⊢
    obtain ⟨first, later⟩ := List.forall_mem_append.mp fills
    have added : (line :: rest).flatMap (lineTexts filling) =
        if (Template.named filler line).hasValue && blank (lineText filling line) then rest.flatMap (lineTexts filling)
        else lineText filling line :: rest.flatMap (lineTexts filling) := by
      rw [List.flatMap_cons, lineTexts, hasValue_named]
      split <;> rfl
    rw [List.findSome?_append, List.map_cons, fillLines, added]
    exact (gives_fill first).bind ((ih later).map fun texts =>
      if (Template.named filler line).hasValue && blank (lineText filling line) then texts
      else lineText filling line :: texts)

/-- Whether a run ends with a failure in a state that is considered or, if there is no failure, with pieces appended to
one. -/
def Appends (Considers : Writer → Prop) (failure? : Option CodegenError) (pieces : List Line) :
    EStateM.Result CodegenError Writer Unit → Prop
  | .ok _ after => failure? = none ∧ ∃ filled, Considers filled ∧ after = filled.appended pieces
  | .error failure after => failure? = some failure ∧ Considers after

/-- A template with named arguments fails with the fault of its first placeholder that has one, and then nothing is
written; otherwise it appends the texts of its lines. -/
theorem appends_render {template : String} {names : List String}
    (takes : Template.Takes (Template.dedent template.toList) names)
    (fills : ∀ name ∈ names, Fills Considers (fault name) (filling name) (filler name)) {writer : Writer}
    (considered : Considers writer) :
    Appends Considers ((Template.placeholders (Template.dedent template.toList)).findSome? fault)
      (((Template.dedent template.toList).flatMap (lineTexts filling)).flatMap Text.split)
      (render template (.ofPairs (names.map fun name => (name, filler name))) writer) := by
  have gives := gives_fillLines fun name mem => fills name (takes.known name mem)
  rw [render_apply, Template.assign_named takes filler]
  cases run : fillLines ((Template.dedent template.toList).map (Template.named filler)) writer with
  | error failure after => exact gives.of_error considered run
  | ok texts filled =>
    obtain ⟨clean, rfl, consideredAfter⟩ := gives.of_ok considered run
    exact ⟨clean, filled, consideredAfter, rfl⟩

end Writer

end Cratewright
