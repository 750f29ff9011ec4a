import Cratewright.Template.Segment
import Cratewright.Template.Margin
import Cratewright.Template.Arguments

/-!
# Assigning arguments to placeholders

A template and its arguments determine, before anything is written, which value stands at which placeholder. Lines are
taken from top to bottom and placeholders from left to right up to the first fault; an argument that is left over is
the last possible fault. What precedes a fault is part of the result, since filling it in may have effects. Main
statement: every value in the result is one of the arguments.
-/

namespace Cratewright.Template

open Text (Line)

variable {Value : Type}

/-- A part of a template line with its placeholder replaced by a value. -/
inductive Piece (Value : Type)
  | text (text : Line)
  | value (value : Value)

/-- Whether a piece stands for a placeholder. -/
def Piece.isValue : Piece Value → Bool
  | .text _ => false
  | .value _ => true

/-- A template line: the blanks it starts with, and its pieces. -/
structure AssignedLine (Value : Type) where
  leading : Line
  pieces : List (Piece Value)

/-- Whether a line has a placeholder. -/
def AssignedLine.hasValue (line : AssignedLine Value) : Bool := line.pieces.any Piece.isValue

/-- The values in a line, from left to right. -/
def AssignedLine.values (line : AssignedLine Value) : List Value :=
  line.pieces.filterMap fun
    | .text _ => none
    | .value value => some value

/-- A template with its arguments in place, up to the first fault. -/
structure Assignment (Value : Type) where
  lines : List (AssignedLine Value)
  fault : Option TemplateFault

/-- The values in an assignment, in reading order. -/
def Assignment.values (assignment : Assignment Value) : List Value :=
  assignment.lines.flatMap AssignedLine.values

/-- The pieces of a line up to a fault, and the arguments that are left or the fault. -/
def assignSegments : List Segment → Arguments Value → List (Piece Value) × Except TemplateFault (Arguments Value)
  | [], arguments => ([], .ok arguments)
  | .literal text :: rest, arguments =>
    let (pieces, outcome) := assignSegments rest arguments
    (.text text :: pieces, outcome)
  | .hash :: rest, arguments =>
    let (pieces, outcome) := assignSegments rest arguments
    (.text ['#'] :: pieces, outcome)
  | .positional :: rest, arguments =>
    match arguments.next with
    | .error fault => ([], .error fault)
    | .ok (value, arguments) =>
      let (pieces, outcome) := assignSegments rest arguments
      (.value value :: pieces, outcome)
  | .named name :: rest, arguments =>
    match arguments.lookup (String.ofList name) with
    | .error fault => ([], .error fault)
    | .ok (value, arguments) =>
      let (pieces, outcome) := assignSegments rest arguments
      (.value value :: pieces, outcome)

/-- Assigns arguments to lines without a margin. -/
def assignLines : List Line → Arguments Value → Assignment Value
  | [], arguments =>
    match arguments.finish with
    | .error fault => ⟨[], some fault⟩
    | .ok () => ⟨[], none⟩
  | line :: rest, arguments =>
    match segments line with
    | .error fault => ⟨[], some fault⟩
    | .ok parts =>
      match assignSegments parts arguments with
      | (pieces, .error fault) => ⟨[⟨Text.lead line, pieces⟩], some fault⟩
      | (pieces, .ok arguments) =>
        let after := assignLines rest arguments
        ⟨⟨Text.lead line, pieces⟩ :: after.lines, after.fault⟩

/-- Assigns arguments to the placeholders of a template. -/
def assign (template : String) (arguments : Arguments Value) : Assignment Value :=
  assignLines (dedent template.toList) arguments

/-- Whether a property holds of every value among arguments. -/
def Arguments.All (property : Value → Prop) : Arguments Value → Prop
  | .positional _ remaining => ∀ value ∈ remaining, property value
  | .named entries => ∀ entry ∈ entries, property entry.value

variable {property : Value → Prop}

/-- If all arguments have a property, the next one has it, and the rest have it. -/
theorem Arguments.All.next {arguments rest : Arguments Value} {value : Value}
    (all : arguments.All property) (taken : arguments.next = .ok (value, rest)) :
    property value ∧ rest.All property := by
  unfold Arguments.next at taken
  split at taken <;> cases taken
  exact ⟨all value List.mem_cons_self, fun other mem => all other (List.mem_cons_of_mem _ mem)⟩

/-- If all entries have a property, the one that a name takes has it, and the rest have it. -/
theorem Arguments.all_take? {name : String} {entries rest : List (NamedArgument Value)} {value : Value}
    (all : ∀ entry ∈ entries, property entry.value) (taken : Arguments.take? name entries = some (value, rest)) :
    property value ∧ ∀ entry ∈ rest, property entry.value := by
  induction entries generalizing rest with
  | nil => simp [Arguments.take?] at taken
  | cons entry others ih =>
    rw [List.forall_mem_cons] at all
    rw [Arguments.take?] at taken
    split at taken
    · cases taken
      exact ⟨all.1, List.forall_mem_cons.mpr all⟩
    · obtain ⟨⟨found, after⟩, takenLater, parts⟩ := Option.map_eq_some_iff.mp taken
      cases parts
      obtain ⟨holds, later⟩ := ih all.2 takenLater
      exact ⟨holds, List.forall_mem_cons.mpr ⟨all.1, later⟩⟩

/-- If all arguments have a property, the one that is looked up has it, and the rest have it. -/
theorem Arguments.All.lookup {name : String} {arguments rest : Arguments Value} {value : Value}
    (all : arguments.All property) (taken : arguments.lookup name = .ok (value, rest)) :
    property value ∧ rest.All property := by
  unfold Arguments.lookup at taken
  split at taken
  · cases taken
  · split at taken <;> cases taken
    exact all_take? all ‹_›

/-- Values that are assigned to segments have the property that all arguments have, and so have the arguments left. -/
theorem all_assignSegments {parts : List Segment} {arguments : Arguments Value} (all : arguments.All property) :
    (∀ value, .value value ∈ (assignSegments parts arguments).1 → property value) ∧
      ∀ rest, (assignSegments parts arguments).2 = .ok rest → rest.All property := by
  induction parts generalizing arguments with
  | nil => exact ⟨by simp [assignSegments], fun rest left => by cases left; exact all⟩
  | cons part rest ih =>
    cases part <;> rw [assignSegments]
    · simpa using ih all
    · simpa using ih all
    · split
      · simp
      · rename_i taken
        have ⟨holds, left⟩ := all.next taken
        have ⟨values, outcome⟩ := ih left
        refine ⟨fun found mem => ?_, outcome⟩
        rcases List.mem_cons.mp mem with same | mem
        · cases same; exact holds
        · exact values found mem
    · split
      · simp
      · rename_i taken
        have ⟨holds, left⟩ := all.lookup taken
        have ⟨values, outcome⟩ := ih left
        refine ⟨fun found mem => ?_, outcome⟩
        rcases List.mem_cons.mp mem with same | mem
        · cases same; exact holds
        · exact values found mem

/-- Only arguments are assigned to placeholders. -/
theorem all_assignLines {lines : List Line} {arguments : Arguments Value} (all : arguments.All property) :
    ∀ line ∈ (assignLines lines arguments).lines, ∀ value, .value value ∈ line.pieces → property value := by
  induction lines generalizing arguments with
  | nil =>
    rw [assignLines]
    split <;> simp
  | cons line rest ih =>
    rw [assignLines]
    split
    · simp
    · rename_i parts _
      have ⟨values, outcome⟩ := @all_assignSegments Value property parts arguments all
      split <;> rename_i run <;> rw [run] at values outcome
      · simpa using values
      · exact List.forall_mem_cons.mpr ⟨values, ih (outcome _ rfl)⟩

/-- Positional arguments have a property if their values have it. -/
theorem Arguments.all_ofList {values : List Value} (all : ∀ value ∈ values, property value) :
    (Arguments.ofList values).All property := all

/-- Named arguments have a property if their values have it. -/
theorem Arguments.all_ofPairs {pairs : List (String × Value)} (all : ∀ pair ∈ pairs, property pair.2) :
    (Arguments.ofPairs pairs).All property := by
  intro entry mem
  obtain ⟨pair, inPairs, rfl⟩ := List.mem_map.mp mem
  exact all pair inPairs

end Cratewright.Template
