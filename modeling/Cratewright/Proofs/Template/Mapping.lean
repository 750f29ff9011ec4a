import Cratewright.Template.Assignment

/-!
# Assignments under a change of values

Which argument stands at which placeholder does not depend on what the arguments are. So replacing every argument
replaces every value of the assignment and nothing else, and the same faults arise, by `assign_map`.
-/

namespace Cratewright.Template

open Text (Line)

variable {Value Other : Type} (change : Value → Other)

/-- The argument with its value replaced. -/
def NamedArgument.map (entry : NamedArgument Value) : NamedArgument Other :=
  { name := entry.name, value := change entry.value, taken := entry.taken }

namespace Arguments

/-- The arguments with every value replaced. -/
def map : Arguments Value → Arguments Other
  | .positional given remaining => .positional given (remaining.map change)
  | .named entries => .named (entries.map (NamedArgument.map change))

/-- Positional values can be changed before or after they become arguments. -/
theorem ofList_map (values : List Value) : ofList (values.map change) = (ofList values).map change := by
  simp [ofList, map]

/-- Named values can be changed before or after they become arguments. -/
theorem ofPairs_map (pairs : List (String × Value)) :
    ofPairs (pairs.map fun (name, value) => (name, change value)) = (ofPairs pairs).map change := by
  simp [ofPairs, map, NamedArgument.map, Function.comp_def]

/-- The next of changed arguments is the next argument, changed. -/
theorem next_map (arguments : Arguments Value) :
    (arguments.map change).next = arguments.next.map fun (value, rest) => (change value, rest.map change) := by
  match arguments with
  | .positional _ [] => rfl
  | .positional _ (_ :: _) => rfl
  | .named _ => rfl

/-- The entry taken by a name from changed entries is the entry with that name, changed. -/
theorem take?_map (name : String) (entries : List (NamedArgument Value)) :
    take? name (entries.map (NamedArgument.map change)) =
      (take? name entries).map fun (value, rest) => (change value, rest.map (NamedArgument.map change)) := by
  induction entries with
  | nil => rfl
  | cons entry rest ih =>
    rw [List.map_cons, take?, take?, ih]
    by_cases same : entry.name = name
    · simp [NamedArgument.map, same]
    · simp [NamedArgument.map, same, Function.comp_def]

/-- The argument looked up in changed arguments is the one with that name, changed. -/
theorem lookup_map (name : String) (arguments : Arguments Value) :
    (arguments.map change).lookup name =
      (arguments.lookup name).map fun (value, rest) => (change value, rest.map change) := by
  cases arguments with
  | positional => rfl
  | named entries =>
    simp only [map, lookup, take?_map]
    cases take? name entries <;> rfl

/-- Whether arguments are used up does not depend on their values. -/
theorem finish_map (arguments : Arguments Value) : (arguments.map change).finish = arguments.finish := by
  match arguments with
  | .positional _ [] => rfl
  | .positional _ (_ :: _) => simp [map, finish]
  | .named entries =>
    have unused : (entries.map (NamedArgument.map change)).filter (!·.taken) =
        (entries.filter (!·.taken)).map (NamedArgument.map change) := by
      rw [List.filter_map]
      rfl
    simp only [map, finish, unused]
    cases entries.filter (!·.taken) with
    | nil => rfl
    | cons first rest => simp [NamedArgument.map, Function.comp_def]

end Arguments

/-- The piece with its value replaced. -/
def Piece.map : Piece Value → Piece Other
  | .text literal => .text literal
  | .value given => .value (change given)

/-- The line with every value replaced. -/
def AssignedLine.map (line : AssignedLine Value) : AssignedLine Other :=
  ⟨line.leading, line.pieces.map (Piece.map change)⟩

/-- The assignment with every value replaced. -/
def Assignment.map (assignment : Assignment Value) : Assignment Other :=
  ⟨assignment.lines.map (AssignedLine.map change), assignment.fault⟩

/-- The values of a changed line are its values, changed. -/
theorem AssignedLine.values_map (line : AssignedLine Value) : (line.map change).values = line.values.map change := by
  obtain ⟨leading, pieces⟩ := line
  simp only [map, values]
  induction pieces with
  | nil => rfl
  | cons piece rest ih => cases piece <;> simp [Piece.map, ih]

/-- The values of a changed assignment are its values, changed. -/
theorem Assignment.values_map (assignment : Assignment Value) :
    (assignment.map change).values = assignment.values.map change := by
  simp [map, values, List.flatMap_map, List.map_flatMap, AssignedLine.values_map]

/-- Changed arguments are assigned to segments as the arguments are, and the pieces are changed. -/
theorem assignSegments_map (parts : List Segment) (arguments : Arguments Value) :
    assignSegments parts (arguments.map change) =
      ((assignSegments parts arguments).1.map (Piece.map change),
        (assignSegments parts arguments).2.map (Arguments.map change)) := by
  induction parts generalizing arguments with
  | nil => rfl
  | cons part rest ih =>
    cases part <;> rw [assignSegments, assignSegments]
    · rw [ih]; rfl
    · rw [ih]; rfl
    · rw [Arguments.next_map]
      cases arguments.next with
      | error => rfl
      | ok taken => simp [Except.map, ih, Piece.map]
    · rw [Arguments.lookup_map]
      cases arguments.lookup _ with
      | error => rfl
      | ok taken => simp [Except.map, ih, Piece.map]

/-- Changed arguments are assigned to lines as the arguments are, and the assignment is changed. -/
theorem assignLines_map (lines : List Line) (arguments : Arguments Value) :
    assignLines lines (arguments.map change) = (assignLines lines arguments).map change := by
  induction lines generalizing arguments with
  | nil =>
    rw [assignLines, assignLines, Arguments.finish_map]
    cases arguments.finish <;> rfl
  | cons line rest ih =>
    rw [assignLines, assignLines]
    cases segments line with
    | error => rfl
    | ok parts =>
      simp only [assignSegments_map]
      obtain ⟨pieces, outcome⟩ := assignSegments parts arguments
      cases outcome with
      | error => rfl
      | ok left =>
        simp only [Except.map, ih]
        rfl

/-- Replacing the arguments of a template replaces the values that stand at its placeholders. -/
theorem assign_map (template : String) (arguments : Arguments Value) :
    assign template (arguments.map change) = (assign template arguments).map change :=
  assignLines_map change _ arguments

end Cratewright.Template
