import Mathlib.Data.List.Forall2
import Cratewright.Template.Assignment

/-!
# Which placeholder receives which argument

A filled line has one piece for each segment of the template line, and `Receives` says which piece may stand for which
segment. Assigning arguments to lines threads them through all segments: what one segment does to them is `receive`,
and a kind of arguments is carried through lines by what it does there. Main statement: positional arguments can be
assigned exactly if the lines scan, have no named placeholder and have as many positional ones as there are arguments,
which they receive in order.
-/

namespace Cratewright.Template

open Text (Line)

variable {Value : Type}

/-- The segments of a line, or none if it cannot be cut into segments. -/
def parts (line : Line) : List Segment :=
  match segments line with
  | .ok found => found
  | .error _ => []

/-- The name of a named placeholder. -/
def Segment.name? : Segment → Option String
  | .named name => some (String.ofList name)
  | _ => none

/-- Whether a piece may stand for a segment, where `may` says which placeholder may receive which value. -/
inductive Receives (may : Segment → Value → Prop) : Segment → Piece Value → Prop
  | literal (text : Line) : Receives may (.literal text) (.text text)
  | hash : Receives may .hash (.text ['#'])
  | value {placeholder : Segment} {value : Value} (received : may placeholder value) :
    Receives may placeholder (.value value)

/-- A positional placeholder may receive any value, and a named one none. -/
def InOrder (placeholder : Segment) (_ : Value) : Prop := placeholder = .positional

/-- Whether a line is a template line in which the placeholders have received values. -/
structure FilledLine (may : Segment → Value → Prop) (line : Line) (filled : AssignedLine Value) : Prop where
  leading : filled.leading = Text.lead line
  scans : (segments line).isOk
  pieces : List.Forall₂ (Receives may) (parts line) filled.pieces

/-- Whether lines are those of a template in which the placeholders have received values. -/
abbrev Filled (may : Segment → Value → Prop) (lines : List Line) (filled : List (AssignedLine Value)) : Prop :=
  List.Forall₂ (FilledLine may) lines filled

/-- The value of a piece that stands for a placeholder. -/
def Piece.value? : Piece Value → Option Value
  | .text _ => none
  | .value given => some given

/-- The value of a first piece comes before the values of the others. -/
theorem Piece.filterMap_value?_cons (piece : Piece Value) (rest : List (Piece Value)) :
    (piece :: rest).filterMap value? = piece.value?.toList ++ rest.filterMap value? := by
  cases piece <;> rfl

/-- The values of a line are those of its pieces. -/
theorem AssignedLine.values_eq (line : AssignedLine Value) : line.values = line.pieces.filterMap Piece.value? := by
  unfold values
  congr 1

/-- The segments of filled lines stand against their pieces. -/
theorem Filled.pieces {may : Segment → Value → Prop} {lines : List Line} {assigned : List (AssignedLine Value)}
    (filled : Filled may lines assigned) :
    List.Forall₂ (Receives may) (lines.flatMap parts) (assigned.flatMap AssignedLine.pieces) :=
  List.rel_flatMap filled fun _ _ line => line.pieces

/-- Lines that are filled can be read. -/
theorem Filled.scans {may : Segment → Value → Prop} {lines : List Line} {assigned : List (AssignedLine Value)}
    (filled : Filled may lines assigned) : ∀ line ∈ lines, (segments line).isOk :=
  ((List.forall₂_and_left _ _).mp (filled.imp fun _ _ line => ⟨line.scans, line⟩)).1

/-- A list is related to some list exactly if each of its items is related to something. -/
theorem exists_forall₂_iff {Left Right : Type} {related : Left → Right → Prop} {left : List Left} :
    (∃ right, List.Forall₂ related left right) ↔ ∀ item ∈ left, ∃ other, related item other := by
  induction left with
  | nil => simp
  | cons first rest ih =>
    rw [List.forall_mem_cons, ← ih]
    simp only [List.forall₂_cons_left_iff]
    constructor
    · rintro ⟨_, other, later, here, there, rfl⟩
      exact ⟨⟨other, here⟩, later, there⟩
    · rintro ⟨⟨other, here⟩, later, there⟩
      exact ⟨other :: later, other, later, here, there, rfl⟩

/-- A template line can be filled if it scans and each of its segments can be. -/
theorem exists_filledLine_iff {may : Segment → Value → Prop} {line : Line} :
    (∃ filled, FilledLine may line filled) ↔
      (segments line).isOk ∧ ∀ part ∈ parts line, ∃ piece, Receives may part piece := by
  rw [← exists_forall₂_iff]
  constructor
  · rintro ⟨filled, -, scans, received⟩
    exact ⟨scans, filled.pieces, received⟩
  · rintro ⟨scans, pieces, received⟩
    exact ⟨⟨Text.lead line, pieces⟩, rfl, scans, received⟩

/-! ## One segment at a time -/

/-- What a segment receives, and the arguments that are left. -/
def Arguments.receive (arguments : Arguments Value) :
    Segment → Except TemplateFault (Piece Value × Arguments Value)
  | .literal text => .ok (.text text, arguments)
  | .hash => .ok (.text ['#'], arguments)
  | .positional => arguments.next.map fun (value, left) => (.value value, left)
  | .named name => (arguments.lookup (String.ofList name)).map fun (value, left) => (.value value, left)

/-- Segments have been assigned without a fault if the first has received its piece, and the others theirs. -/
theorem assignSegments_cons_iff {part : Segment} {rest : List Segment} {arguments left : Arguments Value}
    {pieces : List (Piece Value)} :
    assignSegments (part :: rest) arguments = (pieces, .ok left) ↔
      ∃ piece next, arguments.receive part = .ok (piece, next) ∧
        ∃ others, assignSegments rest next = (others, .ok left) ∧ pieces = piece :: others := by
  have first (piece : Piece Value) (next : Arguments Value) :
      (piece :: (assignSegments rest next).1, (assignSegments rest next).2) = (pieces, .ok left) ↔
        ∃ others, assignSegments rest next = (others, .ok left) ∧ pieces = piece :: others := by
    obtain ⟨others, outcome⟩ := assignSegments rest next
    simp [eq_comm, and_comm]
  cases part with
  | literal text => simpa [assignSegments, Arguments.receive] using first (.text text) arguments
  | hash => simpa [assignSegments, Arguments.receive] using first (.text ['#']) arguments
  | positional =>
    rw [assignSegments, Arguments.receive]
    rcases arguments.next with fault | ⟨value, next⟩
    · simp [Except.map]
    · simpa [Except.map] using first (.value value) next
  | named name =>
    rw [assignSegments, Arguments.receive]
    rcases arguments.lookup (String.ofList name) with fault | ⟨value, next⟩
    · simp [Except.map]
    · simpa [Except.map] using first (.value value) next

/-- Without lines there is no fault if every argument has been taken. -/
theorem assignLines_nil_iff {arguments : Arguments Value} {assigned : List (AssignedLine Value)} :
    assignLines [] arguments = ⟨assigned, none⟩ ↔ assigned = [] ∧ arguments.finish = .ok () := by
  rw [assignLines]
  rcases arguments.finish with fault | ⟨⟩ <;> simp [eq_comm]

/-- Lines have been assigned without a fault if the first has, and the others with the arguments that it left. -/
theorem assignLines_cons_iff {line : Line} {rest : List Line} {arguments : Arguments Value}
    {assigned : List (AssignedLine Value)} :
    assignLines (line :: rest) arguments = ⟨assigned, none⟩ ↔
      (segments line).isOk ∧ ∃ pieces left, assignSegments (parts line) arguments = (pieces, .ok left) ∧
        ∃ others, assignLines rest left = ⟨others, none⟩ ∧ assigned = ⟨Text.lead line, pieces⟩ :: others := by
  cases scanned : segments line with
  | error fault => simp [assignLines, scanned, Except.isOk, Except.toBool]
  | ok found =>
    have found_parts : parts line = found := by rw [parts, scanned]
    rw [found_parts, assignLines, scanned]
    dsimp only
    rcases assignSegments found arguments with ⟨pieces, fault | left⟩
    · simp
    · rcases later : assignLines rest left with ⟨others, fault⟩
      simp [Except.isOk, Except.toBool, later, eq_comm, and_comm]

/-! ## Positional arguments -/

section

variable {given : Nat}

/-- A segment takes the next positional argument if it is a positional placeholder. -/
theorem receive_positional_iff {part : Segment} {remaining : List Value} {piece : Piece Value}
    {next : Arguments Value} :
    (Arguments.positional given remaining).receive part = .ok (piece, next) ↔
      Receives InOrder part piece ∧
        ∃ left, next = .positional given left ∧ piece.value?.toList ++ left = remaining := by
  constructor
  · intro taken
    cases part with
    | literal text =>
      cases taken
      exact ⟨.literal text, remaining, rfl, rfl⟩
    | hash =>
      cases taken
      exact ⟨.hash, remaining, rfl, rfl⟩
    | positional =>
      cases remaining with
      | nil => cases taken
      | cons value left =>
        cases taken
        exact ⟨.value rfl, left, rfl, rfl⟩
    | named name => cases taken
  · rintro ⟨received, left, rfl, rfl⟩
    cases received with
    | literal text => rfl
    | hash => rfl
    | value received =>
      cases received
      rfl

/-- The segments of a line take the first of the positional arguments and leave the others. -/
theorem assignSegments_positional_iff {found : List Segment} {remaining : List Value} {pieces : List (Piece Value)}
    {rest : Arguments Value} :
    assignSegments found (.positional given remaining) = (pieces, .ok rest) ↔
      List.Forall₂ (Receives InOrder) found pieces ∧
        ∃ left, rest = .positional given left ∧ pieces.filterMap Piece.value? ++ left = remaining := by
  induction found generalizing remaining pieces with
  | nil =>
    rw [assignSegments, List.forall₂_nil_left_iff]
    constructor
    · intro assigned
      cases assigned
      exact ⟨rfl, remaining, rfl, rfl⟩
    · rintro ⟨rfl, left, rfl, rfl⟩
      rfl
  | cons part others ih =>
    have together (piece : Piece Value) (later : List (Piece Value)) (left : List Value) :
        (piece :: later).filterMap Piece.value? ++ left =
          piece.value?.toList ++ (later.filterMap Piece.value? ++ left) := by
      rw [Piece.filterMap_value?_cons, List.append_assoc]
    rw [assignSegments_cons_iff, List.forall₂_cons_left_iff]
    constructor
    · rintro ⟨piece, next, taken, later, assigned, rfl⟩
      obtain ⟨received, _, rfl, rfl⟩ := receive_positional_iff.mp taken
      obtain ⟨filled, left, rfl, rfl⟩ := ih.mp assigned
      exact ⟨⟨piece, later, received, filled, rfl⟩, left, rfl, together piece later left⟩
    · rintro ⟨⟨piece, later, received, filled, rfl⟩, left, rfl, rfl⟩
      refine ⟨piece, _, receive_positional_iff.mpr ⟨received, _, rfl, (together piece later left).symm⟩, later, ?_, rfl⟩
      exact ih.mpr ⟨filled, left, rfl, rfl⟩

/-- Lines have been assigned positional arguments without a fault if they are filled with these in order. -/
theorem assignLines_positional_iff {lines : List Line} {remaining : List Value}
    {assigned : List (AssignedLine Value)} :
    assignLines lines (.positional given remaining) = ⟨assigned, none⟩ ↔
      Filled InOrder lines assigned ∧ assigned.flatMap AssignedLine.values = remaining := by
  induction lines generalizing remaining assigned with
  | nil =>
    have finished : (Arguments.positional given remaining).finish = .ok () ↔ [] = remaining := by
      cases remaining <;> simp [Arguments.finish]
    rw [Filled, assignLines_nil_iff, List.forall₂_nil_left_iff, finished]
    refine and_congr_right fun empty => ?_
    rw [empty, List.flatMap_nil]
  | cons line others ih =>
    rw [Filled, assignLines_cons_iff, List.forall₂_cons_left_iff]
    constructor
    · rintro ⟨scans, pieces, next, taken, later, assigned, rfl⟩
      obtain ⟨received, left, rfl, rfl⟩ := assignSegments_positional_iff.mp taken
      obtain ⟨filled, rfl⟩ := ih.mp assigned
      refine ⟨⟨_, later, ⟨rfl, scans, received⟩, filled, rfl⟩, ?_⟩
      rw [List.flatMap_cons, AssignedLine.values_eq]
    · rintro ⟨⟨⟨leading, pieces⟩, later, ⟨rfl, scans, received⟩, filled, rfl⟩, rfl⟩
      refine ⟨scans, pieces, .positional given _, ?_, later, ih.mpr ⟨filled, rfl⟩, rfl⟩
      refine assignSegments_positional_iff.mpr ⟨received, _, rfl, ?_⟩
      rw [List.flatMap_cons, AssignedLine.values_eq]

end

/-- Whether lines have positional placeholders only, and how many. -/
structure TakesInOrder (lines : List Line) (count : Nat) : Prop where
  scans : ∀ line ∈ lines, (segments line).isOk
  unnamed : ∀ line ∈ lines, ∀ part ∈ parts line, part.name? = none
  counted : (lines.flatMap parts).count .positional = count

/-- Segments that are filled in order have no named placeholder, and as many positional ones as there are values. -/
theorem count_of_receives {found : List Segment} {pieces : List (Piece Value)}
    (received : List.Forall₂ (Receives InOrder) found pieces) :
    (∀ part ∈ found, part.name? = none) ∧ found.count .positional = (pieces.filterMap Piece.value?).length := by
  induction received with
  | nil => exact ⟨nofun, rfl⟩
  | cons first later ih =>
    obtain ⟨unnamed, counted⟩ := ih
    rw [Piece.filterMap_value?_cons, List.length_append, ← counted, List.forall_mem_cons]
    cases first with
    | literal text => exact ⟨⟨rfl, unnamed⟩, by simp [Piece.value?]⟩
    | hash => exact ⟨⟨rfl, unnamed⟩, by simp [Piece.value?]⟩
    | value received =>
      cases received
      exact ⟨⟨rfl, unnamed⟩, by simp [Piece.value?, Nat.add_comm]⟩

/-- Segments without named placeholders can be filled in order with the first of enough values. -/
theorem exists_receives {found : List Segment} (unnamed : ∀ part ∈ found, part.name? = none) {values : List Value}
    (enough : found.count .positional ≤ values.length) :
    ∃ pieces left, List.Forall₂ (Receives InOrder) found pieces ∧ pieces.filterMap Piece.value? ++ left = values := by
  induction found generalizing values with
  | nil => exact ⟨[], values, .nil, rfl⟩
  | cons part others ih =>
    rw [List.forall_mem_cons] at unnamed
    cases part with
    | literal text =>
      obtain ⟨pieces, left, received, same⟩ := ih unnamed.2 (by simpa using enough)
      exact ⟨.text text :: pieces, left, .cons (.literal text) received, same⟩
    | hash =>
      obtain ⟨pieces, left, received, same⟩ := ih unnamed.2 (by simpa using enough)
      exact ⟨.text ['#'] :: pieces, left, .cons .hash received, same⟩
    | positional =>
      cases values with
      | nil => simp at enough
      | cons value later =>
        have enoughLater : others.count .positional ≤ later.length := by simpa using enough
        obtain ⟨pieces, left, received, rfl⟩ := ih unnamed.2 enoughLater
        exact ⟨.value value :: pieces, left, .cons (.value rfl) received, rfl⟩
    | named name => cases unnamed.1

/-- The values of lines are those of all their pieces in order. -/
theorem values_eq_filterMap (assigned : List (AssignedLine Value)) :
    assigned.flatMap AssignedLine.values = (assigned.flatMap AssignedLine.pieces).filterMap Piece.value? := by
  rw [List.filterMap_flatMap]
  exact List.flatMap_congr fun line _ => line.values_eq

/-- Lines can be filled with values in order if and only if they take as many. -/
theorem exists_filled_inOrder_iff {lines : List Line} {values : List Value} :
    (∃ assigned, Filled InOrder lines assigned ∧ assigned.flatMap AssignedLine.values = values) ↔
      TakesInOrder lines values.length := by
  constructor
  · rintro ⟨assigned, filled, rfl⟩
    obtain ⟨unnamed, counted⟩ := count_of_receives filled.pieces
    refine ⟨filled.scans, fun line mem part found => ?_, ?_⟩
    · exact unnamed part (List.mem_flatMap.mpr ⟨line, mem, found⟩)
    · rw [counted, values_eq_filterMap]
  · rintro ⟨scans, unnamed, counted⟩
    -- Each line takes the first of the values and leaves as many as the other lines have placeholders.
    induction lines generalizing values with
    | nil =>
      cases List.length_eq_zero_iff.mp counted.symm
      exact ⟨[], .nil, rfl⟩
    | cons line others ih =>
      rw [List.forall_mem_cons] at scans unnamed
      rw [List.flatMap_cons, List.count_append] at counted
      have enough : (parts line).count .positional ≤ values.length := by omega
      obtain ⟨pieces, left, received, rfl⟩ := exists_receives unnamed.1 enough
      rw [(count_of_receives received).2, List.length_append] at counted
      have countedLater : (others.flatMap parts).count .positional = left.length := by omega
      obtain ⟨assigned, filled, rfl⟩ := ih scans.2 unnamed.2 countedLater
      refine ⟨⟨Text.lead line, pieces⟩ :: assigned, .cons ⟨rfl, scans.1, received⟩ filled, ?_⟩
      rw [List.flatMap_cons, AssignedLine.values_eq]

/-- Positional arguments are assigned to a template without a fault if its lines are filled with them in order. -/
theorem assign_ofList_iff {template : String} {assigned : List (AssignedLine Value)} {values : List Value} :
    assign template (.ofList values) = ⟨assigned, none⟩ ↔
      Filled InOrder (dedent template.toList) assigned ∧ assigned.flatMap AssignedLine.values = values :=
  assignLines_positional_iff

end Cratewright.Template
