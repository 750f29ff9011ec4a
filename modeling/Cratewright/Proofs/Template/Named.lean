import Cratewright.Proofs.Template.Receiving

/-!
# Templates with named arguments

`Takes` says of a template that its placeholders are named and that their names are those of a list, each listed once.
Named arguments carry marks on those that have been taken; `marked` says which these are, and `assignLines_marked_iff`
carries the marks through all lines. Main statement: named arguments can be assigned to a template exactly if `Takes`
holds of their names, and every placeholder then stands for the argument of its name.
-/

namespace Cratewright.Template

open Text (Line)

variable {Value : Type}

/-- The piece that stands for a segment when every name has a value; a positional placeholder is left as it is. -/
def Segment.piece (value : String → Value) : Segment → Piece Value
  | .literal text => .text text
  | .hash => .text ['#']
  | .positional => .text ['#', 'T']
  | .named name => .value (value (String.ofList name))

/-- The names of the placeholders in lines, in reading order. -/
def placeholders (lines : List Line) : List String := lines.flatMap fun line => (parts line).filterMap Segment.name?

/-- A line in which every name has a value. -/
def named (value : String → Value) (line : Line) : AssignedLine Value :=
  ⟨Text.lead line, (parts line).map (Segment.piece value)⟩

/-- Whether the lines of a template have only named placeholders, of exactly these names. -/
structure Takes (lines : List Line) (names : List String) : Prop where
  scans : ∀ line ∈ lines, (segments line).isOk
  named : ∀ line ∈ lines, .positional ∉ parts line
  known : ∀ name ∈ placeholders lines, name ∈ names
  used : ∀ name ∈ names, name ∈ placeholders lines
  distinct : names.Nodup

instance (lines : List Line) (names : List String) : Decidable (Takes lines names) :=
  decidable_of_iff
    ((∀ line ∈ lines, (segments line).isOk) ∧ (∀ line ∈ lines, .positional ∉ parts line) ∧
      (∀ name ∈ placeholders lines, name ∈ names) ∧ (∀ name ∈ names, name ∈ placeholders lines) ∧
      names.Nodup)
    ⟨fun ⟨scans, named, known, used, distinct⟩ => ⟨scans, named, known, used, distinct⟩,
      fun takes => ⟨takes.scans, takes.named, takes.known, takes.used, takes.distinct⟩⟩

/-- A named placeholder may receive the first value with its name, and a positional one none. -/
def ByName (pairs : List (String × Value)) (placeholder : Segment) (value : Value) : Prop :=
  ∃ name, placeholder = .named name ∧ pairs.lookup (String.ofList name) = some value

/-- Named arguments of which those with certain names have been taken: of several with one name, the first. The names
in `before` are those of the arguments in front of them. -/
def marked (taken before : List String) : List (String × Value) → List (NamedArgument Value)
  | [] => []
  | (name, value) :: rest =>
    { name, value, taken := decide (name ∈ taken ∧ name ∉ before) } :: marked taken (name :: before) rest

variable {pairs : List (String × Value)} {taken before : List String}

/-- Before any argument has been taken, no entry is marked. -/
theorem ofPairs_eq_marked (pairs : List (String × Value)) (before : List String) :
    Arguments.ofPairs pairs = .named (marked [] before pairs) := by
  rw [Arguments.ofPairs, Arguments.named.injEq]
  induction pairs generalizing before with
  | nil => rfl
  | cons pair rest ih =>
    obtain ⟨name, value⟩ := pair
    rw [List.map_cons, marked, ih (name :: before)]
    simp

/-- A name in front is answered to there. -/
theorem marked_append_of_mem {name : String} (mem : name ∈ before) :
    marked (taken ++ [name]) before pairs = marked taken before pairs := by
  induction pairs generalizing before with
  | nil => rfl
  | cons pair rest ih =>
    obtain ⟨first, value⟩ := pair
    rw [marked, marked, ih (List.mem_cons_of_mem _ mem)]
    have same : (first ∈ taken ++ [name] ∧ first ∉ before) ↔ (first ∈ taken ∧ first ∉ before) := by
      rw [List.mem_append, List.mem_singleton]
      constructor
      · rintro ⟨known | rfl, fresh⟩
        · exact ⟨known, fresh⟩
        · exact absurd mem fresh
      · rintro ⟨known, fresh⟩
        exact ⟨.inl known, fresh⟩
    simp only [same]

/-- Taking an argument marks the first with its name. -/
theorem take?_marked {name : String} (fresh : name ∉ before) :
    Arguments.take? name (marked taken before pairs) =
      (pairs.lookup name).map fun value => (value, marked (taken ++ [name]) before pairs) := by
  induction pairs generalizing before with
  | nil => rfl
  | cons pair rest ih =>
    obtain ⟨first, value⟩ := pair
    rw [marked, Arguments.take?, marked, List.lookup_cons]
    -- Behind the first argument with the name, that name is one of those before, where a new mark changes nothing.
    by_cases same : first = name
    · subst same
      simp [marked_append_of_mem, fresh]
    · have apart : (name == first) = false := beq_false_of_ne (Ne.symm same)
      simp only [apart]
      rw [if_neg same, ih (by simp [fresh, Ne.symm same]), Option.map_map]
      simp [same, Function.comp_def]

/-- All arguments have been taken if their names are distinct and have all been asked for. -/
theorem all_marked_iff :
    (∀ entry ∈ marked taken before pairs, entry.taken = true) ↔
      (pairs.map Prod.fst).Nodup ∧ ∀ name ∈ pairs.map Prod.fst, name ∈ taken ∧ name ∉ before := by
  induction pairs generalizing before with
  | nil => simp [marked]
  | cons pair rest ih =>
    obtain ⟨first, value⟩ := pair
    rw [marked, List.forall_mem_cons, ih, List.map_cons, List.nodup_cons, List.forall_mem_cons, decide_eq_true_iff]
    simp only [List.mem_cons, not_or]
    constructor
    · rintro ⟨asked, distinct, others⟩
      refine ⟨⟨fun mem => (others first mem).2.1 rfl, distinct⟩, asked, fun name mem => ?_⟩
      exact ⟨(others name mem).1, (others name mem).2.2⟩
    · rintro ⟨⟨apart, distinct⟩, asked, others⟩
      refine ⟨asked, distinct, fun name mem => ⟨(others name mem).1, ?_, (others name mem).2⟩⟩
      rintro rfl
      exact apart mem

/-- Marked arguments are used up exactly if no two have one name and every name has been taken. -/
theorem finish_marked_iff :
    Arguments.finish (.named (marked taken [] pairs)) = .ok () ↔
      (pairs.map Prod.fst).Nodup ∧ ∀ name ∈ pairs.map Prod.fst, name ∈ taken := by
  have all_iff : (∀ entry ∈ marked taken [] pairs, entry.taken = true) ↔ _ := all_marked_iff
  have left_iff : (marked taken [] pairs).filter (!·.taken) = [] ↔
      ∀ entry ∈ marked taken [] pairs, entry.taken = true := by
    simp [List.filter_eq_nil_iff]
  simp only [List.not_mem_nil, not_false_eq_true, and_true] at all_iff
  rw [← all_iff, ← left_iff, Arguments.finish]
  cases (marked taken [] pairs).filter (!·.taken) <;> simp

/-- A segment takes the argument of its name if it is a named placeholder. -/
theorem receive_marked_iff {part : Segment} {piece : Piece Value} {next : Arguments Value} :
    (Arguments.named (marked taken [] pairs)).receive part = .ok (piece, next) ↔
      Receives (ByName pairs) part piece ∧ next = .named (marked (taken ++ part.name?.toList) [] pairs) := by
  constructor
  · intro given
    cases part with
    | literal text =>
      cases given
      exact ⟨.literal text, by simp [Segment.name?]⟩
    | hash =>
      cases given
      exact ⟨.hash, by simp [Segment.name?]⟩
    | positional => cases given
    | named name =>
      rw [Arguments.receive, Arguments.lookup, take?_marked List.not_mem_nil] at given
      cases found : pairs.lookup (String.ofList name) with
      | none =>
        rw [found] at given
        cases given
      | some value =>
        rw [found] at given
        cases given
        exact ⟨.value ⟨name, rfl, found⟩, rfl⟩
  · rintro ⟨received, rfl⟩
    cases received with
    | literal text => simp [Arguments.receive, Segment.name?]
    | hash => simp [Arguments.receive, Segment.name?]
    | value received =>
      obtain ⟨name, rfl, found⟩ := received
      rw [Arguments.receive, Arguments.lookup, take?_marked List.not_mem_nil, found]
      rfl

/-- The segments of a line take the arguments of their names. -/
theorem assignSegments_marked_iff {found : List Segment} {pieces : List (Piece Value)} {rest : Arguments Value} :
    assignSegments found (.named (marked taken [] pairs)) = (pieces, .ok rest) ↔
      List.Forall₂ (Receives (ByName pairs)) found pieces ∧
        rest = .named (marked (taken ++ found.filterMap Segment.name?) [] pairs) := by
  induction found generalizing taken pieces with
  | nil =>
    rw [assignSegments, List.forall₂_nil_left_iff, List.filterMap_nil, List.append_nil]
    constructor
    · intro assigned
      cases assigned
      exact ⟨rfl, rfl⟩
    · rintro ⟨rfl, rfl⟩
      rfl
  | cons part others ih =>
    have together : taken ++ (part :: others).filterMap Segment.name? =
        (taken ++ part.name?.toList) ++ others.filterMap Segment.name? := by
      rw [List.append_assoc, List.filterMap_cons]
      cases part.name? <;> rfl
    rw [assignSegments_cons_iff, List.forall₂_cons_left_iff, together]
    constructor
    · rintro ⟨piece, next, given, later, assigned, rfl⟩
      obtain ⟨received, rfl⟩ := receive_marked_iff.mp given
      obtain ⟨filled, rfl⟩ := ih.mp assigned
      exact ⟨⟨piece, later, received, filled, rfl⟩, rfl⟩
    · rintro ⟨⟨piece, later, received, filled, rfl⟩, rfl⟩
      exact ⟨piece, _, receive_marked_iff.mpr ⟨received, rfl⟩, later, ih.mpr ⟨filled, rfl⟩, rfl⟩

/-- Lines have been assigned named arguments without a fault if they are filled with these by their names, which are
distinct and all asked for. -/
theorem assignLines_marked_iff {lines : List Line} {assigned : List (AssignedLine Value)} :
    assignLines lines (.named (marked taken [] pairs)) = ⟨assigned, none⟩ ↔
      Filled (ByName pairs) lines assigned ∧ (pairs.map Prod.fst).Nodup ∧
        ∀ name ∈ pairs.map Prod.fst, name ∈ taken ++ placeholders lines := by
  induction lines generalizing taken assigned with
  | nil =>
    rw [Filled, assignLines_nil_iff, List.forall₂_nil_left_iff, finish_marked_iff, placeholders, List.flatMap_nil,
      List.append_nil]
  | cons line others ih =>
    have together : taken ++ placeholders (line :: others) =
        (taken ++ (parts line).filterMap Segment.name?) ++ placeholders others := by
      rw [placeholders, List.flatMap_cons, List.append_assoc]
      rfl
    rw [Filled, assignLines_cons_iff, List.forall₂_cons_left_iff, together]
    constructor
    · rintro ⟨scans, pieces, next, given, later, assigned, rfl⟩
      obtain ⟨received, rfl⟩ := assignSegments_marked_iff.mp given
      obtain ⟨filled, used⟩ := ih.mp assigned
      exact ⟨⟨_, later, ⟨rfl, scans, received⟩, filled, rfl⟩, used⟩
    · rintro ⟨⟨⟨leading, pieces⟩, later, ⟨rfl, scans, received⟩, filled, rfl⟩, used⟩
      exact ⟨scans, pieces, _, assignSegments_marked_iff.mpr ⟨received, rfl⟩, later, ih.mpr ⟨filled, used⟩, rfl⟩

/-- A segment can be filled by name if it is not a positional placeholder and its name is that of an argument. -/
theorem exists_receives_byName_iff {part : Segment} :
    (∃ piece, Receives (ByName pairs) part piece) ↔
      part ≠ .positional ∧ ∀ name ∈ part.name?, name ∈ pairs.map Prod.fst := by
  have answered (name : String) : name ∈ pairs.map Prod.fst ↔ ∃ value, pairs.lookup name = some value := by
    rw [← Option.isSome_iff_exists, List.lookup_isSome_iff]
    simp
  cases part with
  | literal text => exact ⟨fun _ => ⟨nofun, nofun⟩, fun _ => ⟨_, .literal text⟩⟩
  | hash => exact ⟨fun _ => ⟨nofun, nofun⟩, fun _ => ⟨_, .hash⟩⟩
  | positional =>
    refine ⟨?_, fun excluded => absurd rfl excluded.1⟩
    rintro ⟨_, received⟩
    cases received with
    | value given =>
      obtain ⟨_, same, -⟩ := given
      cases same
  | named name =>
    constructor
    · rintro ⟨_, received⟩
      cases received with
      | value given =>
        obtain ⟨_, same, found⟩ := given
        cases same
        refine ⟨nofun, fun asked mem => ?_⟩
        cases mem
        exact (answered _).mpr ⟨_, found⟩
    · rintro ⟨-, known⟩
      obtain ⟨value, found⟩ := (answered _).mp (known _ rfl)
      exact ⟨.value value, .value ⟨name, rfl, found⟩⟩

/-- Lines can be filled with arguments by their names, of which none is left, if and only if they take these names. -/
theorem exists_filled_byName_iff {lines : List Line} :
    (∃ assigned, Filled (ByName pairs) lines assigned ∧ (pairs.map Prod.fst).Nodup ∧
      ∀ name ∈ pairs.map Prod.fst, name ∈ placeholders lines) ↔ Takes lines (pairs.map Prod.fst) := by
  have fillable : (∃ assigned, Filled (ByName pairs) lines assigned) ↔
      ∀ line ∈ lines, (segments line).isOk ∧
        ∀ part ∈ parts line, part ≠ .positional ∧ ∀ name ∈ part.name?, name ∈ pairs.map Prod.fst := by
    simp only [exists_forall₂_iff, exists_filledLine_iff, exists_receives_byName_iff]
  rw [exists_and_right, fillable]
  constructor
  · rintro ⟨fits, distinct, used⟩
    refine ⟨fun line mem => (fits line mem).1, fun line mem found => ?_, ?_, used, distinct⟩
    · exact ((fits line mem).2 _ found).1 rfl
    · intro name asked
      obtain ⟨line, mem, inLine⟩ := List.mem_flatMap.mp asked
      obtain ⟨part, found, named⟩ := List.mem_filterMap.mp inLine
      exact ((fits line mem).2 part found).2 name named
  · rintro ⟨scans, named, known, used, distinct⟩
    refine ⟨fun line mem => ⟨scans line mem, fun part found => ⟨?_, fun name asked => ?_⟩⟩, distinct, used⟩
    · rintro rfl
      exact named line mem found
    · exact known name (List.mem_flatMap.mpr ⟨line, mem, List.mem_filterMap.mpr ⟨part, found, asked⟩⟩)

/-- Named arguments are assigned to a template without a fault if its lines are filled with them by their names, which
are distinct and all asked for. -/
theorem assign_ofPairs_iff {template : String} {assigned : List (AssignedLine Value)} :
    assign template (.ofPairs pairs) = ⟨assigned, none⟩ ↔
      Filled (ByName pairs) (dedent template.toList) assigned ∧ (pairs.map Prod.fst).Nodup ∧
        ∀ name ∈ pairs.map Prod.fst, name ∈ placeholders (dedent template.toList) := by
  rw [assign, ofPairs_eq_marked pairs [], assignLines_marked_iff, List.nil_append]

/-! ## A value for each name -/

section

variable {template : String} {names : List String}

/-- A line of named placeholders is filled by name if each name has a value. -/
theorem filledLine_named {line : Line} (scans : (segments line).isOk) (named : .positional ∉ parts line)
    (known : ∀ name ∈ (parts line).filterMap Segment.name?, name ∈ names) (value : String → Value) :
    FilledLine (ByName (names.map fun name => (name, value name))) line (Template.named value line) where
  leading := rfl
  scans := scans
  pieces := by
    refine List.forall₂_map_right_iff.mpr (List.forall₂_same.mpr fun part found => ?_)
    cases part with
    | literal text => exact .literal text
    | hash => exact .hash
    | positional => exact absurd found named
    | named name =>
      have mem : String.ofList name ∈ names := known _ (List.mem_filterMap.mpr ⟨_, found, rfl⟩)
      exact .value ⟨name, rfl, List.lookup_graph value mem⟩

/-- A template that takes named arguments has no fault, and each of its placeholders stands for the argument of its
name. -/
theorem assign_named (takes : Takes (dedent template.toList) names) (value : String → Value) :
    assign template (.ofPairs (names.map fun name => (name, value name))) =
      ⟨(dedent template.toList).map (named value), none⟩ := by
  have given : (names.map fun name => (name, value name)).map Prod.fst = names := by simp [Function.comp_def]
  rw [assign_ofPairs_iff, given]
  refine ⟨?_, takes.distinct, takes.used⟩
  refine List.forall₂_map_right_iff.mpr (List.forall₂_same.mpr fun line mem => ?_)
  refine filledLine_named (takes.scans line mem) (takes.named line mem) (fun name asked => ?_) value
  exact takes.known name (List.mem_flatMap.mpr ⟨line, mem, asked⟩)

end

end Cratewright.Template
