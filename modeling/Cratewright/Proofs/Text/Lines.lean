import Cratewright.Text.Lines
import Mathlib.Data.List.DropRight

/-!
# Laws of lines

Cutting and joining are inverse on lines that hold no newline, and hanging a text indents its lines after the first.
What is blank stays blank under trimming, and trimming looks no further than the last character that is not.
-/

namespace Cratewright.Text

/-- Dropping the end of a list is `List.rdropWhile`. -/
theorem dropEndWhile_eq_rdropWhile {α : Type} (test : α → Bool) (items : List α) :
    dropEndWhile test items = items.rdropWhile test := rfl

/-- Cutting at newlines is the library's way of splitting a list. -/
theorem split_eq_splitOn (text : List Char) : split text = text.splitOn '\n' := by
  induction text with
  | nil => rfl
  | cons c rest ih =>
    rw [split, ih, List.splitOn_cons_eq_if_modifyHead]
    by_cases newline : c = '\n'
    · simp [newline]
    · cases pieces : rest.splitOn '\n' with
      | nil => exact absurd pieces (List.splitOn_ne_nil _ _)
      | cons first others => simp [newline]

/-- Lines are joined by a newline behind each but the last. -/
theorem join_cons_cons (line next : Line) (rest : List Line) :
    join (line :: next :: rest) = line ++ '\n' :: join (next :: rest) := rfl

/-- Lines are joined with a newline between any two. -/
theorem join_eq_intercalate (lines : List Line) : join lines = ['\n'].intercalate lines := by
  induction lines with
  | nil => rfl
  | cons line rest ih =>
    cases rest with
    | nil => simp [join]
    | cons next others => simp [join_cons_cons, ih]

/-- Joined lines are cut into the same lines, provided there are any and none holds a newline. -/
theorem split_join {lines : List Line} (some_line : lines ≠ []) (whole : ∀ line ∈ lines, '\n' ∉ line) :
    split (join lines) = lines := by
  rw [split_eq_splitOn, join_eq_intercalate]
  exact List.splitOn_intercalate '\n' whole some_line

/-- Lines without a newline are not cut any further. -/
theorem flatMap_split {lines : List Line} (whole : ∀ line ∈ lines, '\n' ∉ line) : lines.flatMap split = lines := by
  induction lines with
  | nil => rfl
  | cons line rest ih =>
    rw [List.forall_mem_cons] at whole
    have single : split line = [line] := split_join (List.cons_ne_nil line []) (by simpa using whole.1)
    rw [List.flatMap_cons, single, ih whole.2]
    rfl

/-- Indentation is hung onto a text part by part. -/
theorem hang_append (leading : Line) (first second : List Char) :
    hang leading (first ++ second) = hang leading first ++ hang leading second := List.flatMap_append

/-- Behind a newline the indentation is hung on. -/
theorem hang_newline_cons (leading : Line) (text : List Char) :
    hang leading ('\n' :: text) = '\n' :: (leading ++ hang leading text) := by
  simp [hang]

/-- A single line has nothing that indentation could be hung onto. -/
theorem hang_of_newline_not_mem {leading text : List Char} (whole : '\n' ∉ text) : hang leading text = text := by
  induction text with
  | nil => rfl
  | cons c rest ih =>
    simp only [List.mem_cons, not_or] at whole
    rw [hang, List.flatMap_cons, if_neg (Ne.symm whole.1)]
    exact congrArg (c :: ·) (ih whole.2)

/-- Hanging joined lines writes the indentation before each line but the first. -/
theorem append_hang_join {leading : Line} {lines : List Line} (some_line : lines ≠ [])
    (whole : ∀ line ∈ lines, '\n' ∉ line) :
    leading ++ hang leading (join lines) = join (lines.map (leading ++ ·)) := by
  induction lines with
  | nil => exact absurd rfl some_line
  | cons line rest ih =>
    rw [List.forall_mem_cons] at whole
    cases rest with
    | nil => simp [join, hang_of_newline_not_mem whole.1]
    | cons next others =>
      have onward := ih (List.cons_ne_nil _ _) whole.2
      calc leading ++ hang leading (join (line :: next :: others))
          = leading ++ (line ++ '\n' :: (leading ++ hang leading (join (next :: others)))) := by
            rw [join_cons_cons, hang_append, hang_of_newline_not_mem whole.1, hang_newline_cons]
        _ = (leading ++ line) ++ '\n' :: join ((next :: others).map (leading ++ ·)) := by
            rw [onward, List.append_assoc]
        _ = join ((line :: next :: others).map (leading ++ ·)) := rfl

/-- A line in two parts is blank if both parts are. -/
theorem blank_append (first second : Line) : blank (first ++ second) = (blank first && blank second) := List.all_append

/-- Joined lines are blank if each of them is. -/
theorem blank_join (lines : List Line) : blank (join lines) = lines.all blank := by
  induction lines with
  | nil => rfl
  | cons line rest ih =>
    cases rest with
    | nil => simp [join]
    | cons next others =>
      rw [join_cons_cons, blank_append, List.all_cons, ← ih]
      simp [blank, isBlank_newline]

/-- Only a blank line is trimmed to nothing. -/
theorem trimEnd_eq_nil_iff {line : Line} : trimEnd line = [] ↔ blank line = true := by
  rw [trimEnd, dropEndWhile_eq_rdropWhile, List.rdropWhile_eq_nil_iff, blank, List.all_eq_true]

/-- A trimmed line has nothing more to trim. -/
theorem trimEnd_trimEnd (line : Line) : trimEnd (trimEnd line) = trimEnd line := List.rdropWhile_idempotent _ _

/-- A trimmed line is blank exactly if the line is. -/
theorem blank_trimEnd (line : Line) : blank (trimEnd line) = blank line := by
  rw [Bool.eq_iff_iff, ← trimEnd_eq_nil_iff, trimEnd_trimEnd, trimEnd_eq_nil_iff]

/-- Trimming a text whose end is not blank leaves what stands before that end. -/
theorem trimEnd_append {first second : Line} (visible : blank second = false) :
    trimEnd (first ++ second) = first ++ trimEnd second := by
  have stays : (second.reverse.dropWhile isBlank).isEmpty = false := by
    rw [List.isEmpty_eq_false_iff, ne_eq, ← List.reverse_eq_nil_iff]
    intro empty
    rw [trimEnd_eq_nil_iff.mp empty] at visible
    cases visible
  rw [trimEnd, dropEndWhile, List.reverse_append, List.dropWhile_append, stays]
  simp [trimEnd, dropEndWhile]

/-- Dropping from the end depends only on what a test says of the items. -/
theorem dropEndWhile_congr {α : Type} {test other : α → Bool} {items : List α}
    (same : ∀ item ∈ items, test item = other item) : dropEndWhile test items = dropEndWhile other items := by
  induction items using List.reverseRecOn with
  | nil => rfl
  | append_singleton before last ih =>
    rw [dropEndWhile_concat, dropEndWhile_concat, same last (by simp)]
    rw [ih fun item mem => same item (List.mem_append_left _ mem)]

/-- What is left when the end has been dropped ends with an item that fails the test. -/
theorem test_getLast?_dropEndWhile {α : Type} {test : α → Bool} {items : List α} :
    ∀ last ∈ (dropEndWhile test items).getLast?, test last = false := by
  intro last found
  obtain ⟨nonempty, rfl⟩ := List.mem_getLast?_eq_getLast found
  exact Bool.not_eq_true _ ▸ List.rdropWhile_last_not test items nonempty

/-- A trimmed single line is a single line. -/
theorem newline_not_mem_trimEnd {line : Line} (whole : '\n' ∉ line) : '\n' ∉ trimEnd line :=
  fun mem => whole ((List.rdropWhile_prefix isBlank line).subset mem)

/-- Whether a line is one line without blanks at its end. -/
structure Tidy (line : Line) : Prop where
  whole : '\n' ∉ line
  trimmed : trimEnd line = line

/-- A line without blanks at its end is blank only if it is empty. -/
theorem Tidy.isEmpty {line : Line} (tidy : Tidy line) : line.isEmpty = blank line := by
  rw [Bool.eq_iff_iff, List.isEmpty_iff, ← trimEnd_eq_nil_iff, tidy.trimmed]

end Cratewright.Text
