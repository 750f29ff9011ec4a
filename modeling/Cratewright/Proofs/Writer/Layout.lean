import Cratewright.Writer
import Cratewright.Proofs.Text.Lines

/-!
# Laid out lines

A line that has been laid out may be laid out again behind further indentation, as happens when the text of one writer
is filled into another. `layOut_layOut` says that the levels add up, so that no level is lost on the way and a blank
line stays empty.
-/

namespace Cratewright.Writer

open Text (Line blank trimEnd)

@[simp] theorem indentAt_zero : indentAt 0 = [] := rfl

/-- One level is indented by the indentation. -/
theorem indentAt_one : indentAt 1 = indent := rfl

/-- Levels that are added indent one after another. -/
theorem indentAt_add (level further : Nat) : indentAt (level + further) = indentAt level ++ indentAt further := by
  rw [indentAt, List.replicate_add, List.flatten_append]
  rfl

/-- Indentation is blank. -/
theorem blank_indentAt (level : Nat) : blank (indentAt level) = true := by
  rw [blank, List.all_eq_true, indentAt]
  intro c mem
  obtain ⟨part, mem, found⟩ := List.mem_flatten.mp mem
  rw [List.eq_of_mem_replicate mem] at found
  have space : c = ' ' := by simpa [indent] using found
  rw [space]
  decide

/-- Indentation has no newline. -/
theorem newline_not_mem_indentAt (level : Nat) : '\n' ∉ indentAt level := by
  rw [indentAt]
  intro mem
  obtain ⟨part, mem, found⟩ := List.mem_flatten.mp mem
  rw [List.eq_of_mem_replicate mem] at found
  simp [indent] at found

variable {level : Nat} {line : Line}

/-- A blank line is laid out as an empty one. -/
theorem layOut_of_blank (empty : blank line = true) : layOut level line = [] := if_pos empty

/-- A line that shows is laid out behind its indentation, without the blanks at its end. -/
theorem layOut_of_not_blank (visible : blank line = false) : layOut level line = indentAt level ++ trimEnd line :=
  if_neg (by simp [visible])

/-- A line is blank exactly if it is blank when it is laid out. -/
theorem blank_layOut (level : Nat) (line : Line) : blank (layOut level line) = blank line := by
  cases kind : blank line with
  | true =>
    rw [layOut_of_blank kind]
    rfl
  | false => rw [layOut_of_not_blank kind, Text.blank_append, blank_indentAt, Text.blank_trimEnd, kind, Bool.and_false]

/-- What has been laid out is one line without blanks at its end. -/
theorem tidy_layOut (whole : '\n' ∉ line) : Text.Tidy (layOut level line) := by
  cases kind : blank line with
  | true =>
    rw [layOut_of_blank kind]
    exact ⟨List.not_mem_nil, rfl⟩
  | false =>
    have visible : blank (trimEnd line) = false := by rw [Text.blank_trimEnd, kind]
    rw [layOut_of_not_blank kind]
    refine ⟨?_, by rw [Text.trimEnd_append visible, Text.trimEnd_trimEnd]⟩
    rw [List.mem_append, not_or]
    exact ⟨newline_not_mem_indentAt level, Text.newline_not_mem_trimEnd whole⟩

/-- Laying out behind the indentation of some levels raises the level by them. -/
theorem layOut_indentAt_append (level further : Nat) (line : Line) :
    layOut level (indentAt further ++ line) = layOut (level + further) line := by
  have kind : blank (indentAt further ++ line) = blank line := by
    rw [Text.blank_append, blank_indentAt, Bool.true_and]
  cases visible : blank line with
  | true => rw [layOut_of_blank (kind.trans visible), layOut_of_blank visible]
  | false =>
    rw [layOut_of_not_blank (kind.trans visible), layOut_of_not_blank visible, Text.trimEnd_append visible,
      indentAt_add, List.append_assoc]

/-- A line may be trimmed before it is laid out. -/
theorem layOut_trimEnd (level : Nat) (line : Line) : layOut level (trimEnd line) = layOut level line := by
  rw [layOut, layOut, Text.blank_trimEnd, Text.trimEnd_trimEnd]

/-- Laying out twice adds the levels. -/
theorem layOut_layOut (level height : Nat) (line : Line) :
    layOut level (layOut height line) = layOut (level + height) line := by
  cases visible : blank line with
  | true =>
    rw [layOut_of_blank visible, layOut_of_blank visible]
    rfl
  | false => rw [layOut_of_not_blank visible, layOut_indentAt_append, layOut_trimEnd]

/-- At the left margin a line loses the blanks at its end and nothing else. -/
theorem layOut_zero (line : Line) : layOut 0 line = trimEnd line := by
  cases visible : blank line with
  | true => rw [layOut_of_blank visible, Text.trimEnd_eq_nil_iff.mpr visible]
  | false => rw [layOut_of_not_blank visible, indentAt_zero, List.nil_append]

end Cratewright.Writer
