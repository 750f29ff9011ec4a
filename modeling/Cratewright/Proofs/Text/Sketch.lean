import Cratewright.Proofs.Writer.Layout

/-!
# Texts with gaps

A sketch is a text with gaps in it, and filling it puts the same text, a stem, into every gap. If the stem is one line
that is not blank and has no blank at its end, then cutting into lines, trimming, hanging and laying out treat a gap
like one more character that is not blank: doing so before filling is the same as doing so afterwards. Main statement:
a filled sketch is its fragments with the stem between any two of them.
-/

namespace Cratewright.Text

/-- A text with gaps, which are the places without a character. -/
abbrev Sketch := List (Option Char)

/-- Whether a text is one line that is not empty and has no blanks at its end. -/
structure Firm (stem : Line) : Prop extends Tidy stem where
  nonempty : stem ≠ []

/-- What stands for the prefix shows. -/
theorem Firm.visible {stem : Line} (firm : Firm stem) : Text.blank stem = false := by
  rw [← firm.isEmpty, List.isEmpty_eq_false_iff]
  exact firm.nonempty

/-- A line in front of a text lengthens the first line of the text. -/
theorem split_append {first : Line} (whole : '\n' ∉ first) (rest : List Char) :
    Text.split (first ++ rest) = (Text.split rest).modifyHead (first ++ ·) := by
  induction first with
  | nil => cases pieces : Text.split rest <;> simp [pieces]
  | cons c first ih =>
    rw [List.mem_cons, not_or] at whole
    rw [List.cons_append, Text.split, if_neg (Ne.symm whole.1), ih whole.2]
    cases pieces : Text.split rest with
    | nil => exact absurd pieces (split_ne_nil rest)
    | cons line lines => rfl

/-- Items can be changed before or after the end is dropped, if the test takes the change into account. -/
theorem dropEndWhile_map {α β : Type} (test : β → Bool) (change : α → β) (items : List α) :
    dropEndWhile test (items.map change) = (dropEndWhile (test ∘ change) items).map change := by
  rw [dropEndWhile, dropEndWhile, ← List.map_reverse, List.dropWhile_map, ← List.map_reverse]

namespace Sketch

/-- A text without gaps. -/
def literal (text : List Char) : Sketch := text.map some

/-- What a stem makes of one place. -/
def fillAt (stem : Line) : Option Char → List Char
  | none => stem
  | some c => [c]

/-- The text with a stem in every gap. -/
def fill (stem : Line) (sketch : Sketch) : List Char := sketch.flatMap (fillAt stem)

/-- Whether a place counts as blank, which a gap does not. -/
def isBlank : Option Char → Bool
  | none => false
  | some c => Text.isBlank c

/-- Whether all of a sketch is blank. -/
def blank (sketch : Sketch) : Bool := sketch.all isBlank

/-- The sketch without the blanks at its end. -/
def trimEnd (sketch : Sketch) : Sketch := dropEndWhile isBlank sketch

/-- The pieces of a sketch between its newlines. -/
def split (sketch : Sketch) : List Sketch := sketch.splitOn (some '\n')

/-- Sketches with a newline between any two of them. -/
def join (lines : List Sketch) : Sketch := [some '\n'].intercalate lines

/-- Writes `leading` at the start of every line but the first. -/
def hang (leading : Line) (sketch : Sketch) : Sketch :=
  sketch.flatMap fun place => if place = some '\n' then some '\n' :: literal leading else [place]

/-- A sketch of a line as it reaches a module. -/
def layOut (level : Nat) (line : Sketch) : Sketch :=
  if line.blank then [] else literal (Writer.indentAt level) ++ line.trimEnd

variable {stem : Line}

@[simp] theorem fill_nil : fill stem [] = [] := rfl

@[simp] theorem fill_cons (place : Option Char) (rest : Sketch) :
    fill stem (place :: rest) = fillAt stem place ++ fill stem rest := rfl

@[simp] theorem fill_append (first second : Sketch) :
    fill stem (first ++ second) = fill stem first ++ fill stem second := List.flatMap_append

@[simp] theorem fill_literal (text : List Char) : fill stem (literal text) = text := by
  induction text with
  | nil => rfl
  | cons c rest ih =>
    rw [literal, List.map_cons, fill_cons]
    exact congrArg (c :: ·) ih

/-- Joined sketches are filled one by one. -/
theorem fill_join (lines : List Sketch) : fill stem (join lines) = Text.join (lines.map (fill stem)) := by
  rw [join_eq_intercalate]
  induction lines with
  | nil => rfl
  | cons line rest ih =>
    cases rest with
    | nil => simp [join]
    | cons next others =>
      rw [join, List.intercalate_cons_cons, fill_append, fill_append, ← join, ih]
      simp only [List.map_cons, List.intercalate_cons_cons]
      rfl

section

variable (firm : Firm stem)

include firm

/-- A filled place is blank exactly if it holds a blank character, since a gap shows. -/
theorem blank_fillAt (place : Option Char) : Text.blank (fillAt stem place) = isBlank place := by
  cases place with
  | none => exact firm.visible
  | some c => simp [fillAt, isBlank, Text.blank]

/-- A filled sketch is blank exactly if the sketch is. -/
theorem blank_fill (sketch : Sketch) : Text.blank (fill stem sketch) = sketch.blank := by
  induction sketch with
  | nil => rfl
  | cons place rest ih =>
    rw [fill_cons, blank_append, blank_fillAt firm, ih]
    rfl

/-- A filled sketch is empty exactly if the sketch is. -/
theorem isEmpty_fill (sketch : Sketch) : (fill stem sketch).isEmpty = sketch.isEmpty := by
  match sketch with
  | [] => rfl
  | none :: rest => simp [fillAt, firm.nonempty]
  | some c :: rest => rfl

/-- A sketch can be trimmed before or after it is filled. -/
theorem trimEnd_fill (sketch : Sketch) : Text.trimEnd (fill stem sketch) = fill stem sketch.trimEnd := by
  induction sketch using List.reverseRecOn with
  | nil => rfl
  | append_singleton before last ih =>
    have text : fill stem (before ++ [last]) = fill stem before ++ fillAt stem last := by simp
    rw [trimEnd, dropEndWhile_concat, text]
    cases last with
    | none =>
      rw [if_neg (by simp [isBlank]), text]
      exact (trimEnd_append firm.visible).trans (congrArg (fill stem before ++ ·) firm.trimmed)
    | some c =>
      have step : Text.trimEnd (fill stem before ++ [c]) = _ := dropEndWhile_concat Text.isBlank _ c
      rw [fillAt, step]
      by_cases blank : Text.isBlank c
      · rw [if_pos blank, if_pos (show isBlank (some c) = true from blank)]
        exact ih
      · rw [if_neg blank, if_neg (show ¬isBlank (some c) = true from blank), text]
        rfl

/-- A sketch can be cut into lines before or after it is filled. -/
theorem split_fill (sketch : Sketch) : Text.split (fill stem sketch) = sketch.split.map (fill stem) := by
  induction sketch with
  | nil => rfl
  | cons place rest ih =>
    rw [split, List.splitOn_cons_eq_if_modifyHead, ← split, fill_cons]
    by_cases newline : place = some '\n'
    · subst newline
      simp [fillAt, Text.split, ih]
    · have whole : '\n' ∉ fillAt stem place := by
        cases place with
        | none => exact firm.whole
        | some c => simpa [fillAt, eq_comm] using newline
      rw [split_append whole, ih, if_neg (by simpa using newline)]
      cases split rest <;> simp

/-- Indentation can be hung onto a sketch before or after it is filled. -/
theorem hang_fill (leading : Line) (sketch : Sketch) :
    Text.hang leading (fill stem sketch) = fill stem (sketch.hang leading) := by
  induction sketch with
  | nil => rfl
  | cons place rest ih =>
    have onward : hang leading (place :: rest) =
        (if place = some '\n' then some '\n' :: literal leading else [place]) ++ hang leading rest := rfl
    rw [fill_cons, hang_append, ih, onward, fill_append]
    congr 1
    cases place with
    | none =>
      rw [fillAt, hang_of_newline_not_mem firm.whole]
      simp [fillAt]
    | some c =>
      by_cases newline : c = '\n' <;> simp [fillAt, Text.hang, newline]

/-- A sketch can be laid out at a level before or after it is filled. -/
theorem layOut_fill (level : Nat) (line : Sketch) :
    Writer.layOut level (fill stem line) = fill stem (line.layOut level) := by
  rw [Writer.layOut, layOut, blank_fill firm, trimEnd_fill firm]
  split <;> simp

/-- Empty lines at the end are those that the sketch has there. -/
theorem dropEndWhile_isEmpty_fill (lines : List Sketch) :
    dropEndWhile List.isEmpty (lines.map (fill stem)) = (dropEndWhile List.isEmpty lines).map (fill stem) := by
  rw [dropEndWhile_map]
  congr 1
  exact dropEndWhile_congr fun line _ => isEmpty_fill firm line

end

/-- What stands between the gaps of a sketch, where each gap is followed by an ending of its own. -/
def fragments (ending : List Char) : Sketch → List (List Char)
  | [] => [[]]
  | none :: rest => [] :: (fragments ending rest).modifyHead (ending ++ ·)
  | some c :: rest => (fragments ending rest).modifyHead (c :: ·)

/-- A sketch has at least the fragment that ends it. -/
theorem fragments_ne_nil (ending : List Char) (sketch : Sketch) : sketch.fragments ending ≠ [] := by
  match sketch with
  | [] => simp [fragments]
  | none :: rest => simp [fragments]
  | some c :: rest => simpa [fragments] using fragments_ne_nil ending rest

/-- What is put before the first of some lines stands before all of them. -/
theorem intercalate_modifyHead (separator before : List Char) {lines : List (List Char)} (listed : lines ≠ []) :
    separator.intercalate (lines.modifyHead (before ++ ·)) = before ++ separator.intercalate lines := by
  match lines with
  | [line] => simp
  | line :: next :: others => simp [List.intercalate_cons_cons]

/-- A sketch filled with a stem and the ending is its fragments with the stem between them. -/
theorem fill_append_eq_intercalate (stem ending : List Char) (sketch : Sketch) :
    fill (stem ++ ending) sketch = stem.intercalate (sketch.fragments ending) := by
  induction sketch with
  | nil => simp [fragments]
  | cons place rest ih =>
    have listed := fragments_ne_nil ending rest
    rw [fill_cons, ih]
    cases place with
    | none =>
      rw [fragments, fillAt, List.append_assoc, ← intercalate_modifyHead stem ending listed]
      cases pieces : (fragments ending rest).modifyHead (ending ++ ·) with
      | nil => simp [listed] at pieces
      | cons first others => simp [List.intercalate_cons_cons]
    | some c => exact (intercalate_modifyHead stem [c] listed).symm

end Sketch

end Cratewright.Text
