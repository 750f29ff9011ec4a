import Cratewright.Text.Blank

/-!
# Texts and their lines

`split` cuts a text at its newlines and `join` puts the newlines back. `terminated` writes a newline after every line,
which is the form of a source file.
-/

namespace Cratewright.Text

/-- The pieces of a text between its newlines; a text without one is a single piece. -/
def split : List Char → List Line
  | [] => [[]]
  | c :: rest =>
    if c = '\n' then [] :: split rest
    else match split rest with
      | [] => [[c]]
      | line :: lines => (c :: line) :: lines

/-- Lines with a newline between any two of them. -/
def join : List Line → List Char
  | [] => []
  | [line] => line
  | line :: lines => line ++ '\n' :: join lines

/-- Lines with a newline after each. -/
def terminated (lines : List Line) : List Char := lines.flatMap (· ++ ['\n'])

/-- Writes `leading` at the start of every line but the first. -/
def hang (leading : Line) (text : List Char) : List Char :=
  text.flatMap fun c => if c = '\n' then '\n' :: leading else [c]

/-- A text has at least one line. -/
theorem split_ne_nil (text : List Char) : split text ≠ [] := by
  cases text with
  | nil => simp [split]
  | cons c rest =>
    rw [split]
    split
    · simp
    · split <;> simp

/-- No piece holds a newline. -/
theorem newline_not_mem_of_mem_split {text : List Char} {line : Line} (mem : line ∈ split text) :
    '\n' ∉ line := by
  induction text generalizing line with
  | nil => simp_all [split]
  | cons c rest ih =>
    rw [split] at mem
    split at mem
    · rcases List.mem_cons.mp mem with rfl | mem
      · simp
      · exact ih mem
    · rename_i ordinary
      cases pieces : split rest with
      | nil => exact absurd pieces (split_ne_nil rest)
      | cons first others =>
        rw [pieces] at mem ih
        rcases List.mem_cons.mp mem with rfl | mem
        · intro found
          rcases List.mem_cons.mp found with same | found
          · exact ordinary same.symm
          · exact ih List.mem_cons_self found
        · exact ih (List.mem_cons_of_mem _ mem)

/-- Cutting a text at its newlines loses nothing. -/
theorem join_split (text : List Char) : join (split text) = text := by
  induction text with
  | nil => rfl
  | cons c rest ih =>
    rw [split]
    cases pieces : split rest with
    | nil => exact absurd pieces (split_ne_nil rest)
    | cons first others =>
      rw [pieces] at ih
      by_cases newline : c = '\n'
      · simp [newline, join, ih]
      · cases others with
        | nil => simp_all [join]
        | cons second others => simp_all [join]

@[simp] theorem terminated_nil : terminated [] = [] := rfl

/-- Lines that are terminated in two parts are terminated together. -/
theorem terminated_append (before after : List Line) :
    terminated (before ++ after) = terminated before ++ terminated after := by
  simp [terminated]

end Cratewright.Text
