import Cratewright.Error
import Cratewright.Text.Blank

/-!
# Segments of a template line

A template line is literal text with placeholders: `#T` takes the next positional argument, `#{name}` a named one, and
`##` stands for a single `#`. The longest of these wins, and any other `#` is literal, so attributes need no escape.
Main statement: spelling the segments of a line gives the line back.
-/

namespace Cratewright.Template

open Text (Line)

/-- A part of a template line. -/
inductive Segment
  | literal (text : Line)
  | hash
  | positional
  | named (name : Line)
deriving DecidableEq, Repr

/-- The text a segment is written as in a template. -/
def Segment.spelling : Segment → Line
  | .literal text => text
  | .hash => ['#', '#']
  | .positional => ['#', 'T']
  | .named name => '#' :: '\x7b' :: name ++ ['\x7d']

/-- The name up to a closing brace and what follows the brace; nothing if there is no closing brace. -/
def closing? : Line → Option (Line × Line)
  | [] => none
  | c :: rest =>
    if c = '\x7d' then some ([], rest)
    else (closing? rest).map fun (name, after) => (c :: name, after)

/-- A name ends at the first closing brace. -/
theorem eq_of_closing? {line name after : Line} (found : closing? line = some (name, after)) :
    line = name ++ '\x7d' :: after ∧ '\x7d' ∉ name := by
  induction line generalizing name with
  | nil => simp [closing?] at found
  | cons c rest ih =>
    rw [closing?] at found
    split at found
    · simp_all
    · rename_i other
      obtain ⟨⟨inner, tail⟩, foundInner, parts⟩ := Option.map_eq_some_iff.mp found
      simp only [Prod.mk.injEq] at parts
      obtain ⟨rfl, rfl⟩ := parts
      obtain ⟨rfl, absent⟩ := ih foundInner
      simp_all [eq_comm]

/-- What follows a closing brace is shorter than the whole. -/
theorem length_lt_of_closing? {line name after : Line} (found : closing? line = some (name, after)) :
    after.length < line.length := by
  rw [(eq_of_closing? found).1]
  simp
  omega

/-- Cuts a line into segments from left to right; `whole` is the line that a fault reports. -/
def scan (whole : String) (line : Line) : Except TemplateFault (List Segment) :=
  match line with
  | [] => .ok []
  | '#' :: '#' :: rest => do
    return .hash :: (← scan whole rest)
  | '#' :: 'T' :: rest => do
    return .positional :: (← scan whole rest)
  | '#' :: '\x7b' :: rest =>
    match _found : closing? rest with
    | none => .error (.unterminatedPlaceholder whole)
    | some ([], _) => .error (.emptyPlaceholder whole)
    | some (first :: name, after) => do
      return .named (first :: name) :: (← scan whole after)
  | '#' :: rest => do
    return .literal ['#'] :: (← scan whole rest)
  | c :: rest => do
    return .literal (c :: rest.takeWhile (· ≠ '#')) :: (← scan whole (rest.dropWhile (· ≠ '#')))
termination_by line.length
decreasing_by
  all_goals simp only [List.length_cons]
  · omega
  · omega
  · have := length_lt_of_closing? ‹_›
    omega
  · omega
  · have := (List.dropWhile_sublist (l := rest) (· ≠ '#')).length_le
    omega

/-- The segments of a line. -/
def segments (line : Line) : Except TemplateFault (List Segment) := scan (String.ofList line) line

end Cratewright.Template
