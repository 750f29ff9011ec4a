import Cratewright.Report.Source
import Cratewright.Report.Style
import Cratewright.Text.Position

/-!
# Reports on a place in a source

A report names what went wrong, shows the lines of the source around the place, and puts a message below it. A place
on one line is underlined and the message hangs on its middle; a place of several lines is held by a bracket in the
margin, and lines between the first and the last are left out. A place that reaches past the end of the source has no
end to be marked, and so its message is not written. If the source has no such place, only the heading is written.
-/

namespace Cratewright

open Text (Span)

/-- A report; the span counts characters. -/
structure Report where
  heading : String
  fileName : String
  source : String
  span : Span
  message : String

namespace Report

/-- The lines that a place begins and ends on. -/
structure Extent where
  first : SourceLine
  last : SourceLine

/-- Where the place of a report lies in its source. -/
def extent? (report : Report) : Option Extent := do
  return ⟨← lineAt? report.source report.span.start, ← lineAt? report.source report.span.last⟩

/-- Whether the source ends before the place does. -/
def passesEnd (report : Report) : Bool := report.source.length < report.span.stop

/-- The number of digits of the greatest line number. -/
def Extent.numberWidth (extent : Extent) : Nat := (toString extent.last.number).length

/-- Spaces in front of the frame. -/
def beside (width : Nat) : Piece := .plain ("".pushn ' ' (width + 2))

/-- The margin of a line of source. -/
def numberMargin (width : Nat) (line : SourceLine) : List Piece :=
  let number := toString line.number
  [.space, ⟨"".pushn ' ' (width - number.length) ++ number ++ " │", some .frame⟩, .space]

/-- The margin of a line that is no source, with its bar. -/
def gapMargin (width : Nat) (bar : Char) : List Piece :=
  [.space, ⟨("".pushn ' ' (width + 1)).push bar, some .gap⟩, .space]

/-- A character drawn in the tint of the place. -/
def alarm (c : Char) : Piece := .char .alarm c

/-- The characters of a line, those of the place in its tint. -/
def content (report : Report) (line : SourceLine) : List Piece :=
  line.shown.zipIdx.flatMap fun (c, index) =>
    let tint := if report.span.contains (line.offset + index) then Tint.alarm else .source
    let (shown, columns) := Text.drawn index c
    if Text.isBlank shown then List.replicate columns (.char tint shown) else [.char tint shown]

/-- Draws a mark below each of the first characters of a line. A mark has a first piece and one that fills the other
columns of a wide character. -/
def below (line : SourceLine) (count : Nat) (mark : Nat → Piece × Piece) : List Piece :=
  (line.columnsUpTo count).zipIdx.flatMap fun (columns, index) =>
    let (first, filling) := mark index
    (first :: List.replicate (columns - 1) filling).take columns

/-- The spaces between the place and its message. -/
def arrowSpace : Nat := 2

/-- A place on one line: the line, its underline, and the message. Of a place without an end nothing is shown. -/
def onLine (report : Report) (line : SourceLine) : List (List Piece) :=
  let width := (toString line.number).length
  let span := report.span
  let middle := max span.start ((span.start + span.stop) / 2) - line.offset
  let count := span.stop - line.offset + arrowSpace
  let underline := below line count fun index =>
    if span.contains (line.offset + index) then
      (alarm (if index = middle then '┬' else '─'), alarm '─')
    else if index = middle then (alarm '│', alarm ' ')
    else (.space, .space)
  let arrow := below line count fun index =>
    if index = middle then (alarm '╰', alarm '─')
    else if middle < index then (alarm '─', alarm '─')
    else (.space, .space)
  if report.passesEnd then [gapMargin width '│']
  else
    [ numberMargin width line ++ report.content line,
      gapMargin width '│' ++ underline,
      gapMargin width '│' ++ arrow ++ [.plain (" " ++ report.message)] ]

/-- A place of several lines: its first line, a sign for the lines left out, its last line, and the message. Of a place
without an end all lines behind the first are left out. -/
def overLines (report : Report) (extent : Extent) : List (List Piece) :=
  let width := extent.numberWidth
  let bracket (corner : Char) : List Piece := [alarm corner, alarm '─', alarm '▶', alarm ' ']
  let count := extent.last.chars.length + arrowSpace
  let leftOut :=
    if report.passesEnd || extent.first.number + 1 < extent.last.number then
      [gapMargin width '┆' ++ [alarm '┆', .space, .space, .space]]
    else []
  let closing :=
    if report.passesEnd then []
    else
      [ numberMargin width extent.last ++ bracket '├' ++ report.content extent.last,
        gapMargin width '│' ++ [alarm '│', .space, .space, .space] ++
          below extent.last count (fun _ => (.space, .space)),
        gapMargin width '│' ++ [alarm '╰', alarm '─', alarm '─', alarm '─'] ++
          below extent.last count (fun _ => (alarm '─', alarm '─')) ++ [.plain (" " ++ report.message)] ]
  [numberMargin width extent.first ++ bracket '╭' ++ report.content extent.first] ++ leftOut ++ closing

/-- The frame above the source, with the place in numbers. -/
def top (report : Report) (extent : Extent) : List (List Piece) :=
  let frame (c : Char) : Piece := .char .frame c
  let column := report.span.start - extent.first.offset + 1
  let place := report.fileName ++ ":" ++ toString extent.first.number ++ ":" ++ toString column
  [ [beside extent.numberWidth, frame '╭', frame '─', frame '[', .plain place, frame ']'],
    [beside extent.numberWidth, frame '│'] ]

/-- The frame below the source. -/
def bottom (extent : Extent) : List Piece :=
  [⟨("".pushn '─' (extent.numberWidth + 2)).push '╯', some .frame⟩]

/-- The lines of a report. -/
def lines (report : Report) : List (List Piece) :=
  let heading := [⟨"Error:", some .alarm⟩, .plain (" " ++ report.heading)]
  match report.extent? with
  | none => [heading]
  | some extent =>
    let place :=
      if extent.first.index = extent.last.index then report.onLine extent.first else report.overLines extent
    [heading] ++ report.top extent ++ place ++ [bottom extent]

/-- A report as it is sent to a terminal. -/
def render (report : Report) : String := String.join (report.lines.map writeLine)

end Report

end Cratewright
