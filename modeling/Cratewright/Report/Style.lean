/-!
# Coloured text

Text for a terminal is made of pieces, each in one tint or in none. A tinted piece is written between the sequence
that sets the tint and the one that takes it back.
-/

namespace Cratewright.Report

/-- What a tint stands for. -/
inductive Tint
  /-- The place reported, and the kind of the report. -/
  | alarm
  /-- The frame around the source. -/
  | frame
  /-- The source. -/
  | source
  /-- The frame beside lines that are no source. -/
  | gap
deriving DecidableEq, Repr

/-- The parameters of the sequence that sets a tint. -/
def Tint.parameters : Tint → String
  | .alarm => "31"
  | .frame => "38;5;246"
  | .source => "38;5;249"
  | .gap => "38;5;240"

/-- A piece of text in one tint. -/
structure Piece where
  text : String
  tint : Option Tint := none
deriving DecidableEq, Repr

namespace Piece

/-- A piece without a tint. -/
def plain (text : String) : Piece := { text }

/-- A character in a tint. -/
def char (tint : Tint) (c : Char) : Piece := ⟨String.singleton c, some tint⟩

/-- A space without a tint. -/
def space : Piece := plain " "

/-- A piece as it is sent to a terminal. -/
def write (piece : Piece) : String :=
  match piece.tint with
  | none => piece.text
  | some tint => "\x1b[" ++ tint.parameters ++ "m" ++ piece.text ++ "\x1b[0m"

end Piece

/-- A line of pieces, with its newline. -/
def writeLine (pieces : List Piece) : String := String.join (pieces.map Piece.write) ++ "\n"

end Cratewright.Report
