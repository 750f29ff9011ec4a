import Cratewright.Text.CaseTable

/-!
# Letter case

Capital and small letters are those with the Unicode properties `Uppercase` and `Lowercase`, and `lowered` is the
lower-case form of one capital by itself, so a capital sigma never takes its final form.
-/

namespace Cratewright.Text

/-- Whether a character has the property `Uppercase`. -/
def isUpper (c : Char) : Bool :=
  if c.toNat < 0x80 then c.isUpper else CaseTable.uppercase.any (CaseTable.onRun c.toNat)

/-- Whether a character has the property `Lowercase`. -/
def isLower (c : Char) : Bool :=
  if c.toNat < 0x80 then c.isLower else CaseTable.lowercase.any (CaseTable.onRun c.toNat)

/-- The distance from a capital beyond ASCII to its lower-case form, zero if it has none. -/
def loweringDistance (code : Nat) : Int :=
  match CaseTable.lowering.find? fun (first, last, step, _) => CaseTable.onRun code (first, last, step) with
  | some (_, _, _, distance) => distance
  | none => 0

/-- The lower-case form of a capital; a dotted capital I becomes a small i and a combining dot. -/
def lowered (c : Char) : List Char :=
  if c.toNat < 0x80 then [c.toLower]
  else if c = 'İ' then ['i', '\u0307']
  else [Char.ofNat ((c.toNat : Int) + loweringDistance c.toNat).toNat]

/-- In ASCII the capitals are the letters from A to Z. -/
theorem isUpper_ascii {c : Char} (ascii : c.toNat < 0x80) : isUpper c = c.isUpper := by
  simp [isUpper, ascii]

/-- In ASCII the small letters are those from a to z. -/
theorem isLower_ascii {c : Char} (ascii : c.toNat < 0x80) : isLower c = c.isLower := by
  simp [isLower, ascii]

/-- A character of ASCII in lower case is the one that the core library gives. -/
theorem lowered_ascii {c : Char} (ascii : c.toNat < 0x80) : lowered c = [c.toLower] := by
  simp [lowered, ascii]

end Cratewright.Text
