import Cratewright.Configuration.Error
import Mathlib.Algebra.Group.Nat.Defs

/-!
# Offsets of lines and columns

A place of a source is told by a line and a column, both counted from one, or by an offset. Main statement: the offset
of the line and column of a place is the offset of the place, and whatever the line and column are, their offset lies
in the source, so that the place of a JSON error does. Offsets are computed without a bound here. Computed with 64 bits
they are the same for every column up to `2 ^ 63`, and they lie in the source for every other one too. Where sums are
checked, a column so great that the sum exceeds 64 bits has no offset: a build with such checks panics there.
-/

namespace Cratewright

namespace Text

variable {source : List UInt8} {offset : Nat}

/-- The lines that are complete before an offset, and the bytes of its own line before it, make up the offset. -/
theorem linesSize_add_bytesIntoLine (inside : offset ≤ source.length) :
    linesSize (lineAt source offset - 1) source + bytesIntoLine source offset = offset := by
  have parts := linesSize_count_add_bytesIntoLine (source.take offset) (source.drop offset)
  rw [List.take_append_drop, List.length_take_of_le inside] at parts
  rwa [lineAt, bytesIntoLine, Nat.add_sub_cancel_left]

/-- The line of an offset, and the column behind the bytes into that line, lead back to the offset. -/
theorem offsetOf_lineAt (inside : offset ≤ source.length) :
    offsetOf source ⟨lineAt source offset, 1 + bytesIntoLine source offset⟩ = offset := by
  have parts := linesSize_add_bytesIntoLine inside
  rw [offsetOf, Nat.add_sub_cancel_left, parts, Nat.min_eq_left inside]

/-- Lines are no longer than the text that they are the first lines of. -/
theorem linesSize_le (count : Nat) (source : List UInt8) : linesSize count source ≤ source.length := by
  induction source generalizing count with
  | nil => cases count <;> simp [linesSize]
  | cons byte rest ih =>
    cases count with
    | zero => simp
    | succ count =>
      have inner := ih (if byte = newline then count else count + 1)
      rw [linesSize, List.length_cons]
      omega

/-- The offset of a line and a column in numbers of 64 bits, whose sum starts again at zero if it is too great. -/
def offsetOf64 (source : List UInt8) (line column : UInt64) : UInt64 :=
  let reached := UInt64.ofNat (linesSize (line.toNat - 1) source) + UInt64.ofNat (column.toNat - 1)
  let length := UInt64.ofNat source.length
  if reached ≤ length then reached else length

/-- The offset of a line and a column in numbers of 64 bits where sums are checked: none if the sum is too great. -/
def checkedOffsetOf64 (source : List UInt8) (line column : UInt64) : Option UInt64 :=
  let start := UInt64.ofNat (linesSize (line.toNat - 1) source)
  let steps := UInt64.ofNat (column.toNat - 1)
  if start.toNat + steps.toNat < 2 ^ 64 then some (offsetOf64 source line column) else none

/-- With 64 bits the sum starts again at zero, and then it is cut at the length of the source. -/
theorem toNat_offsetOf64 (short : source.length < 2 ^ 64) (line column : UInt64) :
    (offsetOf64 source line column).toNat =
      min ((linesSize (line.toNat - 1) source + (column.toNat - 1)) % 2 ^ 64) source.length := by
  have length : (UInt64.ofNat source.length).toNat = source.length := by
    rw [UInt64.toNat_ofNat', Nat.mod_eq_of_lt short]
  rw [offsetOf64, ← UInt64.ofNat_add]
  split <;> rename_i order <;>
    rw [UInt64.le_iff_toNat_le, length, UInt64.toNat_ofNat'] at order
  · rw [UInt64.toNat_ofNat', Nat.min_eq_left order]
  · rw [length, Nat.min_eq_right (Nat.le_of_not_le order)]

/-- With 64 bits the offset lies in the source even if the sum has started again at zero. -/
theorem toNat_offsetOf64_le (short : source.length < 2 ^ 63) (line column : UInt64) :
    (offsetOf64 source line column).toNat ≤ source.length := by
  rw [toNat_offsetOf64 (by omega)]
  exact Nat.min_le_right _ _

/-- With 64 bits the offset is the true one if the column leaves room for the lines before it. -/
theorem toNat_offsetOf64_eq (short : source.length < 2 ^ 63) {line column : UInt64} (near : column.toNat ≤ 2 ^ 63) :
    (offsetOf64 source line column).toNat = offsetOf source ⟨line.toNat, column.toNat⟩ := by
  -- Neither the lines nor the column take more than half of the numbers, so the sum is not too great.
  have lines := linesSize_le (line.toNat - 1) source
  rw [toNat_offsetOf64 (by omega), Nat.mod_eq_of_lt (by omega)]
  rfl

/-- Where sums are checked, the offset is the one of 64 bits unless the lines and the column exceed them. -/
theorem checkedOffsetOf64_eq (short : source.length < 2 ^ 63) (line column : UInt64) :
    checkedOffsetOf64 source line column =
      if linesSize (line.toNat - 1) source + (column.toNat - 1) < 2 ^ 64 then some (offsetOf64 source line column)
      else none := by
  have lines := linesSize_le (line.toNat - 1) source
  have fits := column.toNat_lt
  rw [checkedOffsetOf64]
  simp only [UInt64.toNat_ofNat', Nat.mod_eq_of_lt (show linesSize (line.toNat - 1) source < 2 ^ 64 by omega),
    Nat.mod_eq_of_lt (show column.toNat - 1 < 2 ^ 64 by omega)]

/-- Where sums are checked, exactly the lines and columns whose sum exceeds 64 bits have no offset. -/
theorem checkedOffsetOf64_eq_none_iff (short : source.length < 2 ^ 63) {line column : UInt64} :
    checkedOffsetOf64 source line column = none ↔
      2 ^ 64 ≤ linesSize (line.toNat - 1) source + (column.toNat - 1) := by
  rw [checkedOffsetOf64_eq short]
  split <;> simp <;> omega

/-- Where sums are checked, every offset is the true one. -/
theorem toNat_of_checkedOffsetOf64 (short : source.length < 2 ^ 63) {line column offset : UInt64}
    (reached : checkedOffsetOf64 source line column = some offset) :
    offset.toNat = offsetOf source ⟨line.toNat, column.toNat⟩ := by
  rw [checkedOffsetOf64_eq short] at reached
  split at reached
  · rename_i fits
    cases reached
    rw [toNat_offsetOf64 (by omega), Nat.mod_eq_of_lt fits]
    rfl
  · cases reached

/-- Where sums are checked, every column up to `2 ^ 63` has an offset, which is that of 64 bits. -/
theorem checkedOffsetOf64_of_near (short : source.length < 2 ^ 63) {line column : UInt64}
    (near : column.toNat ≤ 2 ^ 63) :
    checkedOffsetOf64 source line column = some (offsetOf64 source line column) := by
  have lines := linesSize_le (line.toNat - 1) source
  rw [checkedOffsetOf64_eq short, if_pos (by omega)]

end Text

namespace Configuration.Error

open Text (bytes lineAt bytesIntoLine linesSize offsetOf offsetOf64 checkedOffsetOf64)

/-- The place of a JSON error lies in every source that it is reported for, whatever its position. -/
theorem span?_json_inside (source : String) (fault : JsonFault) (position : Option Text.Position) :
    ∃ span, (Error.json fault position).span? source = some span ∧
      span.start ≤ span.stop ∧ span.stop ≤ (bytes source).length := by
  have inside := Text.offsetOf_le (bytes source) (position.getD ⟨0, 0⟩)
  refine ⟨_, rfl, ?_, Nat.min_le_right _ _⟩
  dsimp only
  omega

/-- The line and the column of a place lead back to its offset. Whatever the line and the column are, their offset lies
in the source, and so does the place of a JSON error. This holds with 64 bits as well. Where sums are checked, a line
and a column have no offset exactly if their sum exceeds 64 bits, which takes a column above `2 ^ 63`, and else the true
one. -/
theorem offsetOf_places (source : String) :
    (∀ offset ≤ (bytes source).length,
      offsetOf (bytes source) ⟨lineAt (bytes source) offset, 1 + bytesIntoLine (bytes source) offset⟩ = offset) ∧
    (∀ position, offsetOf (bytes source) position ≤ (bytes source).length) ∧
    (∀ fault position, ∃ span, (Error.json fault position).span? source = some span ∧
      span.start ≤ span.stop ∧ span.stop ≤ (bytes source).length) ∧
    ((bytes source).length < 2 ^ 63 → ∀ line column : UInt64,
      (offsetOf64 (bytes source) line column).toNat ≤ (bytes source).length ∧
      (column.toNat ≤ 2 ^ 63 →
        (offsetOf64 (bytes source) line column).toNat = offsetOf (bytes source) ⟨line.toNat, column.toNat⟩ ∧
          checkedOffsetOf64 (bytes source) line column = some (offsetOf64 (bytes source) line column)) ∧
      (∀ offset, checkedOffsetOf64 (bytes source) line column = some offset →
        offset.toNat = offsetOf (bytes source) ⟨line.toNat, column.toNat⟩) ∧
      (checkedOffsetOf64 (bytes source) line column = none ↔
        2 ^ 64 ≤ linesSize (line.toNat - 1) (bytes source) + (column.toNat - 1))) := by
  refine ⟨fun offset inside => Text.offsetOf_lineAt inside, Text.offsetOf_le _, span?_json_inside source, ?_⟩
  intro short line column
  refine ⟨Text.toNat_offsetOf64_le short line column, fun near => ⟨Text.toNat_offsetOf64_eq short near, ?_⟩, ?_, ?_⟩
  · exact Text.checkedOffsetOf64_of_near short near
  · exact fun offset reached => Text.toNat_of_checkedOffsetOf64 short reached
  · exact Text.checkedOffsetOf64_eq_none_iff short

/-- A document with a line that is no member. -/
def strayLine : String := "\x7b\n  \"a\": 1,\n  x\n\x7d"

/-- A place behind two newlines, and a column so great that the sum starts again at zero or, where it is checked, is
none. -/
theorem offsetOf_places_third :
    14 ≤ (bytes strayLine).length ∧
      lineAt (bytes strayLine) 14 = 3 ∧
      offsetOf (bytes strayLine) ⟨3, 3⟩ = 14 ∧
      (offsetOf64 (bytes strayLine) 3 3).toNat = 14 ∧
      checkedOffsetOf64 (bytes strayLine) 3 3 = some (offsetOf64 (bytes strayLine) 3 3) ∧
      (offsetOf64 (bytes strayLine) 3 0xFFFFFFFFFFFFFFFF).toNat ≤ 17 ∧
      checkedOffsetOf64 (bytes strayLine) 3 0xFFFFFFFFFFFFFFFF = none := by
  have size : (bytes strayLine).length = 17 := by decide +kernel
  have line : lineAt (bytes strayLine) 14 = 3 := by decide +kernel
  have column : bytesIntoLine (bytes strayLine) 14 = 2 := by decide +kernel
  obtain ⟨back, -, -, wide⟩ := offsetOf_places strayLine
  rw [size] at back wide
  have third := back 14 (by decide)
  rw [line, column] at third
  obtain ⟨near, checked⟩ := (wide (by decide) 3 3).2.1 (by decide)
  obtain ⟨inside, -, -, exceeds⟩ := wide (by decide) 3 0xFFFFFFFFFFFFFFFF
  have before : linesSize 2 (bytes strayLine) = 12 := by decide +kernel
  refine ⟨by omega, line, third, near.trans third, checked, inside, exceeds.mpr ?_⟩
  exact before ▸ (by decide : 2 ^ 64 ≤ 12 + (0xFFFFFFFFFFFFFFFF - 1))

end Configuration.Error

end Cratewright
