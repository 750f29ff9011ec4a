/-!
# Places in the bytes of a text

A place is an offset, or a line number and a number of bytes within the line; lines are counted from one and end with
their newline. Main statement: the lines complete before a place, and the bytes of the line it is on, make up its
offset.
-/

namespace Cratewright.Text

/-- The bytes of a text in UTF-8. -/
def bytes (text : String) : List UInt8 := text.toUTF8.data.toList

/-- The byte of a newline. -/
def newline : UInt8 := 0x0A

/-- The places from an offset up to another. -/
structure Span where
  start : Nat
  stop : Nat
deriving DecidableEq, Repr

/-- Whether an offset lies in a span. -/
def Span.contains (span : Span) (offset : Nat) : Bool := span.start ≤ offset && offset < span.stop

/-- The last place of a span, or the place of an empty one. -/
def Span.last (span : Span) : Nat := max span.start (span.stop - 1)

/-- A line number, counted from one, and a number of bytes. -/
structure Position where
  line : Nat
  column : Nat
deriving DecidableEq, Repr

/-- The line that the byte after an offset is on. -/
def lineAt (source : List UInt8) (offset : Nat) : Nat := 1 + (source.take offset).count newline

/-- The number of bytes between the start of its line and an offset. -/
def bytesIntoLine (source : List UInt8) (offset : Nat) : Nat :=
  ((source.take offset).reverse.takeWhile (· ≠ newline)).length

/-- Where reading stands once the bytes before an offset are read: its line and how many of the line's bytes are read.
-/
def readUpTo (source : List UInt8) (offset : Nat) : Position :=
  ⟨lineAt source offset, bytesIntoLine source offset⟩

/-- The number of bytes in the first lines of a text. -/
def linesSize : Nat → List UInt8 → Nat
  | 0, _ => 0
  | _ + 1, [] => 0
  | count + 1, byte :: rest => linesSize (if byte = newline then count else count + 1) rest + 1

/-- The offset of a position whose column is counted from one, at most the end of the text. A column past the end of
its line leads into the lines below, and zero counts as one. -/
def offsetOf (source : List UInt8) (position : Position) : Nat :=
  min (linesSize (position.line - 1) source + (position.column - 1)) source.length

/-- No position lies beyond the end. -/
theorem offsetOf_le (source : List UInt8) (position : Position) : offsetOf source position ≤ source.length :=
  Nat.min_le_right _ _

@[simp] theorem linesSize_zero (source : List UInt8) : linesSize 0 source = 0 := by
  cases source <;> rfl

/-- Nothing is left out of a list whose items all pass. -/
theorem takeWhile_eq_self {α : Type} {test : α → Bool} {items : List α}
    (all : ∀ item ∈ items, test item = true) : items.takeWhile test = items := by
  induction items with
  | nil => rfl
  | cons item rest ih =>
    rw [List.takeWhile_cons_of_pos (all item List.mem_cons_self),
      ih fun other mem => all other (List.mem_cons_of_mem _ mem)]

/-- The lines that are complete before an offset, and the bytes of the line begun, make up the offset. -/
theorem linesSize_count_add_bytesIntoLine (before after : List UInt8) :
    linesSize (before.count newline) (before ++ after) + (before.reverse.takeWhile (· ≠ newline)).length =
      before.length := by
  induction before with
  | nil => simp
  | cons byte rest ih =>
    by_cases ends : byte = newline
    · subst ends
      simp only [List.count_cons_self, List.cons_append, linesSize, if_pos, List.reverse_cons, List.length_cons]
      rw [List.takeWhile_append]
      split <;> simp_all <;> omega
    · rw [List.count_cons_of_ne ends, List.reverse_cons, List.takeWhile_append]
      cases count : rest.count newline with
      | zero =>
        -- Without a newline all bytes are in the line of the place.
        have none : ∀ other ∈ rest.reverse, decide (other ≠ newline) = true := by
          intro other mem
          have absent := List.count_eq_zero.mp count
          simp only [decide_eq_true_eq]
          rintro rfl
          exact absent (List.mem_reverse.mp mem)
        rw [takeWhile_eq_self none]
        simp [ends]
      | succ lines =>
        -- With one, the first byte is in a line before it, and the line of the place is the same without the byte.
        have some : newline ∈ rest := List.count_pos_iff.mp (by omega)
        have shorter : (rest.reverse.takeWhile (· ≠ newline)).length ≠ rest.reverse.length := by
          intro same
          have whole := (List.takeWhile_prefix (· ≠ newline)).eq_of_length same
          have kept := List.all_eq_true.mp List.all_takeWhile newline (whole ▸ List.mem_reverse.mpr some)
          simp at kept
        rw [if_neg shorter]
        rw [count] at ih
        simp only [List.cons_append, linesSize, if_neg ends, List.length_cons]
        omega

end Cratewright.Text
