import Cratewright.Configuration.Report
import Cratewright.Proofs.Text.Bytes

/-!
# The lines that reports on configuration errors show

The head of a report shows the line that its place begins on: one more than the newlines among the characters before
the place, as long as nothing else ends a line. The place of a configuration error counts bytes. Main statement: where
every character before the place takes one byte, the line shown is the line of the byte that the error is about.
-/

namespace Cratewright

open Text (Span)

namespace Text

open String (utf8EncodeChar)

/-- Every character takes one byte. -/
def SingleByte (chars : List Char) : Prop := ∀ c ∈ chars, c.utf8Size = 1

instance (chars : List Char) : Decidable (SingleByte chars) := List.decidableBAll _ chars

/-- The byte of a character that takes one is a newline for the newline alone. -/
theorem toUInt8_beq_newline {c : Char} (one : c.utf8Size = 1) : (c.val.toUInt8 == newline) = (c == '\n') := by
  have small : c.val.toNat ≤ 127 := UInt32.le_iff_toNat_le.mp (Char.utf8Size_eq_one_iff.mp one)
  have kept : c.val.toUInt8.toNat = c.val.toNat := by
    rw [UInt32.toNat_toUInt8]
    omega
  rw [Bool.eq_iff_iff, beq_iff_eq, beq_iff_eq, ← UInt8.toNat_inj, kept, Char.ext_iff, ← UInt32.toNat_inj]
  rfl

/-- As long as every character takes one byte, a prefix has as many newlines in bytes as in characters. -/
theorem SingleByte.count_take {chars : List Char} {size : Nat} (single : SingleByte (chars.take size)) :
    ((chars.flatMap utf8EncodeChar).take size).count newline = (chars.take size).count '\n' := by
  induction chars generalizing size with
  | nil => simp
  | cons c rest ih =>
    cases size with
    | zero => rfl
    | succ size =>
      have one : c.utf8Size = 1 := single c (by simp)
      have later := @ih size fun other mem => single other (by simp [mem])
      rw [List.flatMap_cons, String.utf8EncodeChar_eq_singleton one]
      simp only [List.singleton_append, List.take_succ_cons, List.count_cons, later, toUInt8_beq_newline one]

/-- As long as every character takes one byte, an offset inside the bytes is inside the characters. -/
theorem SingleByte.lt_length {chars : List Char} {size : Nat} (single : SingleByte (chars.take size))
    (inside : size < (chars.flatMap utf8EncodeChar).length) : size < chars.length := by
  induction chars generalizing size with
  | nil => simp at inside
  | cons c rest ih =>
    cases size with
    | zero => exact Nat.zero_lt_succ _
    | succ size =>
      have one : c.utf8Size = 1 := single c (by simp)
      rw [List.flatMap_cons, List.length_append, String.length_utf8EncodeChar, one] at inside
      have later : size < rest.length :=
        ih (fun other mem => single other (by simp [mem])) (by omega)
      exact Nat.succ_lt_succ later

end Text

namespace Report

variable {report : Report} {source heading fileName text : String} {extent : Extent} {index offset limit : Nat}

/-- Nothing but newlines ends a line. -/
def NewlinesOnly (source : List Char) : Prop := ∀ c ∈ source, endsLine c = true → c = '\n'

instance (source : List Char) : Decidable (NewlinesOnly source) := List.decidableBAll _ source

/-- Lines that begin behind an offset are not reached. -/
theorem takeWhile_numbered_of_lt (before : limit < offset) (lines : List (List Char)) :
    (numbered index offset lines).takeWhile (·.offset ≤ limit) = [] := by
  cases lines with
  | nil => rfl
  | cons line rest => simp [numbered, before]

/-- The last line that is reached is the first one if no later one is. -/
theorem index_getLast?_numbered_cons (reached : offset ≤ limit) (line : List Char) (rest : List (List Char)) :
    ((numbered index offset (line :: rest)).takeWhile (·.offset ≤ limit)).getLast?.map SourceLine.index =
      some ((((numbered (index + 1) (offset + line.length) rest).takeWhile (·.offset ≤ limit)).getLast?.map
        SourceLine.index).getD index) := by
  rw [numbered, List.takeWhile_cons_of_pos (by simpa using reached), List.getLast?_cons]
  cases ((numbered (index + 1) (offset + line.length) rest).takeWhile (·.offset ≤ limit)).getLast? <;> rfl

/-- The line that an offset is on has as many lines before it as there are newlines before the offset. -/
theorem index_getLast?_numbered_cut {chars : List Char} {distance : Nat}
    (newlines : NewlinesOnly chars) (inside : distance < chars.length) :
    ((numbered index offset (cut chars)).takeWhile (·.offset ≤ offset + distance)).getLast?.map SourceLine.index =
      some (index + (chars.take distance).count '\n') := by
  fun_induction cut chars generalizing index offset distance with
  | case1 => exact absurd inside (Nat.not_lt_zero _)
  | case2 rest ih => exact absurd (newlines '\r' (by simp) rfl) (by decide)
  | case3 c rest _ ends ih =>
    rw [index_getLast?_numbered_cons (Nat.le_add_right _ _)]
    cases distance with
    | zero => simp [takeWhile_numbered_of_lt]
    | succ distance =>
      have later := @ih (index + 1) (offset + 1) distance
        (fun other mem => newlines other (List.mem_cons_of_mem _ mem)) (by simpa using inside)
      have newline : c = '\n' := newlines c List.mem_cons_self ends
      rw [Nat.add_right_comm offset 1 distance] at later
      rw [List.length_singleton, Nat.add_succ, Nat.succ_eq_add_one, later, newline]
      simp
      omega
  | case4 c rest _ ends none ih =>
    have single : rest = [] := by rw [← flatten_cut rest, none, List.flatten_nil]
    have start : distance = 0 := by simpa [single] using inside
    rw [index_getLast?_numbered_cons (Nat.le_add_right _ _), start]
    rfl
  | case5 c rest _ ends line lines found ih =>
    rw [index_getLast?_numbered_cons (Nat.le_add_right _ _)]
    cases distance with
    | zero => simp [takeWhile_numbered_of_lt]
    | succ distance =>
      have later := @ih index (offset + 1) distance
        (fun other mem => newlines other (List.mem_cons_of_mem _ mem)) (by simpa using inside)
      have other : c ≠ '\n' := fun same => ends (same ▸ rfl)
      rw [found, index_getLast?_numbered_cons (Nat.le_add_right _ _), Nat.add_right_comm offset 1 distance,
        Nat.add_right_comm offset 1 line.length] at later
      rw [List.take_succ_cons, List.count_cons_of_ne other]
      exact later

/-- The line of a character inside a source whose lines end with newlines alone. -/
theorem index_lineAt? (newlines : NewlinesOnly source.toList) (inside : offset < source.length) :
    (lineAt? source offset).map SourceLine.index = some ((source.toList.take offset).count '\n') := by
  have counted := @index_getLast?_numbered_cut 0 0 source.toList offset newlines (by rwa [String.length_toList])
  rw [lineAt?, if_pos inside.le, sourceLines]
  simpa only [Nat.zero_add] using counted

/-- A source with characters has a line for every offset up to its end. -/
theorem isSome_lineAt? (inside : offset ≤ source.length) (filled : source.toList ≠ []) :
    (lineAt? source offset).isSome := by
  rw [lineAt?, if_pos inside, sourceLines]
  cases found : cut source.toList with
  | nil => exact absurd (by rw [← flatten_cut source.toList, found, List.flatten_nil]) filled
  | cons line rest =>
    have reached := @index_getLast?_numbered_cons 0 0 offset (Nat.zero_le offset) line rest
    rw [← Option.isSome_map, reached]
    rfl

/-- The line above the frame. -/
def headingLine (heading : String) : List Piece := [⟨"Error:", some .alarm⟩, .plain (" " ++ heading)]

/-- The line of the frame that tells the place in numbers. -/
def placeLine (width : Nat) (fileName : String) (line column : Nat) : List Piece :=
  [beside width, .char .frame '╭', .char .frame '─', .char .frame '[',
    .plain (fileName ++ ":" ++ toString line ++ ":" ++ toString column), .char .frame ']']

/-- A text is a report whose head shows a line of a file. -/
def ShowsLine (heading fileName : String) (line : Nat) (text : String) : Prop :=
  ∃ width column rest,
    text = writeLine (headingLine heading) ++ writeLine (placeLine width fileName line column) ++ rest

/-- The head of a report shows the line that its place begins on. -/
theorem showsLine_render (found : report.extent? = some extent) :
    ShowsLine report.heading report.fileName extent.first.number report.render := by
  let place := if extent.first.index = extent.last.index then report.onLine extent.first else report.overLines extent
  let below := [beside extent.numberWidth, .char .frame '│'] :: (place ++ [bottom extent])
  have written : report.lines = headingLine report.heading ::
      placeLine extent.numberWidth report.fileName extent.first.number
        (report.span.start - extent.first.offset + 1) :: below := by
    rw [lines, found]
    rfl
  refine ⟨extent.numberWidth, report.span.start - extent.first.offset + 1, String.join (below.map writeLine), ?_⟩
  rw [render, written, List.map_cons, List.map_cons, String.join_cons, String.join_cons, String.append_assoc]

/-- Repeating a character at the end of a text appends its copies. -/
theorem toList_pushn (text : String) (c : Char) (count : Nat) :
    (text.pushn c count).toList = text.toList ++ List.replicate count c := by
  induction count with
  | zero => exact (List.append_nil _).symm
  | succ count ih =>
    have pushed : text.pushn c (count + 1) = (text.pushn c count).push c := rfl
    rw [pushed, String.toList_push, ih, List.replicate_succ', List.append_assoc]

/-- A character that neither of two beginnings has divides a text in one way. -/
theorem append_cons_cancel {α : Type} {divider : α} {first second after later : List α} (outside : divider ∉ first)
    (other : divider ∉ second) (same : first ++ divider :: after = second ++ divider :: later) :
    first = second ∧ after = later := by
  induction first generalizing second with
  | nil =>
    cases second with
    | nil => exact ⟨rfl, (List.cons.inj same).2⟩
    | cons item rest => exact absurd ((List.cons.inj same).1 ▸ List.mem_cons_self) other
  | cons item rest ih =>
    cases second with
    | nil => exact absurd ((List.cons.inj same).1 ▸ List.mem_cons_self) outside
    | cons item' rest' =>
      obtain ⟨rfl, left⟩ := List.cons.inj same
      obtain ⟨rfl, rfl⟩ := ih (List.not_mem_of_not_mem_cons outside) (List.not_mem_of_not_mem_cons other) left
      exact ⟨rfl, rfl⟩

/-- A number is known by its digits. -/
theorem toString_injective {number other : Nat} (same : toString number = toString other) : number = other := by
  rw [Nat.toString_eq_repr, Nat.toString_eq_repr, ← String.toList_inj, Nat.toList_repr, Nat.toList_repr] at same
  rw [← Nat.ofDigitChars_ten_toDigits (n := number), same, Nat.ofDigitChars_ten_toDigits]

/-- The decimal of a number has no colon. -/
theorem colon_not_mem_toString (number : Nat) : ':' ∉ (toString number).toList := by
  intro mem
  rw [Nat.toString_eq_repr, Nat.toList_repr] at mem
  exact absurd (Nat.isDigit_of_mem_toDigits (by decide) (by decide) mem) (by decide)

/-- A report shows one line only. -/
theorem ShowsLine.unique {line other : Nat} (shown : ShowsLine heading fileName line text)
    (again : ShowsLine heading fileName other text) : line = other := by
  obtain ⟨width, column, rest, rfl⟩ := shown
  obtain ⟨width', column', rest', same⟩ := again
  rw [String.append_assoc, String.append_assoc, String.append_right_inj] at same
  have escape : "\x1b[".toList = '\x1b' :: ['['] := rfl
  have colon : ":".toList = [':'] := rfl
  have spelled := congrArg String.toList same
  simp only [writeLine, placeLine, beside, Piece.char, Piece.plain, Piece.write, List.map_cons, List.map_nil,
    String.join_cons, String.join_nil, String.toList_append, toList_pushn, String.toList_empty, List.nil_append,
    List.append_assoc, escape, colon, List.cons_append] at spelled
  -- The margin has no escape, and the number of the line no colon; what stands between them is the same.
  obtain ⟨-, framed⟩ := append_cons_cancel (by simp) (by simp) spelled
  simp only [List.append_cancel_left_eq, List.cons.injEq, true_and] at framed
  obtain ⟨digits, -⟩ := append_cons_cancel (colon_not_mem_toString line) (colon_not_mem_toString other) framed
  exact toString_injective (String.toList_inj.mp digits)

/-- A report whose place ends in its source shows one line more than there are newlines before the place. -/
theorem showsLine_count (newlines : NewlinesOnly report.source.toList)
    (inside : report.span.start < report.source.length) (ended : report.span.last ≤ report.source.length) :
    ShowsLine report.heading report.fileName (1 + (report.source.toList.take report.span.start).count '\n')
      report.render := by
  have filled : report.source.toList ≠ [] := by
    intro empty
    rw [← String.length_toList, empty] at inside
    exact absurd inside (Nat.not_lt_zero _)
  obtain ⟨last, lastFound⟩ := Option.isSome_iff_exists.mp (isSome_lineAt? ended filled)
  obtain ⟨first, firstFound, counted⟩ := Option.map_eq_some_iff.mp (index_lineAt? newlines inside)
  have found : report.extent? = some ⟨first, last⟩ := by
    rw [extent?, firstFound, lastFound]
    rfl
  have shown := showsLine_render found
  rwa [SourceLine.number, counted, Nat.add_comm] at shown

end Report

namespace Configuration.Error

variable {error : Error} {source fileName : String} {span : Span}

/-- The place of the error that reading a source ends with. -/
def failurePlace? (source : String) : Except Error RuntimeConfig → Option Span
  | .error error => error.span? source
  | .ok _ => none

/-- A place of failure is that of an error that has a place in the source. -/
theorem exists_error_of_failurePlace? {outcome : Except Error RuntimeConfig}
    (placed : failurePlace? source outcome = some span) :
    ∃ error, outcome = .error error ∧ error.span? source = some span := by
  cases outcome with
  | ok config => cases placed
  | error error => exact ⟨error, rfl, placed⟩

/-- The report on an error shows the line of a character, which the offset of a byte is taken for. -/
theorem showsLine_report (located : error.span? source = some span)
    (newlines : Report.NewlinesOnly source.toList) (inside : span.start < source.length)
    (ended : span.last ≤ source.length) :
    Report.ShowsLine "invalid runtime configuration" fileName (1 + (source.toList.take span.start).count '\n')
      (error.report source fileName) := by
  rw [report, located]
  exact Report.showsLine_count newlines inside ended

/-- Where every character before its place takes one byte, an error is shown on the line of its byte. The place of a
TOML error must not pass the end of the source; that of a JSON error is one byte and never does. -/
theorem report_shows_line (located : error.span? source = some span)
    (inside : span.start < (Text.bytes source).length)
    (newlines : Report.NewlinesOnly source.toList) (single : Text.SingleByte (source.toList.take span.start))
    (ended : span.last ≤ source.length ∨ ∃ fault position, error = .json fault position) :
    Report.ShowsLine "invalid runtime configuration" fileName (Text.lineAt (Text.bytes source) span.start)
      (error.report source fileName) := by
  have character : span.start < source.length := by
    rw [Text.bytes_eq_flatMap] at inside
    rw [← String.length_toList]
    exact single.lt_length inside
  have last : span.last ≤ source.length := by
    rcases ended with ended | ⟨fault, position, rfl⟩
    · exact ended
    · obtain rfl := Option.some.inj located
      simp only [Span.last] at character ⊢
      omega
  rw [Text.lineAt, Text.bytes_eq_flatMap, single.count_take]
  exact showsLine_report located newlines character last

/-- A fault on the second line of a document is shown there. -/
theorem report_shows_line_second :
    ∃ error, loadJson "\x7b\n1\x7d" = .error error ∧
      Report.ShowsLine "invalid runtime configuration" "runtime.json" 2
        (error.report "\x7b\n1\x7d" "runtime.json") := by
  have placed : failurePlace? "\x7b\n1\x7d" (loadJson "\x7b\n1\x7d") = some ⟨2, 3⟩ := by decide +kernel
  have second : Text.lineAt (Text.bytes "\x7b\n1\x7d") 2 = 2 := by decide +kernel
  obtain ⟨error, failed, located⟩ := exists_error_of_failurePlace? placed
  have shown := @report_shows_line _ _ "runtime.json" _ located (by decide +kernel) (by decide +kernel)
    (by decide +kernel) (.inl (by decide +kernel))
  rw [second] at shown
  exact ⟨error, failed, shown⟩

/-- A comment with letters that take two bytes, above a value that is no text. -/
def accented : String := "# préfixe généré\ncratePrefix = 42\nrelativePath = \"../\"\n"

/-- The value on the second line is reported on the third: there are four bytes more than characters before it. -/
theorem report_shows_line_below :
    ∃ error, loadToml accented = .error error ∧
      ∃ span, error.span? accented = some span ∧ span.start < (Text.bytes accented).length ∧
        Report.NewlinesOnly accented.toList ∧
        Text.lineAt (Text.bytes accented) span.start = 2 ∧
        Report.ShowsLine "invalid runtime configuration" "runtime.toml" 3 (error.report accented "runtime.toml") ∧
        ¬ Report.ShowsLine "invalid runtime configuration" "runtime.toml"
          (Text.lineAt (Text.bytes accented) span.start) (error.report accented "runtime.toml") := by
  have placed : failurePlace? accented (loadToml accented) = some ⟨35, 37⟩ := by decide +kernel
  have newlines : Report.NewlinesOnly accented.toList := by decide +kernel
  have second : Text.lineAt (Text.bytes accented) 35 = 2 := by decide +kernel
  have third : 1 + (accented.toList.take 35).count '\n' = 3 := by decide +kernel
  obtain ⟨error, failed, located⟩ := exists_error_of_failurePlace? placed
  have shown := @showsLine_report _ _ "runtime.toml" _ located newlines (by decide +kernel) (by decide +kernel)
  rw [third] at shown
  refine ⟨error, failed, _, located, by decide +kernel, newlines, second, shown, fun meant => ?_⟩
  rw [second] at meant
  exact absurd (meant.unique shown) (by decide)

end Configuration.Error

end Cratewright
