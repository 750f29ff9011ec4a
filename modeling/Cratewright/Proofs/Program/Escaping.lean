import Cratewright.Proofs.Program.Insertion

/-!
# Text in a template

A text may be written as the value of a placeholder, or as a template in which every `#` is doubled. Doubling commutes
with joining lines and with trimming, and a line in which it was done is read without a placeholder as the line it
was done to. Main statement: the two ways write the same, for a text whose first and last line are not blank and that
has a line at the margin.
-/

namespace Cratewright

open Text (Line blank trimEnd)

namespace Template

/-- A text as it is written in a template: every `#` is doubled. -/
def escape (text : List Char) : List Char := text.flatMap fun c => if c = '#' then ['#', '#'] else [c]

/-- A source text as it is written in a template. -/
def escaped (text : String) : String := String.ofList (escape text.toList)

/-- A text in two parts is escaped part by part. -/
theorem escape_append (first second : List Char) : escape (first ++ second) = escape first ++ escape second :=
  List.flatMap_append

/-- A character other than the number sign is not escaped. -/
theorem escape_cons_of_ne {c : Char} (plain : c ≠ '#') (rest : List Char) : escape (c :: rest) = c :: escape rest := by
  rw [escape, List.flatMap_cons, if_neg plain]
  rfl

/-- A text without a number sign is its own escaped form. -/
theorem escape_of_hash_not_mem {text : List Char} (plain : '#' ∉ text) : escape text = text := by
  induction text with
  | nil => rfl
  | cons c rest ih =>
    rw [List.mem_cons, not_or] at plain
    rw [escape_cons_of_ne (Ne.symm plain.1), ih plain.2]

/-- Escaping brings no other characters and loses none. -/
theorem mem_escape_iff {c : Char} {text : List Char} : c ∈ escape text ↔ c ∈ text := by
  have same : ∀ other : Char, (c ∈ if other = '#' then ['#', '#'] else [other]) ↔ c = other := by
    intro other
    split <;> simp_all
  simp only [escape, List.mem_flatMap, same, exists_eq_right']

/-- An escaped text begins as the text does. -/
theorem head?_escape (text : List Char) : (escape text).head? = text.head? := by
  cases text with
  | nil => rfl
  | cons c rest =>
    by_cases hash : c = '#'
    · rw [hash]
      rfl
    · rw [escape_cons_of_ne hash]
      rfl

/-- Lines are escaped one by one. -/
theorem escape_join (lines : List Line) : escape (Text.join lines) = Text.join (lines.map escape) := by
  induction lines with
  | nil => rfl
  | cons line rest ih =>
    cases rest with
    | nil => rfl
    | cons next others =>
      rw [Text.join_cons_cons, escape_append, escape_cons_of_ne (by decide), ih]
      rfl

/-- An escaped line is blank exactly if the line is. -/
theorem blank_escape (line : Line) : blank (escape line) = blank line := by
  rw [Bool.eq_iff_iff, blank, blank, List.all_eq_true, List.all_eq_true]
  simp only [mem_escape_iff]

/-- The blanks at the end of an escaped line are those of the line. -/
theorem trimEnd_escape (line : Line) : trimEnd (escape line) = escape (trimEnd line) := by
  induction line using List.reverseRecOn with
  | nil => rfl
  | append_singleton before last ih =>
    by_cases hash : last = '#'
    · subst hash
      rw [Text.trimEnd_append (by decide), escape_append, Text.trimEnd_append (by decide), escape_append]
      rfl
    · have stays : escape [last] = [last] := escape_cons_of_ne hash []
      rw [escape_append, stays, trimEnd, trimEnd, Text.dropEndWhile_concat, Text.dropEndWhile_concat]
      split
      · exact ih
      · rw [escape_append, stays]

/-- An escaped line is indented as the line is. -/
theorem indentation_escape (line : Line) : indentation (escape line) = indentation line := by
  induction line with
  | nil => rfl
  | cons c rest ih =>
    by_cases hash : c = '#'
    · rw [hash]
      rfl
    · rw [indentation, indentation] at ih
      rw [escape_cons_of_ne hash, indentation, indentation, List.takeWhile_cons, List.takeWhile_cons]
      split
      · rw [List.length_cons, List.length_cons, ih]
      · rfl

/-- Doubling moves no line away from the margin. -/
theorem Framed.escape {lines : List Line} (framed : Framed lines) : Framed (lines.map escape) where
  starts := by
    intro first found
    rw [List.head?_map] at found
    obtain ⟨line, head, rfl⟩ := Option.map_eq_some_iff.mp found
    rw [blank_escape]
    exact framed.starts line head
  ends := by
    intro last found
    rw [List.getLast?_map] at found
    obtain ⟨line, tail, rfl⟩ := Option.map_eq_some_iff.mp found
    rw [blank_escape]
    exact framed.ends line tail
  flush := by
    obtain ⟨line, mem, visible, flush⟩ := framed.flush
    exact ⟨Template.escape line, List.mem_map_of_mem mem, (blank_escape line).trans visible,
      (indentation_escape line).trans flush⟩

/-- A template in which every `#` is doubled consists of the doubled lines, but for the blanks at their ends. -/
theorem Framed.dedent_escape {text : List Char} (framed : Framed (Text.split text)) :
    dedent (Template.escape text) = ((Text.split text).map trimEnd).map Template.escape := by
  have cut := framed.escape.dedent_join (List.forall_mem_map.mpr fun line mem found =>
    Text.newline_not_mem_of_mem_split mem (mem_escape_iff.mp found))
  rw [← escape_join, Text.join_split] at cut
  rw [cut, List.map_map, List.map_map]
  exact List.map_congr_left fun line _ => trimEnd_escape line

/-- The text of a segment that is no placeholder. -/
def Segment.text? : Segment → Option Line
  | .literal text => some text
  | .hash => some ['#']
  | _ => none

/-- A line in which every `#` is doubled is read without a placeholder, and as the texts of the line itself. -/
theorem exists_scan_escape (whole : String) (line : Line) : ∃ (parts : List Segment) (texts : List Line),
    scan whole (escape line) = .ok parts ∧ parts.map Segment.text? = texts.map some ∧ texts.flatten = line := by
  match line with
  | [] => exact ⟨[], [], scan_eq_ok_nil_iff.mpr rfl, rfl, rfl⟩
  | c :: rest =>
    by_cases hash : c = '#'
    · subst hash
      obtain ⟨parts, texts, read, plain, rfl⟩ := exists_scan_escape whole rest
      exact ⟨.hash :: parts, ['#'] :: texts, scan_eq_ok_cons_iff.mpr ⟨_, .hash, read⟩, congrArg (some ['#'] :: ·) plain,
        rfl⟩
    · obtain ⟨text, after, cut, nonempty, inside, ends⟩ := exists_run hash rest
      have shorter : after.length < (c :: rest).length := by
        have consumed := List.length_pos_of_ne_nil nonempty
        rw [cut, List.length_append]
        omega
      obtain ⟨parts, texts, read, plain, rfl⟩ := exists_scan_escape whole after
      -- the run ends at the same place as before, since what follows it still begins with `#`
      have begins : Begins (escape (c :: rest)) (.literal text) (escape texts.flatten) := by
        rw [cut, escape_append, escape_of_hash_not_mem inside]
        exact .run nonempty inside (by rwa [head?_escape])
      exact ⟨.literal text :: parts, text :: texts, scan_eq_ok_cons_iff.mpr ⟨_, begins, read⟩,
        congrArg (some text :: ·) plain, cut.symm⟩
termination_by line.length
decreasing_by
  · exact Nat.lt_succ_self _
  · exact shorter

variable {Value : Type}

/-- Segments without a placeholder take no argument. -/
theorem assignSegments_of_text? {parts : List Segment} {texts : List Line}
    (plain : parts.map Segment.text? = texts.map some) (arguments : Arguments Value) :
    assignSegments parts arguments = (texts.map .text, .ok arguments) := by
  induction parts generalizing texts with
  | nil =>
    obtain rfl : texts = [] := by simpa using plain.symm
    rfl
  | cons part rest ih =>
    cases texts with
    | nil => cases plain
    | cons text others =>
      obtain ⟨own, later⟩ := List.cons.inj plain
      cases part with
      | literal => cases own; rw [assignSegments, ih later]; rfl
      | hash => cases own; rw [assignSegments, ih later]; rfl
      | positional => cases own
      | named => cases own

/-- Whether a line of a template has no placeholder and is made up of the texts of a line. -/
def Spells (assigned : AssignedLine Value) (line : Line) : Prop :=
  ∃ texts : List Line, assigned.pieces = texts.map .text ∧ texts.flatten = line

/-- Lines in which every `#` is doubled need no argument and are assigned their own texts. -/
theorem exists_assignLines_escape (lines : List Line) : ∃ assigned : List (AssignedLine Value),
    assignLines (lines.map escape) (.ofList []) = ⟨assigned, none⟩ ∧ List.Forall₂ Spells assigned lines := by
  induction lines with
  | nil => exact ⟨[], rfl, .nil⟩
  | cons line rest ih =>
    obtain ⟨assigned, later, spelled⟩ := ih
    obtain ⟨parts, texts, read, plain, flat⟩ := exists_scan_escape (String.ofList (escape line)) line
    refine ⟨⟨Text.lead (escape line), texts.map .text⟩ :: assigned, ?_, .cons ⟨texts, rfl, flat⟩ spelled⟩
    rw [List.map_cons, assignLines, segments, read]
    simp only [assignSegments_of_text? plain, later]

end Template

namespace Writer

open Template (AssignedLine Spells)

variable {lines : List Line}

/-- Texts alone are filled in as they stand, one behind another. -/
theorem fill_texts (leading : Line) (texts : List Line) (writer : Writer) :
    fill leading (texts.map .text) writer = .ok texts.flatten writer := by
  induction texts with
  | nil => rfl
  | cons text rest ih =>
    rw [List.map_cons, fill_text_apply, ih]
    rfl

/-- Lines without a placeholder are filled in with their texts, blank ones too. -/
theorem fillLines_of_spells {assigned : List (AssignedLine Filler)} (spelled : List.Forall₂ Spells assigned lines)
    (writer : Writer) : fillLines assigned writer = .ok lines writer := by
  induction spelled with
  | nil => rfl
  | @cons assigned line _ _ spells _ ih =>
    obtain ⟨texts, pieces, rfl⟩ := spells
    have filled : fill assigned.leading assigned.pieces writer = .ok texts.flatten writer := by
      rw [pieces]
      exact fill_texts _ _ _
    have kept : keptLine assigned texts.flatten = [texts.flatten] := by
      have plain : assigned.hasValue = false := by
        rw [AssignedLine.hasValue, pieces, List.any_map]
        exact List.any_eq_false.mpr fun _ _ => Bool.false_ne_true
      rw [keptLine, plain]
      rfl
    rw [fillLines_cons filled ih, kept]
    rfl

/-- Trimming the lines that are appended changes nothing. -/
theorem appended_map_trimEnd (writer : Writer) (lines : List Line) :
    writer.appended (lines.map trimEnd) = writer.appended lines := by
  simp only [appended, List.map_map, Function.comp_def, layOut_trimEnd]

/-- Appended lines stand at the end of the contents, laid out at the level and terminated. -/
theorem contents_appended (writer : Writer) (lines : List Line) :
    (writer.appended lines).contents =
      writer.contents ++ String.ofList (Text.terminated (lines.map (layOut writer.level))) := by
  rw [contents, contents, appended, Text.terminated_append, String.ofList_append]

/-- A template in which every `#` is doubled is written line by line. -/
theorem render_escaped {text : String} (framed : Template.Framed (Text.split text.toList)) (writer : Writer) :
    render (Template.escaped text) (.ofList []) writer = .ok () (writer.appended (Text.split text.toList)) := by
  have whole : ∀ line ∈ (Text.split text.toList).map trimEnd, '\n' ∉ line :=
    List.forall_mem_map.mpr fun line mem => Text.newline_not_mem_trimEnd (Text.newline_not_mem_of_mem_split mem)
  obtain ⟨assigned, plain, spelled⟩ := Template.exists_assignLines_escape ((Text.split text.toList).map trimEnd)
  have assignment : Template.assign (Template.escaped text) (.ofList ([] : List Filler)) = ⟨assigned, none⟩ := by
    rw [Template.assign, Template.escaped, String.toList_ofList, framed.dedent_escape, plain]
  rw [← appended_map_trimEnd]
  exact render_of_fillLines assignment (fillLines_of_spells spelled writer) (Text.flatMap_split whole)

/-- A text that stands for the only placeholder of a template is written line by line. -/
theorem render_alone_text {text : String} (visible : ∀ line ∈ (Text.split text.toList).getLast?, blank line = false)
    (writer : Writer) :
    render "#T" (.ofList [fillText text]) writer = .ok () (writer.appended (Text.split text.toList)) := by
  have run : fillText text [] writer = .ok (Text.hang [] (Text.join (Text.split text.toList))) writer := by
    rw [Text.join_split]
    rfl
  exact render_alone run (fun _ => Text.newline_not_mem_of_mem_split) visible

end Writer

/-- A text of which the first and the last line and some line at the margin are not blank is written the same as a
template with every `#` doubled and as the value of a placeholder: each of its lines, laid out at the level at hand.
What follows the last newline is the last line, so such a text does not end with a newline. -/
theorem Op.write_escaped_as_text {text : String} (framed : Template.Framed (Text.split text.toList)) (writer : Writer) :
    ∃ after, (Op.write (Template.escaped text) []).run writer = .ok () after ∧
      (Op.write "#T" [.text text]).run writer = .ok () after ∧
      after.contents = writer.contents ++
        String.ofList (Text.terminated ((Text.split text.toList).map (Writer.layOut writer.level))) := by
  refine ⟨writer.appended (Text.split text.toList), ?_, ?_, Writer.contents_appended _ _⟩
  · rw [Op.run, fillers]
    exact Writer.render_escaped framed writer
  · have arguments : fillers [.text text] = [Writer.fillText text] := by rw [fillers, Argument.filler, fillers]
    rw [Op.run, arguments]
    exact Writer.render_alone_text framed.ends writer

/-- A text full of what would be placeholders in a template, with a carriage return and other blanks at the ends of its
lines and a line of blanks inside. -/
def hashText : String := "##let #T = #\x7bname\x7d;\r\n\u2003\n\t#[cfg(#\x7bopen)] \u3000\n#"

/-- A text full of number signs, braces and odd blanks, written escaped and handed over. -/
theorem Op.write_escaped_as_text_hashText :
    ∃ after, (Op.write "####let ##T = ##\x7bname\x7d;\r\n\u2003\n\t##[cfg(##\x7bopen)] \u3000\n##" []).run
        nestedWriter = .ok () after ∧
      (Op.write "#T" [.text hashText]).run nestedWriter = .ok () after ∧
      after.contents = "impl Api \x7b\n    ##let #T = #\x7bname\x7d;\n\n    \t#[cfg(#\x7bopen)]\n    #\n" := by
  have framed : Template.Framed (Text.split hashText.toList) :=
    ⟨by decide, by decide, '#' :: [], by decide, by decide, by decide⟩
  have written : Template.escaped hashText =
      "####let ##T = ##\x7bname\x7d;\r\n\u2003\n\t##[cfg(##\x7bopen)] \u3000\n##" := by decide +kernel
  obtain ⟨after, template, value, contents⟩ := Op.write_escaped_as_text framed nestedWriter
  rw [written] at template
  refine ⟨after, template, value, contents.trans ?_⟩
  decide +kernel

end Cratewright
