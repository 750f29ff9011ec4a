import Cratewright.Proofs.Template.Plain

/-!
# Templates without their margin

The margin counts spaces and tabs, while every blank character counts where a line is blank or is trimmed. The two
notions meet in `blank_drop`: up to its indentation a line can be cut anywhere, for what is cut off is blank and takes
up one byte a character. Main statement: slicing the lines of a template at the margin in bytes never fails, what comes
out stands at the margin and is not changed by doing it again, and a template that is laid out otherwise, moved or with
more blanks around its text, comes out the same.
-/

namespace Cratewright

open Text (Line blank isBlank trimEnd)

namespace Text

/-- Blanks behind a line are trimmed off with those it ends with. -/
theorem trimEnd_append_of_blank (line : Line) {behind : Line} (blanks : blank behind = true) :
    trimEnd (line ++ behind) = trimEnd line := by
  induction behind using List.reverseRecOn with
  | nil => rw [List.append_nil]
  | append_singleton before last ih =>
    rw [blank_append, Bool.and_eq_true] at blanks
    have lastBlank : isBlank last = true := by simpa [blank] using blanks.2
    rw [← List.append_assoc, trimEnd, dropEndWhile_concat, if_pos lastBlank]
    exact ih blanks.1

/-- A line can be cut at its start before or after it is trimmed. -/
theorem trimEnd_drop (width : Nat) (line : Line) : trimEnd (line.drop width) = (trimEnd line).drop width := by
  obtain ⟨removed, split, blanks⟩ := dropEndWhile_prefix isBlank line
  have behind : blank (removed.drop (width - (trimEnd line).length)) = true :=
    List.all_eq_true.mpr fun c mem => blanks c (List.mem_of_mem_drop mem)
  have cut : line.drop width = (trimEnd line).drop width ++ removed.drop (width - (trimEnd line).length) := by
    conv_lhs => rw [split]
    exact List.drop_append
  rw [cut, trimEnd_append_of_blank _ behind, trimEnd, dropEndWhile_eq_rdropWhile, List.rdropWhile_eq_self_iff]
  intro nonempty
  rw [List.getLast_drop nonempty]
  exact List.rdropWhile_last_not isBlank line _

/-- A line without a carriage return at its end. -/
def withoutReturn (line : Line) : Line := if line.getLast? = some '\r' then line.dropLast else line

/-- A carriage return at the end of a line is trimmed with the blanks. -/
theorem trimEnd_withoutReturn (line : Line) : trimEnd (withoutReturn line) = trimEnd line := by
  rw [withoutReturn]
  split
  · rename_i ends
    obtain ⟨before, rfl⟩ := List.getLast?_eq_some_iff.mp ends
    rw [List.dropLast_concat, trimEnd_append_of_blank _ (by decide)]
  · rfl

/-- The lines of a text, each without its newline and without a carriage return right before that. What follows the last
newline is a line unless it is empty. -/
def sourceLines (text : List Char) : List Line :=
  (split text).dropLast.map withoutReturn ++ (split text).getLast?.toList.filter (!·.isEmpty)

/-- The text from a byte offset on, unless the offset lies past the end or inside a character. -/
def sliceFrom? (text : String) (offset : Nat) : Option String :=
  if valid : (⟨offset⟩ : String.Pos.Raw).IsValid text then some (text.sliceFrom (text.pos ⟨offset⟩ valid)).copy
  else none

/-- A text can be cut behind any part that it begins with. -/
theorem sliceFrom?_append (before rest : String) : sliceFrom? (before ++ rest) before.utf8ByteSize = some rest := by
  have valid : (⟨before.utf8ByteSize⟩ : String.Pos.Raw).IsValid (before ++ rest) :=
    String.Pos.Raw.isValid_iff_exists_append.mpr ⟨before, rest, rfl, rfl⟩
  have splits : ((before ++ rest).pos ⟨before.utf8ByteSize⟩ valid).Splits before rest := ⟨rfl, rfl⟩
  rw [sliceFrom?, dif_pos valid, String.Pos.Splits.eq_right (String.Pos.splits _) splits]

end Text

namespace Template

variable {line : Line} {lines : List Line}

/-- A character of a margin is blank. -/
theorem isBlank_of_isMarginal {c : Char} (marginal : isMarginal c = true) : isBlank c = true := by
  rw [isMarginal, Bool.or_eq_true, beq_iff_eq, beq_iff_eq] at marginal
  rcases marginal with rfl | rfl <;> decide

/-- A line of margin characters is blank. -/
theorem blank_of_marginal (marginal : ∀ c ∈ line, isMarginal c = true) : blank line = true :=
  List.all_eq_true.mpr fun c mem => isBlank_of_isMarginal (marginal c mem)

/-- Margin characters in front leave a line as blank as it is. -/
theorem blank_append_of_marginal {front : Line} (marginal : ∀ c ∈ front, isMarginal c = true) (line : Line) :
    blank (front ++ line) = blank line := by
  rw [Text.blank_append, blank_of_marginal marginal, Bool.true_and]

/-- The front of a line that belongs to a margin has margin characters only. -/
theorem marginal_takeWhile (line : Line) : ∀ c ∈ line.takeWhile isMarginal, isMarginal c = true :=
  fun _ mem => List.mem_takeWhile_imp mem

/-- Spaces and tabs in front of a line add to its indentation. -/
theorem indentation_append {front : Line} (marginal : ∀ c ∈ front, isMarginal c = true) (line : Line) :
    indentation (front ++ line) = front.length + indentation line := by
  rw [indentation, List.takeWhile_append_of_pos marginal, List.length_append, indentation]

/-- Up to its indentation a line is cut inside the spaces and tabs it starts with. -/
theorem exists_cut {width : Nat} (inside : width ≤ indentation line) : ∃ front, front.length = width ∧
    line = front ++ line.drop width ∧ ∀ c ∈ front, isMarginal c = true := by
  refine ⟨line.take width, ?_, (List.take_append_drop width line).symm, ?_⟩
  · have most := (List.takeWhile_prefix isMarginal (l := line)).length_le
    rw [indentation] at inside
    rw [List.length_take]
    omega
  · intro c mem
    refine marginal_takeWhile line c ?_
    have within : line.take width <+: line.takeWhile isMarginal := by
      apply List.prefix_of_prefix_length_le (List.take_prefix width line) (List.takeWhile_prefix isMarginal)
      exact (List.length_take_le width line).trans inside
    exact within.subset mem

/-- Taking away indentation leaves a line as blank as it is. -/
theorem blank_drop {width : Nat} (inside : width ≤ indentation line) : blank (line.drop width) = blank line := by
  obtain ⟨front, -, cut, marginal⟩ := exists_cut inside
  conv_rhs => rw [cut]
  exact (blank_append_of_marginal marginal _).symm

/-- Taking away indentation leaves the rest of it. -/
theorem indentation_drop {width : Nat} (inside : width ≤ indentation line) :
    indentation (line.drop width) = indentation line - width := by
  obtain ⟨front, length, cut, marginal⟩ := exists_cut inside
  have added := indentation_append marginal (line.drop width)
  rw [← cut, length] at added
  omega

/-- What follows a text that is not blank has no part in its indentation. -/
theorem indentation_append_of_visible {first : Line} (visible : blank first = false) (second : Line) :
    indentation (first ++ second) = indentation first := by
  have stops : (first.takeWhile isMarginal).length ≠ first.length := by
    intro whole
    have same := (List.takeWhile_prefix isMarginal).eq_of_length whole
    rw [← same, blank_of_marginal (marginal_takeWhile first)] at visible
    cases visible
  rw [indentation, List.takeWhile_append, if_neg stops, indentation]

/-- Trimming leaves the indentation of a line with text. -/
theorem indentation_trimEnd (visible : blank line = false) : indentation (trimEnd line) = indentation line := by
  obtain ⟨removed, split, -⟩ := Text.dropEndWhile_prefix isBlank line
  conv_rhs => rw [split]
  exact (indentation_append_of_visible ((Text.blank_trimEnd line).trans visible) removed).symm

/-- The margin is the least indentation of a line with text. -/
theorem min?_indentation (mem : line ∈ lines) (visible : blank line = false) :
    ((lines.filter (!blank ·)).map indentation).min? = some (margin lines) := by
  have listed : indentation line ∈ (lines.filter (!blank ·)).map indentation :=
    List.mem_map_of_mem (List.mem_filter.mpr ⟨mem, by simp [visible]⟩)
  cases least : ((lines.filter (!blank ·)).map indentation).min? with
  | none => simp [List.min?_eq_none_iff.mp least] at listed
  | some width =>
    rw [margin, least]
    rfl

/-- The margin is no wider than the indentation of a line that shows. -/
theorem margin_le (mem : line ∈ lines) (visible : blank line = false) : margin lines ≤ indentation line :=
  (List.min?_eq_some_iff.mp (min?_indentation mem visible)).2 _
    (List.mem_map_of_mem (List.mem_filter.mpr ⟨mem, by simp [visible]⟩))

/-- If some line shows, one that does is indented by the margin. -/
theorem exists_indentation_eq_margin (mem : line ∈ lines) (visible : blank line = false) :
    ∃ other ∈ lines, blank other = false ∧ indentation other = margin lines := by
  obtain ⟨other, found, same⟩ := List.mem_map.mp (List.min?_eq_some_iff.mp (min?_indentation mem visible)).1
  obtain ⟨mem, shown⟩ := List.mem_filter.mp found
  exact ⟨other, mem, by simpa using shown, same⟩

/-- Spaces and tabs in front of every line widen the margin by so many. -/
theorem margin_map_append {front : Line} (marginal : ∀ c ∈ front, isMarginal c = true) (mem : line ∈ lines)
    (visible : blank line = false) : margin (lines.map (front ++ ·)) = front.length + margin lines := by
  have shows : ∀ other : Line, blank (front ++ other) = blank other := blank_append_of_marginal marginal
  apply Nat.le_antisymm
  · obtain ⟨other, found, shown, least⟩ := exists_indentation_eq_margin mem visible
    have below := margin_le (List.mem_map_of_mem found) ((shows other).trans shown)
    rw [indentation_append marginal, least] at below
    exact below
  · obtain ⟨moved, found, shown, least⟩ :=
      exists_indentation_eq_margin (List.mem_map_of_mem mem) ((shows line).trans visible)
    obtain ⟨other, mem, rfl⟩ := List.mem_map.mp found
    rw [← least, indentation_append marginal]
    exact Nat.add_le_add_left (margin_le mem ((shows other).symm.trans shown)) _

/-- Trimming lines leaves their margin as it is. -/
theorem margin_map_trimEnd (lines : List Line) : margin (lines.map trimEnd) = margin lines := by
  have shown : (lines.map trimEnd).filter (!blank ·) = (lines.filter (!blank ·)).map trimEnd := by
    rw [List.filter_map]
    congr 1
    refine List.filter_congr fun line _ => ?_
    rw [Function.comp_apply, Text.blank_trimEnd]
  rw [margin, margin, shown, List.map_map]
  congr 2
  refine List.map_congr_left fun line mem => indentation_trimEnd ?_
  simpa using (List.mem_filter.mp mem).2

/-- What is done to every line without making it blank or not does not change which lines are kept. -/
theorem core_map {change : Line → Line} (same : ∀ line, blank (change line) = blank line) (lines : List Line) :
    core (lines.map change) = (core lines).map change := by
  have test : blank ∘ change = blank := funext same
  rw [core, List.dropWhile_map, test, Text.dropEndWhile, ← List.map_reverse, List.dropWhile_map, test,
    ← List.map_reverse]
  rfl

/-- Blank lines around a template are not kept. -/
theorem core_append {before after : List Line} (blanks : ∀ line ∈ before ++ after, blank line = true)
    (lines : List Line) : core (before ++ lines ++ after) = core lines := by
  obtain ⟨above, below⟩ := List.forall_mem_append.mp blanks
  rw [core, core, List.append_assoc, List.dropWhile_append_of_pos above, List.dropWhile_append]
  split
  · rename_i nothing
    rw [List.isEmpty_iff] at nothing
    rw [nothing, List.dropWhile_eq_nil_iff.mpr below]
  · rw [Text.dropEndWhile, Text.dropEndWhile, List.reverse_append,
      List.dropWhile_append_of_pos fun line mem => below line (List.mem_reverse.mp mem)]

/-- The core of lines begins with a line that shows. -/
theorem starts_core (lines : List Line) : ∀ first ∈ (core lines).head?, blank first = false := by
  intro first found
  have stops := List.head?_dropWhile_not blank lines
  obtain ⟨rest, kept⟩ := List.head?_eq_some_iff.mp found
  obtain ⟨removed, split⟩ := List.rdropWhile_prefix blank (lines.dropWhile blank)
  rw [← Text.dropEndWhile_eq_rdropWhile, ← core, kept] at split
  rw [← split] at stops
  simpa using stops

/-- The core of lines brings no others. -/
theorem mem_of_mem_core (mem : line ∈ core lines) : line ∈ lines :=
  (List.dropWhile_sublist blank).subset ((List.rdropWhile_prefix blank _).subset mem)

/-- A line without its first characters and without the blanks at its end; nothing of a blank line. -/
def cleared (width : Nat) (line : Line) : Line := if blank line then [] else trimEnd (line.drop width)

/-- Lines without the blank ones around them and without their margin. -/
def dedentLines (lines : List Line) : List Line := (core lines).map (cleared (margin (core lines)))

/-- A template loses the margin of its lines. -/
theorem dedent_eq (template : List Char) : dedent template = dedentLines (Text.split template) := rfl

/-- A line may be trimmed before its margin is taken away. -/
theorem cleared_trimEnd (width : Nat) (line : Line) : cleared width (trimEnd line) = cleared width line := by
  rw [cleared, cleared, Text.blank_trimEnd, Text.trimEnd_drop, Text.trimEnd_drop, Text.trimEnd_trimEnd]

/-- A line without its margin has no blanks at its end. -/
theorem trimEnd_cleared (width : Nat) (line : Line) : trimEnd (cleared width line) = cleared width line := by
  rw [cleared]
  split
  · rfl
  · exact Text.trimEnd_trimEnd _

/-- A line without its margin is as blank as it was. -/
theorem blank_cleared {width : Nat} (inside : blank line = false → width ≤ indentation line) :
    blank (cleared width line) = blank line := by
  cases visible : blank line with
  | true =>
    rw [cleared, if_pos visible]
    rfl
  | false => rw [cleared, if_neg (by simp [visible]), Text.blank_trimEnd, blank_drop (inside visible), visible]

/-- A line without its margin is indented by the rest of its indentation. -/
theorem indentation_cleared {width : Nat} (visible : blank line = false) (inside : width ≤ indentation line) :
    indentation (cleared width line) = indentation line - width := by
  rw [cleared, if_neg (by simp [visible]), indentation_trimEnd ((blank_drop inside).trans visible),
    indentation_drop inside]

/-- Lines that differ in the blanks at their ends alone come out the same. -/
theorem dedentLines_congr {others : List Line} (same : lines.map trimEnd = others.map trimEnd) :
    dedentLines lines = dedentLines others := by
  have trimmed : ∀ lines : List Line, dedentLines (lines.map trimEnd) = dedentLines lines := fun lines => by
    rw [dedentLines, core_map Text.blank_trimEnd, margin_map_trimEnd, List.map_map, dedentLines]
    exact List.map_congr_left fun line _ => cleared_trimEnd _ line
  rw [← trimmed lines, same, trimmed]

/-- Blank lines around other lines are dropped. -/
theorem dedentLines_append {before after : List Line} (blanks : ∀ line ∈ before ++ after, blank line = true)
    (lines : List Line) : dedentLines (before ++ lines ++ after) = dedentLines lines := by
  rw [dedentLines, core_append blanks, dedentLines]

/-- Lines that are all moved by the same spaces and tabs come out the same. -/
theorem dedentLines_map_append {front : Line} (marginal : ∀ c ∈ front, isMarginal c = true) (lines : List Line) :
    dedentLines (lines.map (front ++ ·)) = dedentLines lines := by
  have shows : ∀ line : Line, blank (front ++ line) = blank line := blank_append_of_marginal marginal
  rw [dedentLines, core_map shows, dedentLines]
  cases kept : core lines with
  | nil => rfl
  | cons first rest =>
    have visible : blank first = false := starts_core lines first (by rw [kept]; rfl)
    rw [margin_map_append marginal List.mem_cons_self visible, List.map_map]
    refine List.map_congr_left fun line _ => ?_
    rw [Function.comp_apply, cleared, cleared, shows, List.drop_length_add_append]

/-- What comes out stands at the margin, if anything does. -/
theorem framed_dedentLines (kept : dedentLines lines ≠ []) : Framed (dedentLines lines) := by
  have inside : ∀ line ∈ core lines, blank line = false → margin (core lines) ≤ indentation line :=
    fun line mem visible => margin_le mem visible
  have shows : ∀ line ∈ core lines, blank (cleared (margin (core lines)) line) = blank line :=
    fun line mem => blank_cleared (inside line mem)
  have nonempty : core lines ≠ [] := fun nothing => kept (by rw [dedentLines, nothing]; rfl)
  refine ⟨?_, ?_, ?_⟩
  · intro first found
    rw [dedentLines, List.head?_map] at found
    obtain ⟨line, head, rfl⟩ := Option.map_eq_some_iff.mp found
    exact (shows line (List.mem_of_head? head)).trans (starts_core lines line head)
  · intro last found
    rw [dedentLines, List.getLast?_map] at found
    obtain ⟨line, tail, rfl⟩ := Option.map_eq_some_iff.mp found
    exact (shows line (List.mem_of_getLast? tail)).trans (Text.test_getLast?_dropEndWhile line tail)
  · obtain ⟨first, rest, whole⟩ := List.exists_cons_of_ne_nil nonempty
    have visible : blank first = false := starts_core lines first (by rw [whole]; rfl)
    have mem : first ∈ core lines := by rw [whole]; exact List.mem_cons_self
    obtain ⟨line, found, shown, least⟩ := exists_indentation_eq_margin mem visible
    refine ⟨_, List.mem_map_of_mem found, (shows line found).trans shown, ?_⟩
    rw [indentation_cleared shown (inside line found shown), least, Nat.sub_self]

/-- The lines of a template without its margin are single lines. -/
theorem newline_not_mem_dedent {template : List Char} (mem : line ∈ dedent template) : '\n' ∉ line := by
  obtain ⟨own, found, rfl⟩ := List.mem_map.mp mem
  have whole := Text.newline_not_mem_of_mem_split (mem_of_mem_core found)
  split
  · exact List.not_mem_nil
  · exact Text.newline_not_mem_trimEnd fun inside => whole (List.mem_of_mem_drop inside)

/-- The bytes that the spaces and tabs at the start of a line take up. -/
def byteIndentation (line : Line) : Nat :=
  (String.ofList line).utf8ByteSize - (String.ofList (line.dropWhile isMarginal)).utf8ByteSize

/-- The least number of bytes that a line with text is indented by. -/
def byteMargin (lines : List Line) : Nat := (((lines.filter (!blank ·)).map byteIndentation).min?).getD 0

/-- A line from a number of bytes on, without the blanks at its end, and nothing of a blank line; no line at all if it
cannot be sliced there. -/
def clearedSliced? (bytes : Nat) (line : Line) : Option Line :=
  if blank line then some []
  else (Text.sliceFrom? (String.ofList line) bytes).map fun rest => trimEnd rest.toList

/-- The lines of a template without the margin, which is sliced off by its number of bytes; nothing if a line cannot be
sliced there. -/
def dedentSliced? (template : List Char) : Option (List Line) :=
  let body := core (Text.sourceLines template)
  body.mapM (clearedSliced? (byteMargin body))

/-- Margin characters take one byte each. -/
theorem utf8ByteSize_of_marginal (marginal : ∀ c ∈ line, isMarginal c = true) :
    (String.ofList line).utf8ByteSize = line.length := by
  induction line with
  | nil => rfl
  | cons c rest ih =>
    obtain ⟨first, later⟩ := List.forall_mem_cons.mp marginal
    have single : c.utf8Size = 1 := by
      rw [isMarginal, Bool.or_eq_true, beq_iff_eq, beq_iff_eq] at first
      rcases first with rfl | rfl <;> rfl
    rw [String.ofList_cons, String.utf8ByteSize_append, String.utf8ByteSize_singleton, single, ih later,
      List.length_cons, Nat.add_comm]

/-- Counted in bytes, the indentation of a line is the same. -/
theorem byteIndentation_eq (line : Line) : byteIndentation line = indentation line := by
  have whole : (String.ofList line).utf8ByteSize =
      (line.takeWhile isMarginal).length + (String.ofList (line.dropWhile isMarginal)).utf8ByteSize := by
    conv_lhs => rw [← List.takeWhile_append_dropWhile (p := isMarginal) (l := line)]
    rw [String.ofList_append, String.utf8ByteSize_append, utf8ByteSize_of_marginal (marginal_takeWhile line)]
  rw [byteIndentation, whole, Nat.add_sub_cancel, indentation]

/-- Counted in bytes, the margin of lines is the same. -/
theorem byteMargin_eq (lines : List Line) : byteMargin lines = margin lines := by
  rw [byteMargin, margin, funext byteIndentation_eq]

/-- A line with text can be sliced at any number of bytes up to its indentation. -/
theorem clearedSliced?_of_le {width : Nat} (inside : blank line = false → width ≤ indentation line) :
    clearedSliced? width line = some (cleared width line) := by
  cases visible : blank line with
  | true => rw [clearedSliced?, cleared, if_pos visible, if_pos visible]
  | false =>
    obtain ⟨front, length, cut, marginal⟩ := exists_cut (inside visible)
    have whole : String.ofList line = String.ofList front ++ String.ofList (line.drop width) := by
      rw [← String.ofList_append, ← cut]
    have bytes : (String.ofList front).utf8ByteSize = width := by rw [utf8ByteSize_of_marginal marginal, length]
    have slice : Text.sliceFrom? (String.ofList line) width = some (String.ofList (line.drop width)) := by
      rw [whole, ← bytes]
      exact Text.sliceFrom?_append _ _
    rw [clearedSliced?, cleared, if_neg (by simp [visible]), if_neg (by simp [visible]), slice, Option.map_some,
      String.toList_ofList]

/-- The carriage returns before the newlines, and what follows the last newline if it is empty, play no part. -/
theorem dedentLines_sourceLines (text : List Char) :
    dedentLines (Text.sourceLines text) = dedentLines (Text.split text) := by
  obtain ⟨before, last, pieces⟩ := (List.eq_nil_or_concat (Text.split text)).resolve_left (Text.split_ne_nil text)
  have returns : ∀ after : List Line,
      dedentLines (before.map Text.withoutReturn ++ after) = dedentLines (before ++ after) := fun after => by
    apply dedentLines_congr
    rw [List.map_append, List.map_append, List.map_map]
    congr 1
    exact List.map_congr_left fun line _ => Text.trimEnd_withoutReturn line
  rw [Text.sourceLines, pieces, List.concat_eq_append, List.dropLast_concat, List.getLast?_concat, returns]
  cases last with
  | nil =>
    have blanks : ∀ line ∈ [] ++ [([] : Line)], blank line = true := by simp [blank]
    have padded := dedentLines_append blanks before
    simpa using padded.symm
  | cons c rest => rfl

/-- A partial function that is defined on all items maps the list as the total one does. -/
theorem mapM_eq_some {Item Result : Type} {items : List Item} {partly : Item → Option Result} {total : Item → Result}
    (all : ∀ item ∈ items, partly item = some (total item)) : items.mapM partly = some (items.map total) := by
  induction items with
  | nil => rfl
  | cons item rest ih =>
    obtain ⟨first, later⟩ := List.forall_mem_cons.mp all
    rw [List.mapM_cons, first, ih later]
    rfl

/-- Slicing off the margin by bytes never fails, and gives the lines of the template. -/
theorem dedentSliced?_eq (template : List Char) : dedentSliced? template = some (dedent template) := by
  rw [dedent_eq, ← dedentLines_sourceLines, dedentLines, dedentSliced?, byteMargin_eq]
  exact mapM_eq_some fun line mem => clearedSliced?_of_le fun visible => margin_le mem visible

/-- Whether a line is another one with more blanks behind its text. -/
def Trailed (line longer : Line) : Prop :=
  ∃ text behind more, line = text ++ behind ∧ longer = text ++ more ++ behind ∧ blank behind = true ∧
    blank more = true ∧ '\n' ∉ more

/-- Whether a template is another one laid out otherwise: all lines moved by the same spaces and tabs, blank lines
before and after it, or more blanks at the ends of lines. -/
inductive Restyled (template : List Char) : List Char → Prop
  | moved {front : Line} (marginal : ∀ c ∈ front, isMarginal c = true) :
      Restyled template (Text.join ((Text.split template).map (front ++ ·)))
  | padded {before after : List Line} (blanks : ∀ line ∈ before ++ after, blank line = true)
      (whole : ∀ line ∈ before ++ after, '\n' ∉ line) :
      Restyled template (Text.join (before ++ Text.split template ++ after))
  | trailed {longer : List Line} (trailed : List.Forall₂ Trailed (Text.split template) longer) :
      Restyled template (Text.join longer)

/-- Blanks that trail a line are trimmed. -/
theorem Trailed.trimEnd_eq {longer : Line} (trailed : Trailed line longer) : trimEnd longer = trimEnd line := by
  obtain ⟨text, behind, more, rfl, rfl, behindBlank, moreBlank, -⟩ := trailed
  rw [Text.trimEnd_append_of_blank _ behindBlank, Text.trimEnd_append_of_blank _ moreBlank,
    Text.trimEnd_append_of_blank _ behindBlank]

/-- Blanks that trail a single line leave it a single line. -/
theorem Trailed.newline_not_mem {longer : Line} (trailed : Trailed line longer) (whole : '\n' ∉ line) :
    '\n' ∉ longer := by
  obtain ⟨text, behind, more, rfl, rfl, -, -, single⟩ := trailed
  simp_all

/-- Lines with trailing blanks are trimmed to the same single lines. -/
theorem trailed_lines {longer : List Line} (trailed : List.Forall₂ Trailed lines longer)
    (whole : ∀ line ∈ lines, '\n' ∉ line) :
    longer.map trimEnd = lines.map trimEnd ∧ ∀ line ∈ longer, '\n' ∉ line := by
  induction trailed with
  | nil => exact ⟨rfl, whole⟩
  | cons first _ ih =>
    obtain ⟨single, others⟩ := List.forall_mem_cons.mp whole
    obtain ⟨same, all⟩ := ih others
    rw [List.map_cons, List.map_cons, first.trimEnd_eq, same]
    exact ⟨rfl, List.forall_mem_cons.mpr ⟨first.newline_not_mem single, all⟩⟩

/-- A text of single lines loses the margin of these lines. -/
theorem dedent_join {lines : List Line} (nonempty : lines ≠ []) (whole : ∀ line ∈ lines, '\n' ∉ line) :
    dedent (Text.join lines) = dedentLines lines := by
  rw [dedent_eq, Text.split_join nonempty whole]

/-- A template that is laid out otherwise has the same lines. -/
theorem Restyled.dedent_eq {template other : List Char} (restyled : Restyled template other) :
    dedent other = dedent template := by
  have pieces := Text.split_ne_nil template
  have whole : ∀ line ∈ Text.split template, '\n' ∉ line := fun _ => Text.newline_not_mem_of_mem_split
  cases restyled with
  | @moved front marginal =>
    have single : '\n' ∉ front := fun mem => absurd (marginal _ mem) (by decide)
    rw [dedent_join (by simpa using pieces) (List.forall_mem_map.mpr fun line mem => by simp [single, whole line mem]),
      dedentLines_map_append marginal, Template.dedent_eq]
  | @padded before after blanks single =>
    obtain ⟨above, below⟩ := List.forall_mem_append.mp single
    have all : ∀ line ∈ before ++ Text.split template ++ after, '\n' ∉ line :=
      List.forall_mem_append.mpr ⟨List.forall_mem_append.mpr ⟨above, whole⟩, below⟩
    rw [dedent_join (by simp [pieces]) all, dedentLines_append blanks, Template.dedent_eq]
  | @trailed longer trailed =>
    obtain ⟨same, all⟩ := trailed_lines trailed whole
    have nonempty : longer ≠ [] := by
      rintro rfl
      exact pieces (List.map_eq_nil_iff.mp same.symm)
    rw [dedent_join nonempty all, dedentLines_congr same, Template.dedent_eq]

/-- Taking the margin off a template never slices a line past its end or inside a character, also where the lines end
with carriage returns. What is left is nothing, or it begins and ends with text and some line of it stands at the
margin; no line ends with blanks, and there is no margin left to take off. However else the template is laid out, the
same is left. -/
theorem dedent_canonical (template : List Char) :
    dedentSliced? template = some (dedent template) ∧
      (dedent template = [] ∨ Framed (dedent template)) ∧
      (∀ line ∈ dedent template, trimEnd line = line) ∧
      dedent (Text.join (dedent template)) = dedent template ∧
      ∀ other, Restyled template other → dedent other = dedent template := by
  have trimmed : ∀ line ∈ dedent template, trimEnd line = line := by
    intro line mem
    obtain ⟨own, -, rfl⟩ := List.mem_map.mp mem
    exact trimEnd_cleared _ own
  have framed : dedent template = [] ∨ Framed (dedent template) := by
    by_cases empty : dedent template = []
    · exact .inl empty
    · exact .inr (framed_dedentLines empty)
  refine ⟨dedentSliced?_eq template, framed, trimmed, ?_, fun other restyled => restyled.dedent_eq⟩
  rcases framed with empty | framed
  · rw [empty]
    rfl
  · rw [framed.dedent_join fun line mem => newline_not_mem_dedent mem]
    exact (List.map_congr_left trimmed).trans (List.map_id' _)

/-- A tab counts as much as a space, and other blanks are text unless they end a line. -/
example : dedent "\n \t\u2003fn a()\r\n\t  \tb \u3000\n\n \tc\u00a0\n\u2003".toList =
    ["\u2003fn a()".toList, " \tb".toList, [], ['c']] := by
  decide

end Template

end Cratewright
