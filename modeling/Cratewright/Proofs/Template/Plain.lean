import Cratewright.Template.Assignment
import Cratewright.Proofs.Template.Scanning
import Cratewright.Proofs.Text.Lines

/-!
# Templates at the margin

A template that starts and ends with text, some of it at the margin, is its own lines but for the blanks at their ends,
by `Framed.dedent_join`; and a line without `#` is one literal. So such a template is read off line by line, whatever
text stands in it.
-/

namespace Cratewright.Template

open Text (Line blank trimEnd)

/-- A line without `#` is one literal. -/
theorem segments_of_hash_not_mem {line : Line} (nonempty : line ≠ []) (plain : '#' ∉ line) :
    segments line = .ok [.literal line] := by
  have begins : Begins (line ++ []) (.literal line) [] := .run nonempty plain nofun
  rw [List.append_nil] at begins
  exact scan_eq_ok_cons_iff.mpr ⟨[], begins, scan_eq_ok_nil_iff.mpr rfl⟩

/-- Whether lines stand at the margin as they are: the first and the last have text, and some line with text begins with
neither a space nor a tab. -/
structure Framed (lines : List Line) : Prop where
  starts : ∀ first ∈ lines.head?, blank first = false
  ends : ∀ last ∈ lines.getLast?, blank last = false
  flush : ∃ line ∈ lines, blank line = false ∧ indentation line = 0

namespace Framed

variable {lines : List Line}

/-- Lines of which one stands at the margin have no margin in common. -/
theorem margin_eq_zero (framed : Framed lines) : margin lines = 0 := by
  obtain ⟨line, mem, visible, flush⟩ := framed.flush
  have listed : 0 ∈ (lines.filter (!blank ·)).map indentation :=
    List.mem_map.mpr ⟨line, by simp [mem, visible], flush⟩
  cases least : ((lines.filter (!blank ·)).map indentation).min? with
  | none =>
    rw [margin, least]
    rfl
  | some width =>
    rw [margin, least]
    exact Nat.le_zero.mp ((List.min?_eq_some_iff.mp least).2 0 listed)

/-- Between two lines with text all lines are kept. -/
theorem core_eq (framed : Framed lines) : core lines = lines := by
  have start : lines.dropWhile blank = lines := by
    cases lines with
    | nil => rfl
    | cons first rest => exact List.dropWhile_cons_of_neg (by simp [framed.starts first rfl])
  rw [core, start, Text.dropEndWhile_eq_rdropWhile, List.rdropWhile_eq_self_iff]
  intro nonempty
  simpa using framed.ends _ (List.getLast?_eq_getLast_of_ne_nil nonempty)

/-- A template of lines that stand at the margin consists of these lines, but for the blanks at their ends. -/
theorem dedent_join (framed : Framed lines) (whole : ∀ line ∈ lines, '\n' ∉ line) :
    dedent (Text.join lines) = lines.map trimEnd := by
  have trimmed : ∀ line : Line, (if blank line then [] else trimEnd (line.drop 0)) = trimEnd line := by
    intro line
    split
    · rename_i empty
      exact (Text.trimEnd_eq_nil_iff.mpr empty).symm
    · rfl
  have nonempty : lines ≠ [] := by
    rintro rfl
    obtain ⟨line, mem, -⟩ := framed.flush
    cases mem
  simp only [dedent, Text.split_join nonempty whole, framed.core_eq, framed.margin_eq_zero, trimmed]

end Framed

variable {Value : Type}

/-- The template that closes a block is one line of text. -/
theorem assign_closing :
    assign "\x7d" (.ofList ([] : List Value)) = ⟨[⟨[], [.text ['\x7d']]⟩], none⟩ := by
  have lines : dedent "\x7d".toList = [['\x7d']] := by decide
  have closing : segments ['\x7d'] = .ok [.literal ['\x7d']] := by decide +kernel
  rw [assign, lines, assignLines, closing]
  rfl

/-- The template for one value is a line with nothing else. -/
theorem assign_alone (value : Value) :
    assign "#T" (.ofList [value]) = ⟨[⟨[], [.value value]⟩], none⟩ := by
  have lines : dedent "#T".toList = [['#', 'T']] := by decide
  have slot : segments ['#', 'T'] = .ok [.positional] := by decide +kernel
  rw [assign, lines, assignLines, slot]
  rfl

end Cratewright.Template
