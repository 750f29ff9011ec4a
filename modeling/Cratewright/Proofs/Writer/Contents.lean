import Cratewright.Proofs.Writer.Withholding

/-!
# What a module holds while it is written

Text reaches a module through `Writer.emit` alone, which lays out every line. So whatever an operation does, failing or
not, the lines of the module are the lines it had and then tidy ones. Main statement: at any moment of a run the source
is empty or ends with a newline, no line of it ends with a blank, and the operation that comes next only appends.
-/

namespace Cratewright

open Text (Line blank isBlank)
open Template (Arguments)

namespace Text

/-- Whether a text is a sequence of finished lines without blanks at their ends. -/
structure Neat (text : String) : Prop where
  finished : text = "" ∨ text.toList.getLast? = some '\n'
  trimmed : ∀ line ∈ split text.toList, ∀ last ∈ line.getLast?, isBlank last = false
  cleared : ∀ line ∈ split text.toList, blank line = true → line = []

/-- An empty line at the end terminates the lines before it. -/
theorem join_concat_nil (lines : List Line) : join (lines ++ [[]]) = terminated lines := by
  induction lines with
  | nil => rfl
  | cons line rest ih =>
    cases rest with
    | nil => simp [join, terminated]
    | cons next others =>
      rw [List.cons_append, List.cons_append, join_cons_cons, ← List.cons_append, ih]
      simp [terminated]

/-- Terminated lines are cut into the same lines and what follows the last newline, which is nothing. -/
theorem split_terminated {lines : List Line} (whole : ∀ line ∈ lines, '\n' ∉ line) :
    split (terminated lines) = lines ++ [[]] := by
  rw [← join_concat_nil]
  refine split_join (by simp) fun line mem => ?_
  rcases List.mem_append.mp mem with listed | last
  · exact whole line listed
  · simp [List.mem_singleton.mp last]

/-- Terminated lines without blanks at their ends are neat. -/
theorem neat_terminated {lines : List Line} (tidy : ∀ line ∈ lines, Tidy line) :
    Neat (String.ofList (terminated lines)) where
  finished := by
    rcases List.eq_nil_or_concat lines with rfl | ⟨before, last, rfl⟩
    · exact .inl rfl
    · right
      rw [String.toList_ofList, List.concat_eq_append, terminated_append]
      simp [terminated]
  trimmed := by
    rw [String.toList_ofList, split_terminated fun line mem => (tidy line mem).whole]
    intro line mem last found
    rcases List.mem_append.mp mem with listed | empty
    · rw [← (tidy line listed).trimmed] at found
      exact test_getLast?_dropEndWhile last found
    · rw [List.mem_singleton.mp empty] at found
      cases found
  cleared := by
    rw [String.toList_ofList, split_terminated fun line mem => (tidy line mem).whole]
    intro line mem nothing
    rcases List.mem_append.mp mem with listed | empty
    · rw [← (tidy line listed).trimmed, trimEnd_eq_nil_iff.mpr nothing]
    · exact List.mem_singleton.mp empty

end Text

namespace Writer

section

variable {property : Writer → Prop}

/-- An action that at most gains keeps what a gain keeps. -/
theorem keeps_of_gains {Value : Type} {action : Writing Value}
    (kept : ∀ {writer after}, Gains writer after → property writer → property after)
    (gains : ∀ base : Writer, Keeps (Gains base) action) : Keeps property action :=
  fun writer held => kept (gains writer writer (.refl writer)) held

/-- Writing a template keeps what its lines and a gain keep: no argument writes to the module by itself. -/
theorem keeps_write_of_gains (emits : ∀ texts, Keeps property (emitAll texts))
    (kept : ∀ {writer after}, Gains writer after → property writer → property after) (template : String)
    (arguments : List Argument) : Keeps property (render template (.ofList (fillers arguments))) := by
  refine keeps_render_of_emitAll template emits (Arguments.all_ofList ?_)
  rw [fillers_eq_map]
  exact List.forall_mem_map.mpr fun argument _ leading =>
    keeps_of_gains kept fun _ => argument.keeps_gains_filler leading

/-- Writing a template by name keeps a property that gaining dependencies and emitting texts keep. -/
theorem keeps_writeNamed_of_gains (emits : ∀ texts, Keeps property (emitAll texts))
    (kept : ∀ {writer after}, Gains writer after → property writer → property after) (template : String)
    (arguments : List (String × Argument)) :
    Keeps property (render template (.ofPairs (namedFillers arguments))) := by
  refine keeps_render_of_emitAll template emits (Arguments.all_ofPairs ?_)
  rw [namedFillers_eq_map]
  exact List.forall_mem_map.mpr fun pair _ leading =>
    keeps_of_gains kept fun _ => pair.2.keeps_gains_filler leading

end

/-- Whether a module has the given lines and then only tidy ones. -/
def Extends (lines : List Line) (writer : Writer) : Prop :=
  ∃ added, writer.lines = lines ++ added ∧ ∀ line ∈ added, Text.Tidy line

variable {lines : List Line}

/-- A writer extends its own lines. -/
theorem extends_refl (writer : Writer) : Extends writer.lines writer := ⟨[], by simp, nofun⟩

/-- Emitting texts keeps what the writer extends. -/
theorem keeps_extends_emitAll (texts : List (List Char)) : Keeps (Extends lines) (emitAll texts) := by
  rintro writer ⟨added, written, tidy⟩
  rw [emitAll_apply]
  refine ⟨added ++ (texts.flatMap Text.split).map (layOut writer.level), ?_, ?_⟩
  · rw [← List.append_assoc, ← written]
    rfl
  · intro line mem
    rcases List.mem_append.mp mem with before | new
    · exact tidy line before
    · obtain ⟨part, cut, rfl⟩ := List.mem_map.mp new
      obtain ⟨text, -, found⟩ := List.mem_flatMap.mp cut
      exact tidy_layOut (Text.newline_not_mem_of_mem_split found)

/-- A gain does not write to the module. -/
theorem extends_of_gains {writer after : Writer} (gains : Gains writer after) (held : Extends lines writer) :
    Extends lines after := by
  rw [gains.same]
  exact held

/-- Writing a template keeps what the writer extends. -/
theorem keeps_extends_write (template : String) (arguments : List Argument) :
    Keeps (Extends lines) (render template (.ofList (fillers arguments))) :=
  keeps_write_of_gains keeps_extends_emitAll extends_of_gains template arguments

/-- Writing a template with named arguments keeps what the writer extends. -/
theorem keeps_extends_writeNamed (template : String) (arguments : List (String × Argument)) :
    Keeps (Extends lines) (render template (.ofPairs (namedFillers arguments))) :=
  keeps_writeNamed_of_gains keeps_extends_emitAll extends_of_gains template arguments

end Writer

open Writer

mutual

/-- An operation adds tidy lines. -/
theorem Op.keeps_extends {lines : List Line} : ∀ operation : Op, Keeps (Extends lines) operation.run
  | .write template arguments => by
    rw [Op.run]
    exact keeps_extends_write template arguments
  | .writeNamed template arguments => by
    rw [Op.run]
    exact keeps_extends_writeNamed template arguments
  | .block header arguments body => by
    rw [Op.run]
    exact .bind (keeps_extends_write _ arguments) fun _ => .bind (.modify fun _ held => held) fun _ =>
      .bind (keeps_extends_runAll body) fun _ => .bind (.modify fun _ held => held) fun _ =>
      keeps_extends_write _ []
  | .indent levels => by
    rw [Op.run]
    exact .modify fun _ held => held
  | .dedent levels => by
    rw [Op.run]
    exact .modify fun _ held => held
  | .resolve target => by
    rw [Op.run]
    exact .bind (keeps_of_gains extends_of_gains fun _ => target.keeps_gains_resolve) fun _ => .pure _
  | .register dependency => by
    rw [Op.run]
    exact keeps_of_gains extends_of_gains fun _ => keeps_gains_register dependency
  | .insert .empty => by
    rw [Op.run, Writable.run]
    exact .pure _
  | .insert (.program operations) => by
    rw [Op.run, Writable.run]
    exact keeps_extends_runAll operations
  | .fail error => by
    rw [Op.run]
    exact .throw _

/-- A program adds tidy lines. -/
theorem keeps_extends_runAll {lines : List Line} : ∀ operations : List Op, Keeps (Extends lines) (runAll operations)
  | [] => by
    rw [runAll]
    exact .pure _
  | operation :: rest => by
    rw [runAll]
    exact .bind (Op.keeps_extends operation) fun _ => keeps_extends_runAll rest

end

/-- Whether a run of operations from one writer comes to an operation with another. What runs next may follow a
failure, as when a caller passes over it, and the operation may be in a block or in something inserted. -/
inductive Performs : Program → Writer → Op → Writer → Prop where
  | first {operation rest writer} : Performs (operation :: rest) writer operation writer
  | next {operation rest writer later before}
      (onward : Performs rest (stateAfter (operation.run writer)) later before) :
      Performs (operation :: rest) writer later before
  | body {header arguments body rest writer opened later before}
      (opens : (render (header ++ " \x7b") (.ofList (fillers arguments)) >>= fun _ => indentBy 1) writer = .ok () opened)
      (inside : Performs body opened later before) :
      Performs (.block header arguments body :: rest) writer later before
  | inserted {operations rest writer later before} (inside : Performs operations writer later before) :
      Performs (.insert (.program operations) :: rest) writer later before

/-- A run adds tidy lines up to each operation. -/
theorem Performs.keeps_extends {lines : List Line} {program : Program} {writer before : Writer} {operation : Op}
    (performs : Performs program writer operation before) (held : Extends lines writer) : Extends lines before := by
  induction performs with
  | first => exact held
  | @next operation _ writer _ _ _ ih => exact ih (operation.keeps_extends writer held)
  | @body header arguments _ _ writer _ _ _ opens _ ih =>
    have kept : Keeps (Extends lines) (render (header ++ " \x7b") (.ofList (fillers arguments)) >>= fun _ =>
        indentBy 1) := .bind (keeps_extends_write _ arguments) fun _ => .modify fun _ held => held
    have after := kept writer held
    rw [opens] at after
    exact ih after
  | inserted _ ih => exact ih held

namespace Writer

/-- A writer that extends nothing has neat contents. -/
theorem neat_contents {writer : Writer} (held : Extends [] writer) : Text.Neat writer.contents := by
  obtain ⟨added, written, tidy⟩ := held
  rw [contents, written]
  exact Text.neat_terminated tidy

/-- A writer that extends another one has the contents of the other one and what it has added. -/
theorem exists_contents_append {writer after : Writer} (held : Extends writer.lines after) :
    ∃ added, after.contents = writer.contents ++ added := by
  obtain ⟨added, written, -⟩ := held
  refine ⟨String.ofList (Text.terminated added), ?_⟩
  rw [contents, contents, written, Text.terminated_append, String.ofList_append]

end Writer

/-- At every operation of a run, the source is neat before and after it, and the operation has only appended. -/
theorem neat_of_performs {config : RuntimeConfig} {modulePath : String} {program : Program} {operation : Op}
    {before : Writer} (performs : Performs program (Writer.new config modulePath) operation before) :
    Text.Neat before.contents ∧ Text.Neat (stateAfter (operation.run before)).contents ∧
      ∃ added, (stateAfter (operation.run before)).contents = before.contents ++ added := by
  have held : Extends [] before := performs.keeps_extends (extends_refl (Writer.new config modulePath))
  exact ⟨neat_contents held, neat_contents (operation.keeps_extends before held),
    exists_contents_append (operation.keeps_extends before (extends_refl before))⟩

/-- The last operation of a run with many kinds of blanks, which leads a line and ends it with blanks. -/
def lastBlanks : Op := .write "\u2003three \r\u3000" []

/-- A run with failures on the way, in the module and in a block. -/
def blankProgram : Program := [
  .write "one \t\r\n\u2003\n  #T\u00a0" [.text "two\u3000\n \u2028"],
  .fail (.template (.raised "")),
  .block "four\u0085" [] [.writeNamed "#\x7bmissing\x7d" [], .insert (.program [lastBlanks])]
]

/-- A program of odd blanks, whose contents are neat before and after its last operation. -/
theorem neat_blankProgram :
    ∃ before, Performs blankProgram (Writer.new {} "crate") lastBlanks before ∧
      before.contents = "one\n\n  two\n\nfour\u0085 \x7b\n" ∧
      (stateAfter (lastBlanks.run before)).contents =
        "one\n\n  two\n\nfour\u0085 \x7b\n    \u2003three\n" ∧
      Text.Neat before.contents ∧ Text.Neat (stateAfter (lastBlanks.run before)).contents := by
  have performs : Performs blankProgram (Writer.new {} "crate") lastBlanks _ :=
    .next (.next (.body (Action.apply_of_succeeds (by decide +kernel)) (.next (.inserted .first))))
  obtain ⟨neat, neatAfter, -⟩ := neat_of_performs performs
  exact ⟨_, performs, by decide +kernel, by decide +kernel, neat, neatAfter⟩

end Cratewright
