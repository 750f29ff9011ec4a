import Cratewright.Proofs.Program.Flat
import Cratewright.Proofs.Program.Shift
import Cratewright.Proofs.Template.Plain

/-!
# Inserting and filling in

A writable is inserted at the level of a writer, or it is filled in, which runs it at the left margin of a child writer
and lays out the lines of the child again. Main statement: the two write the same, and so do a block and the template of
its lines, for a writable that never dedents below the level at which it starts and ends there and with text.
-/

namespace Cratewright

open Text (Line blank)
open Template (Arguments AssignedLine Piece)

/-- Whether a header is one line of plain text at the margin. -/
structure PlainHeader (header : String) : Prop where
  visible : blank header.toList = false
  literal : '#' ∉ header.toList
  whole : '\n' ∉ header.toList
  flush : Template.indentation header.toList = 0

namespace PlainHeader

variable {header : String}

/-- The line that opens a block. -/
def opening (header : String) : Line := header.toList ++ [' ', '\x7b']

/-- The first line of a block is not blank. -/
theorem blank_opening (header : String) : blank (opening header) = false := by
  rw [opening, Text.blank_append]
  simp [blank, Text.isBlank]

/-- The first line of a block ends in a brace, so nothing is trimmed from it. -/
theorem trimEnd_opening (header : String) : Text.trimEnd (opening header) = opening header :=
  Text.trimEnd_append (by decide)

/-- The first line of a block is one line if the header is. -/
theorem newline_not_mem_opening (plain : PlainHeader header) : '\n' ∉ opening header := by
  simp [opening, plain.whole]

/-- The first line of a block is its only one. -/
theorem split_opening (plain : PlainHeader header) : Text.split (opening header) = [opening header] := by
  have whole : ∀ line ∈ [opening header], '\n' ∉ line := by simpa using plain.newline_not_mem_opening
  exact Text.split_join (List.cons_ne_nil _ _) whole

/-- The first line of a block is not indented. -/
theorem indentation_opening (plain : PlainHeader header) : Template.indentation (opening header) = 0 := by
  have flush := plain.flush
  have visible := plain.visible
  rw [opening]
  cases text : header.toList with
  | nil => simp [text, blank] at visible
  | cons c rest =>
    rw [text] at flush
    simp only [Template.indentation, List.takeWhile_cons, List.cons_append] at flush ⊢
    split at flush <;> simp_all

/-- A plain header takes no arguments. -/
theorem segments_opening (plain : PlainHeader header) :
    Template.segments (opening header) = .ok [.literal (opening header)] :=
  Template.segments_of_hash_not_mem (by simp [opening]) (by simp [opening, plain.literal])

/-- A template that starts with the line that opens a block has no margin. -/
theorem dedent_join (plain : PlainHeader header) {rest : List Line} (whole : ∀ line ∈ rest, '\n' ∉ line)
    (ends : ∀ last ∈ rest.getLast?, blank last = false) :
    Template.dedent (Text.join (opening header :: rest)) = opening header :: rest.map Text.trimEnd := by
  have ends_all : ∀ last ∈ (opening header :: rest).getLast?, blank last = false := by
    intro last found
    rw [List.getLast?_cons] at found
    cases lastOfRest : rest.getLast? with
    | none =>
      rw [lastOfRest] at found
      cases found
      exact blank_opening header
    | some other =>
      rw [lastOfRest] at found
      cases found
      exact ends _ lastOfRest
  have framed : Template.Framed (opening header :: rest) :=
    { starts := by simp [blank_opening]
      ends := ends_all
      flush := ⟨_, List.mem_cons_self, blank_opening header, plain.indentation_opening⟩ }
  rw [framed.dedent_join (List.forall_mem_cons.mpr ⟨plain.newline_not_mem_opening, whole⟩), List.map_cons,
    trimEnd_opening]

/-- The template that opens a block is one line of text. -/
theorem assign_opening {Value : Type} (plain : PlainHeader header) :
    Template.assign (header ++ " \x7b") (.ofList ([] : List Value)) =
      ⟨[⟨Text.lead (opening header), [.text (opening header)]⟩], none⟩ := by
  have text : (header ++ " \x7b").toList = Text.join [opening header] := String.toList_append
  rw [Template.assign, text, plain.dedent_join (by simp) (by simp), List.map_nil, Template.assignLines,
    plain.segments_opening]
  rfl

/-- The template of a block around one value has a line for the value between two lines of text. -/
theorem assign_enclosing {Value : Type} (plain : PlainHeader header) (value : Value) :
    Template.assign (header ++ " \x7b\n    #T\n\x7d") (.ofList [value]) =
      ⟨[⟨Text.lead (opening header), [.text (opening header)]⟩, ⟨Writer.indent, [.text Writer.indent, .value value]⟩,
        ⟨[], [.text ['\x7d']]⟩], none⟩ := by
  have text : (header ++ " \x7b\n    #T\n\x7d").toList =
      Text.join [opening header, Writer.indent ++ ['#', 'T'], ['\x7d']] := by
    rw [String.toList_append]
    simp [Text.join, opening, Writer.indent]
  have slot : Template.segments (Writer.indent ++ ['#', 'T']) = .ok [.literal Writer.indent, .positional] := by
    decide +kernel
  have closing : Template.segments ['\x7d'] = .ok [.literal ['\x7d']] := by decide +kernel
  have trimmed : [Writer.indent ++ ['#', 'T'], ['\x7d']].map Text.trimEnd =
      [Writer.indent ++ ['#', 'T'], ['\x7d']] := by decide
  rw [Template.assign, text, plain.dedent_join (by decide) (by decide), trimmed, Template.assignLines,
    plain.segments_opening]
  simp only [Template.assignSegments, Template.assignLines, slot, closing]
  rfl

end PlainHeader

namespace Writer

variable {header template : String} {arguments : Arguments Filler} {filler : Filler} {leading text : Line}
  {line : AssignedLine Filler} {others : List (AssignedLine Filler)} {texts : List (List Char)} {lines : List Line}
  {writer between filled : Writer}

/-- The writer in the body of a block. -/
def opened (writer : Writer) (header : String) : Writer :=
  { writer.appended [PlainHeader.opening header] with level := writer.level + 1 }

/-- A text is filled in as it stands. -/
theorem fill_text (leading text : Line) (writer : Writer) : fill leading [.text text] writer = .ok text writer := by
  rw [fill_text_apply]
  exact congrArg (EStateM.Result.ok · writer) (List.append_nil text)

/-- A line with one value is what is filled in for it. -/
theorem fill_value (run : filler leading writer = .ok text filled) :
    fill leading [.value filler] writer = .ok text filled := by
  rw [fill_value_apply, run]
  exact congrArg (EStateM.Result.ok · filled) (List.append_nil text)

/-- Lines are filled in one after another, the first one without the lines behind it. -/
theorem fillLines_cons (run : fill line.leading line.pieces writer = .ok text between)
    (onward : fillLines others between = .ok texts filled) :
    fillLines (line :: others) writer = .ok (keptLine line text ++ texts) filled := by
  rw [fillLines_cons_apply, run]
  simp only [onward]

/-- A template whose lines are filled in appends what they are cut into. -/
theorem render_of_fillLines (assigned : Template.assign template arguments = ⟨others, none⟩)
    (run : fillLines others writer = .ok texts filled) (spread : texts.flatMap Text.split = lines) :
    render template arguments writer = .ok () (filled.appended lines) := by
  rw [render_apply, assigned]
  simp only [run, spread]

/-- A line with a text of its own is kept. -/
theorem keptLine_text (leading part text : Line) : keptLine ⟨leading, [.text part]⟩ text = [text] := rfl

/-- A line with nothing but a value is kept unless what is filled in is blank. -/
theorem keptLine_value (leading text : Line) :
    keptLine ⟨leading, [.value filler]⟩ text = if blank text then [] else [text] :=
  rfl

/-- A line with a text and a value is kept unless all of it is blank. -/
theorem keptLine_text_value (leading part text : Line) :
    keptLine ⟨leading, [.text part, .value filler]⟩ text = if blank text then [] else [text] := rfl

/-- The line that opens a block is written as it stands. -/
theorem render_opening (plain : PlainHeader header) (writer : Writer) :
    render (header ++ " \x7b") (.ofList []) writer = .ok () (writer.appended [PlainHeader.opening header]) :=
  render_of_fillLines plain.assign_opening (fillLines_cons (fill_text _ _ writer) rfl)
    (by rw [keptLine_text, List.append_nil, List.flatMap_singleton, plain.split_opening])

/-- The line that closes a block is written as it stands. -/
theorem render_closing (writer : Writer) :
    render "\x7d" (.ofList []) writer = .ok () (writer.appended [['\x7d']]) :=
  render_of_fillLines Template.assign_closing (fillLines_cons (fill_text _ _ writer) rfl) rfl

/-- A value alone in a template is written line by line. -/
theorem render_alone (run : filler [] writer = .ok (Text.hang [] (Text.join lines)) filled)
    (whole : ∀ line ∈ lines, '\n' ∉ line) (visible : ∀ line ∈ lines.getLast?, blank line = false) :
    render "#T" (.ofList [filler]) writer = .ok () (filled.appended lines) := by
  have spread := split_slot [] rfl whole (by simp) visible
  refine render_of_fillLines (Template.assign_alone filler) (fillLines_cons (fill_value run) rfl) ?_
  rw [keptLine_value, List.append_nil]
  simpa using spread

/-- A value between the lines of a block is written line by line, one level deeper than they are. -/
theorem render_enclosing (plain : PlainHeader header)
    (run : filler indent writer = .ok (Text.hang indent (Text.join lines)) filled)
    (whole : ∀ line ∈ lines, '\n' ∉ line) (visible : ∀ line ∈ lines.getLast?, blank line = false) :
    render (header ++ " \x7b\n    #T\n\x7d") (.ofList [filler]) writer =
      .ok () (filled.appended (PlainHeader.opening header :: (lines.map (indent ++ ·) ++ [['\x7d']]))) := by
  have slot : fill indent [.text indent, .value filler] writer =
      .ok (indent ++ Text.hang indent (Text.join lines)) filled := by
    rw [fill_text_apply, fill_value run]
  have spread := split_slot indent (by decide) whole (by decide) visible
  refine render_of_fillLines (plain.assign_enclosing filler)
    (fillLines_cons (fill_text _ _ writer) (fillLines_cons slot (fillLines_cons (fill_text _ _ filled) rfl))) ?_
  rw [keptLine_text, keptLine_text_value, keptLine_text, List.append_nil, List.flatMap_append, List.flatMap_append,
    List.flatMap_singleton, plain.split_opening, spread]
  rfl

end Writer

section

variable {family : Family} {config : RuntimeConfig} {modulePath : String}

/-- Coherent manifests of which the second says no more than the first. -/
def Family.lesser (family : Family) : Bond where
  Linked one other := family.Coherent one ∧ family.Coherent other ∧ other.needs ⊆ one.needs
  Admits := family.Holds
  linked_empty := ⟨family.coherent_empty, family.coherent_empty, subset_rfl⟩
  register := by
    rintro dependency one other changed after held ⟨coherent, coherentOther, lesser⟩ run
    have needs := coherent.needs_of_register held run
    have keepsAfter := Family.keeps_coherent_register held one coherent
    rw [run] at keepsAfter
    have together : other.needs ∪ dependency.needs ⊆ after.needs :=
      needs ▸ Set.union_subset_union_left _ lesser
    cases runOther : Manifest.register dependency other with
    | error failure stopped =>
      exact absurd (after.agree_needs.mono together) (Family.not_agree_of_register runOther)
    | ok changedOther afterOther =>
      have keepsOther := Family.keeps_coherent_register held other coherentOther
      rw [runOther] at keepsOther
      exact ⟨changedOther, afterOther, rfl, keepsAfter, keepsOther,
        coherentOther.needs_of_register held runOther ▸ together⟩
  merge := by
    rintro child ⟨coherentChild, -, -⟩
    constructor
    rintro one other ⟨⟩ after ⟨coherent, coherentOther, lesser⟩ run
    have together : other.needs ∪ child.needs ⊆ after.needs :=
      coherent.needs_of_merge coherentChild run ▸ Set.union_subset_union_left _ lesser
    obtain ⟨afterOther, runOther⟩ :=
      (coherentOther.merge_iff_agree coherentChild).mpr (after.agree_needs.mono together)
    exact ⟨afterOther, runOther, coherent.merge coherentChild run, coherentOther.merge coherentChild runOther,
      coherentOther.needs_of_merge coherentChild runOther ▸ together⟩

/-- What a writable writes above the level at which it starts, a child writes at the left margin; and the dependencies
that are added are those of the child. -/
theorem Writable.run_new {writable : Writable} (held : ∀ dependency ∈ writable.dependencies, family.Holds dependency)
    {writer after : Writer} (coherent : family.Coherent writer.manifest) (ran : writable.run writer = .ok () after)
    (level : writable.levelFrom (some writer.level) writer.level = some writer.level) :
    ∃ child, writable.run (Writer.new writer.config writer.modulePath) = .ok () child ∧
      (∀ line ∈ child.lines, '\n' ∉ line) ∧
      Manifest.merge child.manifest writer.manifest = .ok () after.manifest ∧
      after = { writer.appended child.lines with manifest := after.manifest } := by
  have covered : family.lesser.Covers writer.config writable.dependencies writable.supportItems :=
    ⟨held, fun _ _ => trivial⟩
  have linked : family.lesser.Linked writer.manifest ∅ :=
    ⟨coherent, family.coherent_empty, by simp⟩
  obtain ⟨child, ranChild, shifted⟩ :=
    (Writable.follows level covered).of_ok (Bond.shifted_new writer rfl rfl rfl linked) ran
  obtain ⟨demand, action, -⟩ : Alike family writer.config writer.modulePath writable.run _ := Writable.alike held
  obtain ⟨-, needs, -, -, coherentAfter⟩ := action.of_ok ⟨rfl, rfl, coherent⟩ ran
  obtain ⟨-, needsChild, coherentChild⟩ := Family.needs_of_new action ranChild
  have needsAfter : after.manifest.needs = writer.manifest.needs ∪ child.manifest.needs := by
    rw [needsChild]
    exact needs
  obtain ⟨merged, run⟩ := (coherent.merge_iff_agree coherentChild).mpr (needsAfter ▸ after.manifest.agree_needs)
  -- The inserted run and the merge need the same, and in a family that makes their manifests equal.
  have same : merged = after.manifest :=
    Family.eq_of_needs_eq (coherent.merge coherentChild run) coherentAfter
      ((coherent.needs_of_merge coherentChild run).trans needsAfter.symm)
  refine ⟨child, ranChild, fun line mem => (shifted.tidy line mem).whole, same ▸ run, ?_⟩
  obtain ⟨configAfter, moduleAfter, linesAfter, levelAfter, manifestAfter⟩ := after
  obtain ⟨rfl, -⟩ := shifted.config
  obtain ⟨rfl, -⟩ := shifted.modulePath
  obtain ⟨rfl, -⟩ := shifted.level
  obtain rfl := shifted.written
  rfl

/-- Some levels deeper and after other lines, a writable adds the lines of the same child and the same dependencies. -/
theorem Writable.run_deeper {writable : Writable} (held : ∀ dependency ∈ writable.dependencies, family.Holds dependency)
    {writer after child : Writer} (coherent : family.Coherent writer.manifest)
    (ran : writable.run writer = .ok () after)
    (level : writable.levelFrom (some writer.level) writer.level = some writer.level)
    (ranChild : writable.run (Writer.new writer.config writer.modulePath) = .ok () child)
    (merged : Manifest.merge child.manifest writer.manifest = .ok () after.manifest) {deeper : Writer} {depth : Nat}
    (moved : deeper = { writer with lines := deeper.lines, level := writer.level + depth }) :
    writable.run deeper = .ok () { deeper.appended child.lines with manifest := after.manifest } := by
  obtain ⟨demand, action, -⟩ : Alike family writer.config writer.modulePath writable.run _ := Writable.alike held
  have met := (action.succeeds_iff ⟨rfl, rfl, coherent⟩).mp ⟨after, ran⟩
  obtain ⟨config, modulePath, lines, _, _⟩ := deeper
  cases moved
  have considered : (family.writers writer.config writer.modulePath).Considers
      { writer with lines, level := writer.level + depth } := ⟨rfl, rfl, coherent⟩
  obtain ⟨inner, ranInner⟩ := (action.succeeds_iff considered).mpr met
  obtain ⟨twin, ranTwin, -, mergedInner, result⟩ :=
    Writable.run_new held considered.2.2 ranInner (Writable.levelFrom_raised level depth)
  cases ranTwin.symm.trans ranChild
  have same : inner.manifest = after.manifest := (EStateM.Result.ok.inj (mergedInner.symm.trans merged)).2
  rw [ranInner, ← same, ← result]

/-- The lines of a frame are those of its body one level deeper, between the lines that open and close it. -/
theorem Writer.appended_enclosing (writer : Writer) (header : String) (lines : List Line) :
    writer.appended (PlainHeader.opening header :: (lines.map (Writer.indent ++ ·) ++ [['\x7d']])) =
      Writer.appended { (writer.opened header).appended lines with level := writer.level } [['\x7d']] := by
  have deeper : (lines.map (Writer.indent ++ ·)).map (Writer.layOut writer.level) =
      lines.map (Writer.layOut (writer.level + 1)) := by
    rw [List.map_map, ← Writer.indentAt_one]
    exact List.map_congr_left fun line _ => Writer.layOut_indentAt_append writer.level 1 line
  simp only [Writer.appended, Writer.opened, List.map_cons, List.map_append, deeper, List.append_assoc,
    List.map_nil, List.cons_append, List.nil_append]

/-- A writable whose child ends with text is filled in with all the lines of that child. -/
theorem Writer.fillWritten_of_run_new {action : Writing Unit} {writer child : Writer} {manifest : Manifest}
    (ran : action (Writer.new writer.config writer.modulePath) = .ok () child)
    (merged : Manifest.merge child.manifest writer.manifest = .ok () manifest)
    (visible : ∀ line ∈ child.lines.getLast?, blank line = false) (leading : Line) :
    Writer.fillWritten action leading writer =
      .ok (Text.hang leading (Text.join child.lines)) { writer with manifest } := by
  have kept : Text.dropEndWhile List.isEmpty child.lines = child.lines := by
    rw [Text.dropEndWhile_eq_rdropWhile, List.rdropWhile_eq_self_iff]
    intro nonempty empty
    have shown := visible _ (List.getLast?_eq_getLast_of_ne_nil nonempty)
    rw [List.isEmpty_iff.mp empty] at shown
    cases shown
  simp only [Writer.fillWritten, ran, merged, kept]

/-- A block of plain text is what its body writes one level deeper between two lines. -/
theorem Op.run_block {header : String} (plain : PlainHeader header) {body : List Op} {writer inner : Writer}
    (ran : runAll body (writer.opened header) = .ok () inner) :
    (Op.block header [] body).run writer =
      .ok () (Writer.appended { inner with level := inner.level - 1 } [['\x7d']]) := by
  rw [Op.run, Action.bind_apply, fillers, Writer.render_opening plain]
  dsimp only
  rw [Action.bind_apply]
  have raised : Writer.indentBy 1 (writer.appended [PlainHeader.opening header]) = .ok () (writer.opened header) := rfl
  rw [raised]
  dsimp only
  rw [Action.bind_apply, ran]
  dsimp only
  rw [Action.bind_apply]
  exact Writer.render_closing _

/-- A writable that never dedents below the level at which it is inserted, and ends there and with text, writes the same
when it is filled in, and a block around it writes the same as the template of its three lines. -/
theorem Writable.filled_in_as_inserted {writable : Writable}
    (held : ∀ dependency ∈ writable.dependencies, family.Holds dependency) {writer after : Writer}
    (coherent : family.Coherent writer.manifest) (ran : (Op.insert writable).run writer = .ok () after)
    (level : writable.levelFrom (some writer.level) writer.level = some writer.level)
    (ends : ∀ line ∈ (after.lines.drop writer.lines.length).getLast?, blank line = false) :
    (Op.write "#T" [.writable writable]).run writer = .ok () after ∧
      ∀ header, PlainHeader header → ∃ enclosed,
        (Op.block header [] [.insert writable]).run writer = .ok () enclosed ∧
        (Op.write (header ++ " \x7b\n    #T\n\x7d") [.writable writable]).run writer = .ok () enclosed := by
  rw [Op.run] at ran
  obtain ⟨child, ranChild, whole, merged, result⟩ := Writable.run_new held coherent ran level
  have visible : ∀ line ∈ child.lines.getLast?, blank line = false := by
    intro line last
    have lines : after.lines = writer.lines ++ child.lines.map (Writer.layOut writer.level) := by rw [result]; rfl
    rw [lines, List.drop_left, List.getLast?_map, Option.mem_def.mp last] at ends
    rw [← Writer.blank_layOut writer.level]
    exact ends _ rfl
  have fills := Writer.fillWritten_of_run_new ranChild merged visible
  have arguments : fillers [.writable writable] = [Writer.fillWritten writable.run] := by
    rw [fillers, Argument.filler, fillers]
  constructor
  · rw [Op.run, arguments, Writer.render_alone (fills []) whole visible, result]
    rfl
  · intro header plain
    have moved : writer.opened header =
        { writer with lines := (writer.opened header).lines, level := writer.level + 1 } := rfl
    have inner := Writable.run_deeper held coherent ran level ranChild merged moved
    have alone : runAll [.insert writable] = writable.run := by rw [runAll_singleton, Op.run]
    rw [← alone] at inner
    refine ⟨_, Op.run_block plain inner, ?_⟩
    rw [Op.run, arguments, Writer.render_enclosing plain (fills _) whole visible, Writer.appended_enclosing]
    rfl

end

/-- A writable with a nested block, a name from an inline module and an empty line. -/
def guardedWritable : Writable :=
  .program [
    .write "let token = #T();" [.target (.fixed (tokenModule.item "issue"))],
    .block "if token == 0" [] [.write "return Err(#T);" [.text "\"empty\""]],
    .write "\n" [],
    .write "Ok(token)" []]

/-- A writer inside a block. -/
def nestedWriter : Writer := { Writer.new {} "crate::api" with lines := ["impl Api \x7b".toList], level := 1 }

/-- A writable with a blank line and a block of its own, inserted and filled in, at a level and inside a block. -/
theorem Writable.filled_in_as_inserted_guardedWritable :
    ∃ after enclosed, (Op.insert guardedWritable).run nestedWriter = .ok () after ∧
      (Op.write "#T" [.writable guardedWritable]).run nestedWriter = .ok () after ∧
      (Op.block "fn issue()" [] [.insert guardedWritable]).run nestedWriter = .ok () enclosed ∧
      (Op.write "fn issue() \x7b\n    #T\n\x7d" [.writable guardedWritable]).run nestedWriter = .ok () enclosed := by
  have held : ∀ dependency ∈ guardedWritable.dependencies, tokenFamily.Holds dependency := by
    intro dependency mem
    have same : dependency = .inline tokenModule := by
      simpa [guardedWritable, Writable.dependencies, programDependencies, Op.dependencies, argumentDependencies,
        Argument.dependencies, Target.dependencies, InlineModule.item] using mem
    rw [same]
    exact List.mem_singleton.mpr rfl
  have succeeds : ((Op.insert guardedWritable).run).succeeds nestedWriter = true := by decide +kernel
  have last : ((stateAfter ((Op.insert guardedWritable).run nestedWriter)).lines.drop 1).getLast? =
      some "    Ok(token)".toList := by decide +kernel
  obtain ⟨_, after, ran⟩ := Action.succeeds_eq_true_iff.mp succeeds
  rw [ran] at last
  have ends : ∀ line ∈ (after.lines.drop nestedWriter.lines.length).getLast?, blank line = false := by
    intro line found
    cases last.symm.trans found
    decide
  obtain ⟨filled, framed⟩ :=
    Writable.filled_in_as_inserted held tokenFamily.coherent_empty ran (by decide) ends
  obtain ⟨enclosed, block, template⟩ := framed "fn issue()" ⟨by decide, by decide, by decide, by decide⟩
  exact ⟨after, enclosed, ran, filled, block, template⟩

end Cratewright
