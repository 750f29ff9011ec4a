import Cratewright.Proofs.Program.Insertion
import Cratewright.Proofs.Writer.Contents

/-!
# Blocks and levels

A block raises the level for its body and lowers it again only if the body succeeds. A program is `steady` if it changes
the level by blocks alone. `Nests` is the invariant of such a program: the level is as many levels higher as there are
blocks left open, and whatever was added stands behind the indentation of the start. Main statement: where a steady
program succeeds, it ends at the level it started at, and each block it came to is closed at the level at which it was
opened, with its body one level deeper; where it fails, the level is higher by one for each block that was entered and
not left. What an argument writes, it writes on a writer of its own and does not count.
-/

namespace Cratewright

open Text (Line blank)
open Template (Arguments)
open Writer

/-- Writes what opens a block and goes one level deeper. -/
def enterBlock (header : String) (arguments : List Argument) : Writing Unit :=
  render (header ++ " \x7b") (.ofList (fillers arguments)) >>= fun _ => indentBy 1

mutual

/-- Whether an operation changes the level by blocks alone. -/
def Op.steady : Op → Bool
  | .write _ _ => true
  | .writeNamed _ _ => true
  | .block _ _ body => programSteady body
  | .indent _ => false
  | .dedent _ => false
  | .resolve _ => true
  | .register _ => true
  | .insert writable => writable.steady
  | .fail _ => true

/-- Whether a program changes the level by blocks alone. -/
def programSteady : List Op → Bool
  | [] => true
  | operation :: rest => operation.steady && programSteady rest

/-- Whether a writable changes the level by blocks alone. -/
def Writable.steady : Writable → Bool
  | .empty => true
  | .program operations => programSteady operations

end

mutual

/-- The headers of the blocks that an operation has entered and not left when it ends, from the outermost to the
innermost. -/
def Op.leftOpen : Op → Writer → List String
  | .write _ _, _ => []
  | .writeNamed _ _, _ => []
  | .block header arguments body, writer =>
    match enterBlock header arguments writer with
    | .ok () opened =>
      match runAll body opened with
      | .ok () _ => []
      | .error _ _ => header :: programLeftOpen body opened
    | .error _ _ => []
  | .indent _, _ => []
  | .dedent _, _ => []
  | .resolve _, _ => []
  | .register _, _ => []
  | .insert writable, writer => writable.leftOpen writer
  | .fail _, _ => []

/-- The headers of the blocks that a program has entered and not left when it ends. -/
def programLeftOpen : List Op → Writer → List String
  | [], _ => []
  | operation :: rest, writer =>
    match operation.run writer with
    | .ok () next => programLeftOpen rest next
    | .error _ _ => operation.leftOpen writer

/-- The headers of the blocks that a writable has entered and not left when it ends. -/
def Writable.leftOpen : Writable → Writer → List String
  | .empty, _ => []
  | .program operations, writer => programLeftOpen operations writer

end

namespace Writer

/-- Each level is indented by four spaces. -/
theorem indentAt_eq_replicate (level : Nat) : indentAt level = List.replicate (4 * level) ' ' := by
  have one : indent = List.replicate 4 ' ' := rfl
  rw [indentAt, one, List.flatten_replicate_replicate, Nat.mul_comm]

/-- Whether a writer is some levels deeper than another and has its lines and then only lines that are blank or stand
behind its indentation. -/
structure Nests (writer : Writer) (depth : Nat) (after : Writer) : Prop where
  level : after.level = writer.level + depth
  lines : ∃ added, after.lines = writer.lines ++ added ∧
    ∀ line ∈ added, blank line = false → indentAt writer.level <+: line

namespace Nests

variable {writer between after : Writer} {depth further : Nat}

/-- A writer nests itself at no depth. -/
theorem refl (writer : Writer) : Nests writer 0 writer := ⟨rfl, [], by simp, nofun⟩

/-- The depths of nested writers add up. -/
theorem trans (nests : Nests writer depth between) (deeper : Nests between further after) :
    Nests writer (depth + further) after where
  level := by rw [deeper.level, nests.level, Nat.add_assoc]
  lines := by
    obtain ⟨first, firstLines, firstBehind⟩ := nests.lines
    obtain ⟨second, secondLines, secondBehind⟩ := deeper.lines
    refine ⟨first ++ second, by rw [secondLines, firstLines, List.append_assoc], fun line mem visible => ?_⟩
    rcases List.mem_append.mp mem with before | later
    · exact firstBehind line before visible
    · have outer : indentAt writer.level <+: indentAt between.level := by
        rw [nests.level, indentAt_add]
        exact List.prefix_append _ _
      exact outer.trans (secondBehind line later visible)

/-- Lines that are laid out at the level of a writer stand behind its indentation. -/
theorem appended (writer : Writer) (lines : List Line) : Nests writer 0 (writer.appended lines) where
  level := rfl
  lines := by
    refine ⟨lines.map (layOut writer.level), rfl, fun line mem visible => ?_⟩
    obtain ⟨part, -, rfl⟩ := List.mem_map.mp mem
    rw [blank_layOut] at visible
    rw [layOut_of_not_blank visible]
    exact List.prefix_append _ _

/-- A writer that gains nothing but dependencies nests at no depth. -/
theorem of_gains (gains : Gains writer after) : Nests writer 0 after where
  level := gains.level
  lines := by
    rw [gains.same]
    exact ⟨[], by simp, nofun⟩

end Nests

section

variable {base : Writer}

/-- Gaining dependencies keeps a writer nested at no depth. -/
theorem nests_of_gains {writer after : Writer} (gains : Gains writer after) (nests : Nests base 0 writer) :
    Nests base 0 after :=
  nests.trans (.of_gains gains)

/-- Emitting texts at a level stays behind its indentation. -/
theorem keeps_nests_emitAll (texts : List (List Char)) : Keeps (Nests base 0) (emitAll texts) := by
  intro writer nests
  rw [emitAll_apply]
  exact nests.trans (.appended writer _)

/-- Writing a template stays behind the indentation of the level, whether it fails or not. -/
theorem keeps_nests_write (template : String) (arguments : List Argument) :
    Keeps (Nests base 0) (render template (.ofList (fillers arguments))) :=
  keeps_write_of_gains keeps_nests_emitAll nests_of_gains template arguments

/-- Writing a template with named arguments stays behind the indentation of the level, whether it fails or not. -/
theorem keeps_nests_writeNamed (template : String) (arguments : List (String × Argument)) :
    Keeps (Nests base 0) (render template (.ofPairs (namedFillers arguments))) :=
  keeps_writeNamed_of_gains keeps_nests_emitAll nests_of_gains template arguments

end

end Writer

/-- Entering a block leads one level deeper, or nowhere if its header cannot be written. -/
theorem nests_enterBlock (header : String) (arguments : List Argument) (writer : Writer) :
    match enterBlock header arguments writer with
    | .ok () opened => Nests writer 1 opened
    | .error _ stopped => Nests writer 0 stopped := by
  have written := keeps_nests_write (header ++ " \x7b") arguments writer (.refl writer)
  rw [enterBlock, Action.bind_apply]
  cases run : render (header ++ " \x7b") (.ofList (fillers arguments)) writer with
  | error failure stopped =>
    rw [run] at written
    exact written
  | ok _ between =>
    rw [run] at written
    exact ⟨congrArg (· + 1) written.level, written.lines⟩

/-- Goes one level back and writes what closes a block. -/
def leaveBlock : Writing Unit := dedentBy 1 >>= fun _ => render "\x7d" (.ofList [])

/-- Leaving a block goes up a level and closes the block there. -/
theorem leaveBlock_apply (writer : Writer) :
    leaveBlock writer = .ok () (Writer.appended { writer with level := writer.level - 1 } [['\x7d']]) := by
  rw [leaveBlock, Action.bind_apply]
  exact render_closing _

/-- A block is entered, written and left. -/
theorem Op.run_block_eq (header : String) (arguments : List Argument) (body : List Op) :
    (Op.block header arguments body).run =
      (enterBlock header arguments >>= fun _ => runAll body >>= fun _ => leaveBlock) := by
  rw [Op.run, enterBlock, bind_assoc]
  rfl

/-- A block that succeeds has been entered, written and left. -/
theorem Op.ok_of_run_block {header : String} {arguments : List Argument} {body : List Op} {writer after : Writer}
    (ran : (Op.block header arguments body).run writer = .ok () after) :
    ∃ opened inner, enterBlock header arguments writer = .ok () opened ∧ runAll body opened = .ok () inner ∧
      after = Writer.appended { inner with level := inner.level - 1 } [['\x7d']] := by
  rw [Op.run_block_eq] at ran
  obtain ⟨_, opened, entered, ran⟩ := Action.ok_of_bind ran
  obtain ⟨_, inner, inside, ran⟩ := Action.ok_of_bind ran
  rw [leaveBlock_apply] at ran
  cases ran
  exact ⟨opened, inner, entered, inside, rfl⟩

/-- Whether an action ends at the level of a writer if it succeeds, and one level deeper for each of certain blocks if
it fails. -/
structure EndsNested (action : Writing Unit) (writer : Writer) (leftOpen : List String) : Prop where
  of_ok : ∀ {after}, action writer = .ok () after → Nests writer 0 after
  of_error : ∀ {failure after}, action writer = .error failure after → Nests writer leftOpen.length after

/-- An action that always stays at the level of its writer leaves no block open. -/
theorem endsNested_of_keeps {action : Writing Unit} {writer : Writer} (kept : Keeps (Nests writer 0) action) :
    EndsNested action writer [] := by
  have nests := kept writer (.refl writer)
  constructor
  · intro after ran
    rw [ran] at nests
    exact nests
  · intro failure after ran
    rw [ran] at nests
    exact nests

/-- A block nests if its body does: it is left open if its body has failed. -/
theorem endsNested_block {header : String} {arguments : List Argument} {body : List Op} {writer : Writer}
    (inside : ∀ opened, EndsNested (runAll body) opened (programLeftOpen body opened)) :
    EndsNested (Op.block header arguments body).run writer ((Op.block header arguments body).leftOpen writer) := by
  have entered := nests_enterBlock header arguments writer
  constructor
  · intro after ran
    obtain ⟨opened, inner, opens, ranBody, rfl⟩ := Op.ok_of_run_block ran
    rw [opens] at entered
    -- Nothing the body did has changed the level, so coming back a level is coming back to the start.
    have nests : Nests writer 1 inner := entered.trans ((inside opened).of_ok ranBody)
    have back : Nests writer 0 { inner with level := inner.level - 1 } := ⟨by simp [nests.level], nests.lines⟩
    exact back.trans (.appended _ _)
  · intro failure after ran
    rw [Op.run_block_eq] at ran
    rw [Op.leftOpen]
    rcases Action.error_of_bind ran with failed | ⟨_, opened, opens, ran⟩
    · rw [failed] at entered ⊢
      exact entered
    · rw [opens] at entered ⊢
      dsimp only
      rcases Action.error_of_bind ran with failed | ⟨_, inner, _, ran⟩
      · rw [failed, List.length_cons, Nat.add_comm]
        exact entered.trans ((inside opened).of_error failed)
      · rw [leaveBlock_apply] at ran
        cases ran

/-- A program nests if its operations do: what is left open is left open by the one that has failed. -/
theorem endsNested_cons {operation : Op} {rest : List Op} {writer : Writer}
    (first : EndsNested operation.run writer (operation.leftOpen writer))
    (later : ∀ next, EndsNested (runAll rest) next (programLeftOpen rest next)) :
    EndsNested (runAll (operation :: rest)) writer (programLeftOpen (operation :: rest) writer) := by
  rw [runAll, programLeftOpen]
  constructor
  · intro after ran
    obtain ⟨_, next, ranFirst, ran⟩ := Action.ok_of_bind ran
    exact (first.of_ok ranFirst).trans ((later next).of_ok ran)
  · intro failure after ran
    rcases Action.error_of_bind ran with failed | ⟨_, next, ranFirst, ran⟩
    · rw [failed]
      exact first.of_error failed
    · have deeper := (first.of_ok ranFirst).trans ((later next).of_error ran)
      rw [ranFirst]
      rwa [Nat.zero_add] at deeper

mutual

/-- A steady operation nests. -/
theorem Op.endsNested : ∀ {operation : Op}, operation.steady = true → ∀ writer,
    EndsNested operation.run writer (operation.leftOpen writer)
  | .write template arguments, _, writer => by
    rw [Op.run, Op.leftOpen]
    exact endsNested_of_keeps (keeps_nests_write template arguments)
  | .writeNamed template arguments, _, writer => by
    rw [Op.run, Op.leftOpen]
    exact endsNested_of_keeps (keeps_nests_writeNamed template arguments)
  | .block header arguments body, steady, writer => by
    rw [Op.steady] at steady
    exact endsNested_block (endsNested_runAll steady)
  | .indent levels, steady, _ => by simp [Op.steady] at steady
  | .dedent levels, steady, _ => by simp [Op.steady] at steady
  | .resolve target, _, writer => by
    rw [Op.run, Op.leftOpen]
    refine endsNested_of_keeps (.bind ?_ fun _ => .pure _)
    exact keeps_of_gains nests_of_gains fun _ => target.keeps_gains_resolve
  | .register dependency, _, writer => by
    rw [Op.run, Op.leftOpen]
    exact endsNested_of_keeps (keeps_of_gains nests_of_gains fun _ => keeps_gains_register dependency)
  | .insert writable, steady, writer => by
    rw [Op.steady] at steady
    rw [Op.run, Op.leftOpen]
    exact Writable.endsNested steady writer
  | .fail error, _, writer => by
    rw [Op.run, Op.leftOpen]
    exact endsNested_of_keeps (.throw _)

/-- A steady program nests. -/
theorem endsNested_runAll : ∀ {operations : List Op}, programSteady operations = true → ∀ writer,
    EndsNested (runAll operations) writer (programLeftOpen operations writer)
  | [], _, writer => by
    rw [runAll, programLeftOpen]
    exact endsNested_of_keeps (.pure _)
  | operation :: rest, steady, writer => by
    rw [programSteady, Bool.and_eq_true] at steady
    exact endsNested_cons (Op.endsNested steady.1 writer) (endsNested_runAll steady.2)

/-- A steady writable nests. -/
theorem Writable.endsNested : ∀ {writable : Writable}, writable.steady = true → ∀ writer,
    EndsNested writable.run writer (writable.leftOpen writer)
  | .empty, _, writer => by
    rw [Writable.run, Writable.leftOpen]
    exact endsNested_of_keeps (.pure _)
  | .program operations, steady, writer => by
    rw [Writable.steady] at steady
    rw [Writable.run, Writable.leftOpen]
    exact endsNested_runAll steady writer

end

/-! ## The blocks of a run -/

/-- A run of a steady program comes to steady operations only. -/
theorem Performs.steady {program : Program} {writer before : Writer} {operation : Op}
    (performs : Performs program writer operation before) (steady : programSteady program = true) :
    operation.steady = true := by
  induction performs with
  | first =>
    rw [programSteady, Bool.and_eq_true] at steady
    exact steady.1
  | next _ ih =>
    rw [programSteady, Bool.and_eq_true] at steady
    exact ih steady.2
  | body _ _ ih =>
    rw [programSteady, Op.steady, Bool.and_eq_true] at steady
    exact ih steady.1
  | inserted _ ih =>
    rw [programSteady, Op.steady, Writable.steady, Bool.and_eq_true] at steady
    exact ih steady.1

/-- A program that succeeds only adds lines. -/
theorem lines_prefix_of_runAll {program : Program} {writer after : Writer}
    (ran : runAll program writer = .ok () after) : writer.lines <+: after.lines := by
  have held := keeps_extends_runAll program writer (extends_refl writer)
  rw [ran] at held
  obtain ⟨added, lines, -⟩ := held
  exact ⟨added, lines.symm⟩

/-- A program that succeeds has succeeded with its first operation and then with the rest. -/
theorem ok_of_runAll_cons {operation : Op} {rest : List Op} {writer after : Writer}
    (ran : runAll (operation :: rest) writer = .ok () after) :
    ∃ next, operation.run writer = .ok () next ∧ runAll rest next = .ok () after := by
  rw [runAll] at ran
  obtain ⟨_, next, first, later⟩ := Action.ok_of_bind ran
  exact ⟨next, first, later⟩

/-- In a run that succeeds every operation succeeds, and the lines it leaves are those the run goes on from. -/
theorem Performs.ok_of_run {program : Program} {writer before after : Writer} {operation : Op}
    (performs : Performs program writer operation before) (ran : runAll program writer = .ok () after) :
    ∃ next, operation.run before = .ok () next ∧ next.lines <+: after.lines := by
  induction performs generalizing after with
  | first =>
    obtain ⟨next, ranFirst, ranRest⟩ := ok_of_runAll_cons ran
    exact ⟨next, ranFirst, lines_prefix_of_runAll ranRest⟩
  | next _ ih =>
    obtain ⟨next, ranFirst, ranRest⟩ := ok_of_runAll_cons ran
    rw [ranFirst] at ih
    exact ih ranRest
  | body opens _ ih =>
    obtain ⟨next, ranFirst, ranRest⟩ := ok_of_runAll_cons ran
    obtain ⟨opened, inner, entered, ranBody, rfl⟩ := Op.ok_of_run_block ranFirst
    cases opens.symm.trans entered
    obtain ⟨left, ranInside, inside⟩ := ih ranBody
    refine ⟨left, ranInside, inside.trans ?_⟩
    exact List.IsPrefix.trans (List.prefix_append inner.lines _) (lines_prefix_of_runAll ranRest)
  | inserted _ ih =>
    obtain ⟨next, ranFirst, ranRest⟩ := ok_of_runAll_cons ran
    rw [Op.run, Writable.run] at ranFirst
    obtain ⟨left, ranInside, inside⟩ := ih ranFirst
    exact ⟨left, ranInside, inside.trans (lines_prefix_of_runAll ranRest)⟩

/-- A steady program ends at the level it started at if it succeeds, and closes each block it came to at the level at
which it was opened, with the lines of its body behind one level more. If it fails, the level is higher by one for each
block that it has entered and not left. -/
theorem level_of_steady {program : Program} (steady : programSteady program = true) (writer : Writer) :
    (∀ after, runAll program writer = .ok () after →
      after.level = writer.level ∧
      ∀ header arguments body before, Performs program writer (.block header arguments body) before →
        ∃ opened inner added, enterBlock header arguments before = .ok () opened ∧
          runAll body opened = .ok () inner ∧ inner.lines = opened.lines ++ added ∧
          (∀ line ∈ added, blank line = false → List.replicate (4 * (before.level + 1)) ' ' <+: line) ∧
          inner.lines ++ [List.replicate (4 * before.level) ' ' ++ ['\x7d']] <+: after.lines) ∧
    ∀ failure after, runAll program writer = .error failure after →
      after.level = writer.level + (programLeftOpen program writer).length := by
  have nests := endsNested_runAll steady writer
  refine ⟨fun after ran => ⟨(nests.of_ok ran).level, ?_⟩, fun failure after ran => (nests.of_error ran).level⟩
  intro header arguments body before performs
  have steadyBody : programSteady body = true := by
    have steadyBlock := performs.steady steady
    rwa [Op.steady] at steadyBlock
  obtain ⟨next, ranBlock, standing⟩ := performs.ok_of_run ran
  obtain ⟨opened, inner, opens, ranBody, rfl⟩ := Op.ok_of_run_block ranBlock
  have entered := nests_enterBlock header arguments before
  rw [opens] at entered
  have inside : Nests opened 0 inner := (endsNested_runAll steadyBody opened).of_ok ranBody
  obtain ⟨added, lines, behind⟩ := inside.lines
  refine ⟨opened, inner, added, opens, ranBody, lines, ?_, ?_⟩
  · rwa [entered.level, indentAt_eq_replicate] at behind
  · have closing : layOut (inner.level - 1) ['\x7d'] = indentAt before.level ++ ['\x7d'] := by
      have level : inner.level - 1 = before.level := by
        have outer := (entered.trans inside).level
        omega
      rw [level]
      rfl
    rw [← indentAt_eq_replicate, ← closing]
    exact standing

/-- A block that is inserted into another one. -/
def innerBlock : Op := .block "fn inner()" [] [.write "let text = \"#T\";" [.text "one\ntwo"]]

/-- A block around a writable that leaves its own writer at another level, and around another block. -/
def towerProgram : Program := [
  .block "impl Tower" [] [
    .write "#T" [.writable (.program [.block "fn first()" [] [], .indent 2])],
    .insert (.program [innerBlock]),
    .write "// done" []]]

/-- A tower that fails in a block of its innermost writable. -/
def brokenTower : Program := [
  .block "impl Tower" [] [
    .block "fn first()" [] [],
    .insert (.program [
      .block "fn inner()" [] [.write "#T" [.writable (.program [.block "loop" [] [.fail (.template (.raised ""))]])]]]),
    .write "// done" []]]

/-- A program that comes back to its level with two blocks around the innermost one, and one that fails in two blocks.
-/
theorem level_of_steady_towers :
    (∃ before after, Performs towerProgram nestedWriter innerBlock before ∧ before.level = 2 ∧
      runAll towerProgram nestedWriter = .ok () after ∧ after.level = 1 ∧
      ∃ inner : List Line, inner ++ ["        \x7d".toList] <+: after.lines) ∧
    ∃ failure after, runAll brokenTower nestedWriter = .error failure after ∧ after.level = 3 ∧
      programLeftOpen brokenTower nestedWriter = ["impl Tower", "fn inner()"] := by
  constructor
  · obtain ⟨before, performs, level⟩ :
        ∃ before, Performs towerProgram nestedWriter innerBlock before ∧ before.level = 2 :=
      ⟨_, .body (Action.apply_of_succeeds (by decide +kernel)) (.next (.inserted .first)), by decide +kernel⟩
    have ran : runAll towerProgram nestedWriter = .ok () _ := Action.apply_of_succeeds (by decide +kernel)
    have steady : programSteady towerProgram = true := by decide
    have reached := (level_of_steady steady nestedWriter).1 _ ran
    obtain ⟨opened, inner, added, -, -, -, -, closed⟩ := reached.2 _ _ _ _ performs
    rw [level] at closed
    exact ⟨before, _, performs, level, ran, reached.1, inner.lines, closed⟩
  · have failed : (runAll brokenTower).failure? nestedWriter = some (.template (.raised "")) := by decide +kernel
    obtain ⟨after, ran⟩ := Action.failure?_eq_some_iff.mp failed
    have leftOpen : programLeftOpen brokenTower nestedWriter = ["impl Tower", "fn inner()"] := by decide +kernel
    have steady : programSteady brokenTower = true := by decide
    have level := (level_of_steady steady nestedWriter).2 _ _ ran
    rw [leftOpen] at level
    exact ⟨_, after, ran, level, leftOpen⟩

end Cratewright
