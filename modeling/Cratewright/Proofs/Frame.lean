import Cratewright.Proofs.Program.Filling

/-!
# Code with slots

A `Frame` is code with slots: a template, what stands for the placeholders around the slots, and the contributions to
each slot. `Frame.lines` says which code that is, with the contributions spliced in, and `Frame.WrittenBy` that a
program writes it. Main statement: writing the template with its arguments writes the code of the frame, as long as the
contributions leave the level as they found it and no crate is declared at two places. Which frames the generators have
is not the subject of this module.
-/

namespace Cratewright

open Text (Line)
open Template (Takes)

/-- Code with slots: its template, what stands for the other placeholders, and the contributions to each slot. -/
structure Frame where
  template : String
  surroundings : List (String × Filling)
  slots : List (String × List Writable)

/-- The contributions to each slot, in the order in which the slots are declared. -/
def slotContributions {Place : Type} [Slot Place] (customizations : List (Customization Place)) :
    List (String × List Writable) :=
  (Slot.all : List Place).map fun slot => (Slot.name slot, customizations.map (·.contribution slot))

namespace Frame

/-- The names of the slots. -/
def slotNames (frame : Frame) : List String := frame.slots.map Prod.fst

/-- What stands for a placeholder in a module: for a slot, the lines of its contributions back to back. -/
def filling (config : RuntimeConfig) (modulePath : String) (frame : Frame) (name : String) : Filling :=
  match frame.slots.lookup name with
  | some parts => .slot (parts.flatMap (·.linesAlone config modulePath))
  | none => (frame.surroundings.lookup name).getD (.text "")

/-- The lines of the code in a module. -/
def lines (config : RuntimeConfig) (modulePath : String) (frame : Frame) : List Line :=
  (Template.dedent frame.template.toList).flatMap (spliceLine (frame.filling config modulePath))

/-- Whether a program writes the code of a frame on a fresh writer: it succeeds if the contributions to each slot do,
one after another; otherwise it writes nothing and fails as the first contribution does that fails. -/
structure WrittenBy (config : RuntimeConfig) (modulePath : String) (frame : Frame) (program : Program) : Prop where
  succeeds_iff : (∃ after, runAll program (Writer.new config modulePath) = .ok () after) ↔
    ∀ slot ∈ frame.slots, ∃ after, runAll (slot.2.map .insert) (Writer.new config modulePath) = .ok () after
  lines_of_ok : ∀ {after}, runAll program (Writer.new config modulePath) = .ok () after →
    after.lines = frame.lines config modulePath
  of_error : ∀ {failure after}, runAll program (Writer.new config modulePath) = .error failure after →
    after.lines = [] ∧ ∃ before slot later, frame.slots = before ++ slot :: later ∧
      (∀ earlier ∈ before, ∃ written,
        runAll (earlier.2.map .insert) (Writer.new config modulePath) = .ok () written) ∧
      FailsFirst slot.2 (Writer.new config modulePath) failure

namespace WrittenBy

variable {config : RuntimeConfig} {modulePath : String} {frame : Frame} {program : Program} {after : Writer}

/-- What is known of a run that succeeds. -/
theorem of_run (ran : runAll program (Writer.new config modulePath) = .ok () after)
    (succeed : ∀ slot ∈ frame.slots, ∃ after,
      runAll (slot.2.map .insert) (Writer.new config modulePath) = .ok () after)
    (lines : after.lines = frame.lines config modulePath) : frame.WrittenBy config modulePath program where
  succeeds_iff := ⟨fun _ => succeed, fun _ => ⟨after, ran⟩⟩
  lines_of_ok again := by
    cases ran.symm.trans again
    exact lines
  of_error failed := by cases ran.symm.trans failed

/-- What is known of a run that fails. -/
theorem of_failure {failure : CodegenError} {before later : List (String × List Writable)}
    {slot : String × List Writable} {stopped : Writer}
    (ran : runAll program (Writer.new config modulePath) = .error failure after) (empty : after.lines = [])
    (split : frame.slots = before ++ slot :: later)
    (clean : ∀ earlier ∈ before, ∃ written,
      runAll (earlier.2.map .insert) (Writer.new config modulePath) = .ok () written)
    (fails : runAll (slot.2.map .insert) (Writer.new config modulePath) = .error failure stopped) :
    frame.WrittenBy config modulePath program where
  succeeds_iff := by
    constructor
    · rintro ⟨_, succeeded⟩
      cases ran.symm.trans succeeded
    · intro succeed
      obtain ⟨_, succeeded⟩ := succeed slot (split ▸ List.mem_append_right _ List.mem_cons_self)
      cases fails.symm.trans succeeded
  lines_of_ok succeeded := by cases ran.symm.trans succeeded
  of_error again := by
    cases ran.symm.trans again
    exact ⟨empty, before, slot, later, split, clean, failsFirst_of_error fails⟩

end WrittenBy

end Frame

/-- Whether the lines of a template take arguments of these names, of which some are slots, each in its turn. -/
structure Framework (lines : List Line) (names slots : List String) : Prop where
  takes : Takes lines names
  slotted : Slotted lines slots
  order : (Template.placeholders lines).filter (· ∈ slots) = slots
  distinct : slots.Nodup

instance (lines : List Line) (names slots : List String) : Decidable (Framework lines names slots) :=
  decidable_of_iff
    (Takes lines names ∧ Slotted lines slots ∧ (Template.placeholders lines).filter (· ∈ slots) = slots ∧ slots.Nodup)
    ⟨fun ⟨takes, slotted, order, distinct⟩ => ⟨takes, slotted, order, distinct⟩,
      fun framework => ⟨framework.takes, framework.slotted, framework.order, framework.distinct⟩⟩

section

variable {Item : Type} {pairs : List (String × Item)} {name : String} {item : Item}

/-- A pair that is found is one of the list. -/
theorem mem_of_lookup (found : pairs.lookup name = some item) : (name, item) ∈ pairs := by
  obtain ⟨before, after, rfl, -⟩ := List.lookup_eq_some_iff.mp found
  exact List.mem_append_right _ List.mem_cons_self

/-- A pair of a list with distinct names is found under its name. -/
theorem lookup_of_mem (distinct : (pairs.map Prod.fst).Nodup) (mem : (name, item) ∈ pairs) :
    pairs.lookup name = some item := by
  induction pairs with
  | nil => cases mem
  | cons first rest ih =>
    rw [List.map_cons, List.nodup_cons] at distinct
    rw [List.lookup_cons]
    rcases List.mem_cons.mp mem with rfl | mem
    · simp
    · have apart : (name == first.1) = false := by
        rw [beq_eq_false_iff_ne]
        rintro rfl
        exact distinct.1 (List.mem_map.mpr ⟨_, mem, rfl⟩)
      rw [apart]
      exact ih distinct.2 mem

end

/-- The filler of the argument of a name. -/
def fillerOf (arguments : List (String × Argument)) (name : String) : Filler :=
  match arguments.lookup name with
  | some argument => argument.filler
  | none => fun _ => return []

section

variable {arguments : List (String × Argument)} (distinct : (arguments.map Prod.fst).Nodup)

include distinct

/-- An argument has its own filler under its name. -/
theorem fillerOf_of_mem {pair : String × Argument} (mem : pair ∈ arguments) :
    fillerOf arguments pair.1 = pair.2.filler := by
  rw [fillerOf, lookup_of_mem distinct mem]

/-- The fillers of arguments with a name each are those of the names. -/
theorem namedFillers_eq_map_fillerOf :
    namedFillers arguments = (arguments.map Prod.fst).map fun name => (name, fillerOf arguments name) := by
  rw [namedFillers_eq_map, List.map_map]
  exact List.map_congr_left fun pair mem => by rw [Function.comp_apply, fillerOf_of_mem distinct mem]

end

namespace Frame

section

variable (config : RuntimeConfig) (modulePath : String)

/-- The failure of the contributions to a slot, if they fail. -/
def slotFault (slot : String × List Writable) : Option CodegenError :=
  (runAll (slot.2.map .insert)).failure? (Writer.new config modulePath)

/-- The failure of the contributions to a placeholder, if it is a slot and they fail. -/
def fault (frame : Frame) (name : String) : Option CodegenError :=
  (frame.slots.lookup name).bind fun parts => slotFault config modulePath (name, parts)

end

/-- What an argument stands for: the contributions to a slot, or a filling around the slots. -/
inductive Supplies (frame : Frame) (Considers : Writer → Prop) : String → Argument → Prop
  | slot {name : String} {parts : List Writable} (found : frame.slots.lookup name = some parts) :
      Supplies frame Considers name (.writable (.concat parts))
  | surrounding {name : String} {argument : Argument} {filling : Filling} (apart : frame.slots.lookup name = none)
      (found : frame.surroundings.lookup name = some filling) (fills : Fills Considers none filling argument.filler) :
      Supplies frame Considers name argument

variable {top : Set Need} {config : RuntimeConfig} {modulePath : String} {frame : Frame} {agree : Agree top}

/-- Whether the contributions to the slots stay inside a set of needs and leave the level as they found it. -/
structure Orderly (frame : Frame) (agree : Agree top) (config : RuntimeConfig) : Prop where
  covered : ∀ slot ∈ frame.slots, ∀ part ∈ slot.2,
    (Bond.confined top agree).Covers config part.dependencies part.supportItems
  keeps : ∀ slot ∈ frame.slots, ∀ part ∈ slot.2, part.KeepsLevel

/-- What an argument stands for is filled in with the fault and the filling of its name. -/
theorem Supplies.fills (orderly : frame.Orderly agree config) {name : String} {argument : Argument}
    (supplies : frame.Supplies (Unwritten top config modulePath) name argument) :
    Fills (Unwritten top config modulePath) (frame.fault config modulePath name) (frame.filling config modulePath name)
      argument.filler := by
  cases supplies with
  | slot found =>
    rw [fault, filling, found]
    have mem := mem_of_lookup found
    exact fills_contributions agree (orderly.covered _ mem) (orderly.keeps _ mem)
  | surrounding apart found fills =>
    rw [fault, filling, apart, found]
    exact fills

/-- The first placeholder that fails is the first slot that fails. -/
theorem findSome?_fault {lines : List Line} {names : List String} (framework : Framework lines names frame.slotNames) :
    (Template.placeholders lines).findSome? (frame.fault config modulePath) =
      frame.slots.findSome? (slotFault config modulePath) := by
  have elsewhere : ∀ name, name ∉ frame.slotNames → frame.fault config modulePath name = none := by
    intro name apart
    rw [fault]
    cases found : frame.slots.lookup name with
    | none => rfl
    | some parts => exact absurd (List.mem_map.mpr ⟨_, mem_of_lookup found, rfl⟩) apart
  have slots : (Template.placeholders lines).filterMap (frame.fault config modulePath) =
      ((Template.placeholders lines).filter (· ∈ frame.slotNames)).filterMap (frame.fault config modulePath) := by
    rw [List.filterMap_filter]
    refine List.filterMap_congr fun name _ => ?_
    by_cases known : name ∈ frame.slotNames
    · simp [known]
    · simp [known, elsewhere name known]
  have same : ∀ slot ∈ frame.slots,
      (frame.fault config modulePath ∘ Prod.fst) slot = slotFault config modulePath slot := by
    intro slot mem
    rw [Function.comp_apply, fault, lookup_of_mem framework.distinct mem, Option.bind_some]
  rw [← List.head?_filterMap, slots, framework.order, slotNames, List.filterMap_map, List.filterMap_congr same,
    List.head?_filterMap]

/-- Where no slot fails, the texts of the template are laid out as the code of the frame. -/
theorem layOut_texts {names : List String}
    (framework : Framework (Template.dedent frame.template.toList) names frame.slotNames)
    (orderly : frame.Orderly agree config) (clean : ∀ slot ∈ frame.slots, ∃ after,
      runAll (slot.2.map .insert) (Writer.new config modulePath) = .ok () after) :
    (((Template.dedent frame.template.toList).flatMap (lineTexts (frame.filling config modulePath))).flatMap
      Text.split).map (Writer.layOut 0) = frame.lines config modulePath := by
  rw [Frame.lines]
  refine layOut_lineTexts framework.slotted fun name mem => ?_
  obtain ⟨slot, given, rfl⟩ := List.mem_map.mp mem
  obtain ⟨_, ran⟩ := clean slot given
  refine ⟨slot.2.flatMap (·.linesAlone config modulePath), ?_, ?_⟩
  · rw [filling, lookup_of_mem framework.distinct given]
  · exact (runAll_insert_flush agree (orderly.covered slot given) (orderly.keeps slot given)
      (flush_new top config modulePath) ran).2.1

variable {arguments : List (String × Argument)}

/-- Rendering the template with its arguments fails as the first slot does that fails; if none does, it appends the
texts of the template. -/
theorem appends_render
    (framework : Framework (Template.dedent frame.template.toList) (arguments.map Prod.fst) frame.slotNames)
    (orderly : frame.Orderly agree config)
    (supplies : ∀ pair ∈ arguments, frame.Supplies (Unwritten top config modulePath) pair.1 pair.2) :
    Writer.Appends (Unwritten top config modulePath) (frame.slots.findSome? (slotFault config modulePath))
      (((Template.dedent frame.template.toList).flatMap (lineTexts (frame.filling config modulePath))).flatMap
        Text.split)
      (Writer.render frame.template (.ofPairs (namedFillers arguments)) (Writer.new config modulePath)) := by
  have fills : ∀ name ∈ arguments.map Prod.fst, Fills (Unwritten top config modulePath)
      (frame.fault config modulePath name) (frame.filling config modulePath name) (fillerOf arguments name) := by
    intro name mem
    obtain ⟨pair, given, rfl⟩ := List.mem_map.mp mem
    rw [fillerOf_of_mem framework.takes.distinct given]
    exact (supplies pair given).fills orderly
  rw [namedFillers_eq_map_fillerOf framework.takes.distinct, ← findSome?_fault framework]
  exact Writer.appends_render framework.takes fills ⟨flush_new top config modulePath, rfl⟩

/-- Writing the template of a frame with its arguments writes the code of the frame. -/
theorem writtenBy
    (framework : Framework (Template.dedent frame.template.toList) (arguments.map Prod.fst) frame.slotNames)
    (orderly : frame.Orderly agree config)
    (supplies : ∀ pair ∈ arguments, frame.Supplies (Unwritten top config modulePath) pair.1 pair.2) :
    frame.WrittenBy config modulePath [.writeNamed frame.template arguments] := by
  have appends := appends_render framework orderly supplies
  have run : runAll [.writeNamed frame.template arguments] =
      Writer.render frame.template (.ofPairs (namedFillers arguments)) := by rw [runAll_singleton, Op.run]
  rw [← run] at appends
  cases ran : runAll [.writeNamed frame.template arguments] (Writer.new config modulePath) with
  | ok _ _ =>
    rw [ran] at appends
    obtain ⟨clean, filled, ⟨flush, empty⟩, rfl⟩ := appends
    have succeed : ∀ slot ∈ frame.slots, ∃ after,
        runAll (slot.2.map .insert) (Writer.new config modulePath) = .ok () after := by
      intro slot mem
      obtain ⟨_, after, ranSlot⟩ := Action.failure?_eq_none_iff.mp (List.findSome?_eq_none_iff.mp clean slot mem)
      exact ⟨after, ranSlot⟩
    refine .of_run ran succeed ?_
    simp only [Writer.appended, empty, flush.level, List.nil_append]
    exact layOut_texts framework orderly succeed
  | error failure stopped =>
    rw [ran] at appends
    obtain ⟨failed, -, empty⟩ := appends
    obtain ⟨before, slot, later, split, fails, clean⟩ := List.findSome?_eq_some_iff.mp failed
    obtain ⟨_, ranSlot⟩ := Action.failure?_eq_some_iff.mp fails
    refine .of_failure ran empty split (fun earlier mem => ?_) ranSlot
    obtain ⟨_, written, ranEarlier⟩ := Action.failure?_eq_none_iff.mp (clean earlier mem)
    exact ⟨written, ranEarlier⟩

end Frame

end Cratewright
