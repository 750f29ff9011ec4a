import Cratewright.Customizations
import Cratewright.Proofs.Manifest.Union
import Cratewright.Proofs.Frame

/-!
# The code of the generators

A service configuration and an operation are each written by one template, so each is the code of a `Frame`. Main
statement: a generator succeeds if the contributions to each of its slots succeed one after another, and then its code
is the skeleton with these contributions spliced in; otherwise it writes nothing and fails as the first contribution
does that fails. A contribution may be any writable that leaves the level as it found it.
-/

namespace Cratewright

/-- Whether no crate is declared at two places by what a program mentions, at any depth. -/
def Harmonious (config : RuntimeConfig) (operations : Program) : Prop :=
  Agree (Dependency.needsOfAll (programDeclarations config operations))

/-- A bond to what a program mentions covers the program if that is harmonious. -/
theorem covers_of_harmonious {config : RuntimeConfig} {operations : Program}
    (harmonious : Harmonious config operations) :
    (Bond.confined _ harmonious).Covers config (programDependencies operations) (programSupportItems operations) := by
  have inside : ∀ dependency ∈ programDeclarations config operations,
      dependency.needs ⊆ Dependency.needsOfAll (programDeclarations config operations) :=
    fun dependency mem _ found => Dependency.mem_needsOfAll.mpr ⟨dependency, mem, found⟩
  refine ⟨fun dependency mem => inside dependency (List.mem_append_left _ mem), fun item mem => inside _ ?_⟩
  exact List.mem_append_right _ (List.mem_map.mpr ⟨item, mem, rfl⟩)

/-- Crates that can all be registered are declared at one place each. -/
theorem harmonious_of_crates {config : RuntimeConfig} {operations : Program}
    (crates : ∀ dependency ∈ programDependencies operations, ∃ declaration, dependency = .crate declaration)
    (registered : (Manifest.registerAll (programDeclarations config operations)).succeeds ∅ = true) :
    Harmonious config operations := by
  have held : ∀ dependency ∈ programDeclarations config operations,
      (Family.listed [] (by simp) (by simp)).Holds dependency := by
    refine List.forall_mem_append.mpr ⟨fun dependency mem => ?_, fun dependency mem => ?_⟩
    · obtain ⟨declaration, rfl⟩ := crates dependency mem
      trivial
    · obtain ⟨item, -, rfl⟩ := List.mem_map.mp mem
      trivial
  obtain ⟨_, after, run⟩ := Action.succeeds_eq_true_iff.mp registered
  have needs := (Family.coherent_empty _).needs_of_registerAll held run
  rw [Manifest.needs_empty, Set.empty_union] at needs
  rw [Harmonious, ← needs]
  exact after.agree_needs

/-- Whether what customizations contribute to the slots of a generator leaves the level as it found it. -/
def KeepLevel {Place : Type} [Slot Place] (customizations : List (Customization Place)) : Prop :=
  ∀ customization ∈ customizations, ∀ slot ∈ (Slot.all : List Place), (customization.contribution slot).KeepsLevel

/-- The token leaves the level of an operation as it found it, in every slot. -/
theorem IdempotencyToken.keepsLevel_forOperation (tokenField : Option String) (slot : OperationSlot) :
    ((forOperation tokenField).contribution slot).KeepsLevel :=
  Writable.keepsLevel_of_levelFrom fun level => by cases slot <;> cases tokenField <;> rfl

/-- The region leaves the level of an operation as it found it, in every slot. -/
theorem Region.keepsLevel_forOperation (slot : OperationSlot) : (forOperation.contribution slot).KeepsLevel :=
  Writable.keepsLevel_of_levelFrom fun level => by cases slot <;> rfl

namespace ServiceConfig

/-- The code of a service configuration. -/
def frame (generator : ServiceConfig) : Frame where
  template := skeleton
  surroundings := []
  slots := slotContributions generator.customizations

/-- The template of a service configuration takes its slots, each in its turn, and nothing else. -/
theorem framework : Framework (Template.dedent skeleton.toList)
    ((Slot.all : List ServiceConfigSlot).map Slot.name) ((Slot.all : List ServiceConfigSlot).map Slot.name) := by
  rw [skeleton, Template.source, String.toList_ofList]
  decide +kernel

end ServiceConfig

namespace Operation

/-- The code of an operation in a module. -/
def frame (config : RuntimeConfig) (modulePath : String) (operation : Operation) : Frame where
  template := skeleton
  surroundings := [
    ("Name", .text operation.name),
    ("Input", .reference (Reference.generated "input" (operation.name ++ "Input")).fullPath),
    ("Config", .reference (Reference.generated "config" "Config").fullPath),
    ("Operation", .reference (SupportItem.operation.reference config).fullPath),
    ("Op", .reference (Reference.fullPath ⟨some operation.name, none, modulePath⟩)),
    ("BuildError", .reference (SupportItem.buildError.reference config).fullPath),
    ("OperationModule", .reference (SupportItem.operationModule.reference config).fullPath),
    ("SdkBody", .reference (SupportItem.body.reference config).fullPath),
    ("NameLit", .text (Text.quoted operation.name)),
    ("ServiceLit", .text (Text.quoted operation.service))]
  slots := slotContributions operation.customizations

/-- The names of the placeholders of an operation. -/
def placeholderNames : List String :=
  ["Name", "ImplBlock", "Input", "Config", "Operation", "Op", "BuildError", "MutateInput", "OperationModule", "SdkBody",
    "Plugin", "NameLit", "ServiceLit"]

/-- The template of an operation takes its slots, each in its turn, beside its other placeholders. -/
theorem framework : Framework (Template.dedent skeleton.toList) placeholderNames
    ((Slot.all : List OperationSlot).map Slot.name) := by
  rw [skeleton, Template.source, String.toList_ofList]
  decide +kernel

end Operation

section

variable {config : RuntimeConfig} {modulePath : String}

/-- A generator has a contribution for each of its slots, in order. -/
theorem slotNames_slotContributions {Place : Type} [Slot Place] (customizations : List (Customization Place)) :
    (slotContributions customizations).map Prod.fst = (Slot.all : List Place).map Slot.name := by
  rw [slotContributions, List.map_map]
  rfl

/-- The contributions to a covered slot are covered one by one. -/
theorem orderly_of_covers {Place : Type} [Slot Place] {customizations : List (Customization Place)} {frame : Frame}
    (slots : frame.slots = slotContributions customizations) {top : Set Need} {agree : Agree top}
    (covered : ∀ slot ∈ (Slot.all : List Place), (Bond.confined top agree).Covers config
      (contributions customizations slot).dependencies (contributions customizations slot).supportItems)
    (keep : KeepLevel customizations) : frame.Orderly agree config where
  covered := by
    rw [slots]
    intro slot found
    obtain ⟨place, mem, rfl⟩ := List.mem_map.mp found
    exact (covered place mem).of_concat
  keeps := by
    rw [slots]
    intro slot found part contributed
    obtain ⟨place, mem, rfl⟩ := List.mem_map.mp found
    obtain ⟨customization, registered, rfl⟩ := List.mem_map.mp contributed
    exact keep customization registered place mem

/-- The argument of a slot supplies its contributions. -/
theorem supplies_slot {Place : Type} [Slot Place] {customizations : List (Customization Place)} {frame : Frame}
    (slots : frame.slots = slotContributions customizations)
    (distinct : ((Slot.all : List Place).map Slot.name).Nodup) {Considers : Writer → Prop} {slot : Place}
    (mem : slot ∈ (Slot.all : List Place)) :
    frame.Supplies Considers (Slot.name slot) (.writable (contributions customizations slot)) := by
  have named : (frame.slots.map Prod.fst).Nodup := by rwa [slots, slotNames_slotContributions]
  refine .slot (lookup_of_mem named ?_)
  rw [slots]
  exact List.mem_map.mpr ⟨slot, mem, rfl⟩

/-- The bond of a program that writes one template covers each of its arguments. -/
theorem covers_arguments {template : String} {arguments : List (String × Argument)}
    (harmonious : Harmonious config [.writeNamed template arguments]) :
    ∀ pair ∈ arguments, (Bond.confined _ harmonious).Covers config pair.2.dependencies pair.2.supportItems :=
  (Bond.covers_append.mp (covers_of_harmonious harmonious)).1.of_named

/-- A service configuration writes the code of its frame. -/
theorem ServiceConfig.writtenBy {generator : ServiceConfig} (harmonious : Harmonious config generator.program)
    (keep : KeepLevel generator.customizations) :
    generator.frame.WrittenBy config modulePath generator.program := by
  have covered := covers_arguments harmonious
  have orderly : generator.frame.Orderly harmonious config :=
    orderly_of_covers rfl (fun slot mem => covered _ (List.mem_map.mpr ⟨slot, mem, rfl⟩)) keep
  refine Frame.writtenBy framework orderly fun pair mem => ?_
  obtain ⟨slot, known, rfl⟩ := List.mem_map.mp mem
  exact supplies_slot rfl framework.distinct known

/-- An operation writes the code of its frame. -/
theorem Operation.writtenBy {operation : Operation} (inside : modulePath ≠ "")
    (harmonious : Harmonious config operation.program) (keep : KeepLevel operation.customizations) :
    (operation.frame config modulePath).WrittenBy config modulePath operation.program := by
  have covered := covers_arguments harmonious
  simp only [List.forall_mem_cons] at covered
  obtain ⟨-, implBlock, input, configuration, item, -, buildError, mutateInput, itemModule, body, plugin, -⟩ := covered
  have orderly : (operation.frame config modulePath).Orderly harmonious config := by
    refine orderly_of_covers rfl ?_ keep
    exact List.forall_mem_cons.mpr
      ⟨implBlock, List.forall_mem_cons.mpr ⟨mutateInput, List.forall_mem_singleton.mpr plugin⟩⟩
  have framework : Framework (Template.dedent (operation.frame config modulePath).template.toList) placeholderNames
      (operation.frame config modulePath).slotNames := framework
  refine Frame.writtenBy framework orderly ?_
  simp only [List.forall_mem_cons]
  refine ⟨?_, .slot rfl, ?_, ?_, ?_, ?_, ?_, .slot rfl, ?_, ?_, .slot rfl, ?_, ?_, fun _ mem => nomatch mem⟩
  · exact .surrounding rfl rfl (fills_text _)
  · exact .surrounding rfl rfl (fills_generated harmonious _ _ input)
  · exact .surrounding rfl rfl (fills_generated harmonious _ _ configuration)
  · exact .surrounding rfl rfl (fills_support harmonious item)
  · exact .surrounding rfl rfl (fills_own harmonious inside _)
  · exact .surrounding rfl rfl (fills_support harmonious buildError)
  · exact .surrounding rfl rfl (fills_support harmonious itemModule)
  · exact .surrounding rfl rfl (fills_support harmonious body)
  · exact .surrounding rfl rfl (fills_text _)
  · exact .surrounding rfl rfl (fills_text _)

/-- Both generators write the code of their frames. -/
theorem generators_writtenBy (config : RuntimeConfig) {modulePath : String} (inside : modulePath ≠ "") :
    (∀ generator : ServiceConfig, Harmonious config generator.program → KeepLevel generator.customizations →
      generator.frame.WrittenBy config modulePath generator.program) ∧
    ∀ operation : Operation, Harmonious config operation.program → KeepLevel operation.customizations →
      (operation.frame config modulePath).WrittenBy config modulePath operation.program :=
  ⟨fun _ harmonious keep => ServiceConfig.writtenBy harmonious keep,
    fun _ harmonious keep => Operation.writtenBy inside harmonious keep⟩

end

/-- A customization with a field and with a method that is followed by an empty line. -/
def tracing : Customization ServiceConfigSlot where
  name := "tracing"
  contribution
    | .configStruct => .program [.write "trace: #T," [.target (.support .instant)]]
    | .configImpl => .program [.block "pub fn trace(&self)" [] [.write "self.trace.record();" []], .write "\n" []]
    | _ => .empty

/-- A customization with a field from a registry. -/
def metering : Customization ServiceConfigSlot where
  name := "metering"
  contribution
    | .configStruct =>
      .program [.write "meter: #T," [.target (.fixed (.inCrate (.registry "metrics" "0.21") "" "Counter"))]]
    | _ => .empty

/-- A service configuration with two customizations. -/
def meteredConfig : ServiceConfig := ⟨[tracing, metering]⟩

/-- An operation with a token and a region. -/
def itemOperation : Operation where
  name := "GetItem"
  service := "Store"
  customizations := [IdempotencyToken.forOperation (some "token"), Region.forOperation]

/-- A service configuration whose second customization brings a crate, and an operation with a token and a region. -/
theorem generators_writtenBy_meteredConfig :
    (meteredConfig.frame.WrittenBy {} "crate::store" meteredConfig.program ∧
      ∃ after, runAll meteredConfig.program (Writer.new {} "crate::store") = .ok () after) ∧
    (itemOperation.frame {} "crate::store").WrittenBy {} "crate::store" itemOperation.program := by
  have inside : "crate::store" ≠ "" := by decide
  have registered : (Manifest.registerAll (programDeclarations {} meteredConfig.program)).succeeds ∅ = true := by
    decide +kernel
  have registeredItem : (Manifest.registerAll (programDeclarations {} itemOperation.program)).succeeds ∅ = true := by
    decide +kernel
  have keep : KeepLevel meteredConfig.customizations := by
    refine List.forall_mem_cons.mpr ⟨fun slot _ => ?_, List.forall_mem_singleton.mpr fun slot _ => ?_⟩ <;>
    exact Writable.keepsLevel_of_levelFrom fun level => by cases slot <;> rfl
  have keepItem : KeepLevel itemOperation.customizations :=
    List.forall_mem_cons.mpr ⟨fun slot _ => IdempotencyToken.keepsLevel_forOperation _ slot,
      List.forall_mem_singleton.mpr fun slot _ => Region.keepsLevel_forOperation slot⟩
  have succeed : ∀ slot ∈ meteredConfig.frame.slots,
      (runAll (slot.2.map .insert)).succeeds (Writer.new {} "crate::store") = true := by
    decide +kernel
  have harmonious : Harmonious {} meteredConfig.program := by
    have mentioned : programDependencies meteredConfig.program = [.crate (.registry "metrics" "0.21")] := rfl
    refine harmonious_of_crates ?_ registered
    rw [mentioned]
    exact List.forall_mem_singleton.mpr ⟨_, rfl⟩
  have harmoniousItem : Harmonious {} itemOperation.program :=
    harmonious_of_crates (List.forall_mem_nil _) registeredItem
  have writes := (generators_writtenBy {} inside).1 meteredConfig harmonious keep
  have writesItem := (generators_writtenBy {} inside).2 itemOperation harmoniousItem keepItem
  refine ⟨⟨writes, writes.succeeds_iff.mpr fun slot mem => ?_⟩, writesItem⟩
  obtain ⟨_, after, ran⟩ := Action.succeeds_eq_true_iff.mp (succeed slot mem)
  exact ⟨after, ran⟩

end Cratewright
