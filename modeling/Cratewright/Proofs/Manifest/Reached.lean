import Cratewright.Proofs.Manifest.History

/-!
# Reached manifests

A manifest is reached from the empty one by registrations of admitted dependencies and by merges with other reached
manifests, and steps that fail belong to the way there. What every registration keeps holds of it: it is settled, and
coherent if what is admitted belongs to a family. Main statement: in a family it makes no difference to a reached
manifest in which order dependencies arrive.
-/

namespace Cratewright

namespace Manifest

/-- Manifests that come about from the empty one by registrations of admitted dependencies and merges with one another,
completed or not. -/
inductive Reached (admits : Dependency → Prop) : Manifest → Prop where
  | empty : Reached admits ∅
  | register {manifest dependency} (prior : Reached admits manifest) (admitted : admits dependency) :
      Reached admits (Step.after manifest (.register dependency))
  | merge {manifest other} (prior : Reached admits manifest) (reached : Reached admits other) :
      Reached admits (Step.after manifest (.merge other))

/-- Whether a step registers what is admitted or merges a manifest that is reached. -/
def Step.Admitted (admits : Dependency → Prop) : Step → Prop
  | .register dependency => admits dependency
  | .merge other => Reached admits other

variable {admits : Dependency → Prop} {manifest after : Manifest}

/-- A history of admitted steps leads from a reached manifest to a reached manifest. -/
theorem Reached.history (reached : Reached admits manifest) {steps : List Step}
    (admitted : ∀ step ∈ steps, step.Admitted admits) : Reached admits (manifest.after steps) := by
  induction steps generalizing manifest with
  | nil => exact reached
  | cons step rest ih =>
    rw [List.forall_mem_cons] at admitted
    have next : Reached admits (step.after manifest) := by
      cases step with
      | register dependency => exact .register reached admitted.1
      | merge other => exact .merge reached admitted.1
    exact ih next admitted.2

/-- A property that survives the registration of what is admitted holds of every reached manifest. -/
theorem Reached.holds (invariant : Invariant) (reached : Reached invariant.Admits manifest) :
    invariant.Holds manifest := by
  induction reached with
  | empty => exact invariant.holds_empty
  | register _ admitted ih => exact invariant.keeps_register admitted _ ih
  | merge _ _ ih ihOther => exact invariant.keeps_merge ihOther _ ih

/-- A manifest that was reached has brought what its modules declare. -/
theorem Reached.settled (reached : Reached admits manifest) : manifest.Settled := by
  induction reached with
  | empty => exact settled_empty
  | register _ _ ih => exact ih.step _
  | merge _ _ ih _ => exact ih.step _

/-- Registrations that all succeed leave what they leave one by one. -/
theorem after_of_registerAll {dependencies : List Dependency} (run : registerAll dependencies manifest = .ok () after) :
    manifest.after (dependencies.map .register) = after := by
  induction dependencies generalizing manifest with
  | nil =>
    rw [registerAll_nil] at run
    cases run
    rfl
  | cons first rest ih =>
    obtain ⟨_, between, registered, others⟩ := registerAll_cons_eq_ok run
    have step : Step.after manifest (.register first) = between := by rw [Step.after, registered]; rfl
    rw [List.map_cons, Manifest.after, List.foldl_cons, step]
    exact ih others

end Manifest

namespace Dependency

/-- The order of dependencies does not change what they need. -/
theorem needsOfAll_perm {dependencies others : List Dependency} (same : dependencies.Perm others) :
    needsOfAll dependencies = needsOfAll others := by
  ext need
  simp only [mem_needsOfAll, same.mem_iff]

end Dependency

namespace Family

variable {family : Family} {manifest after : Manifest} {arrivals others : List Dependency}

/-- A manifest that was reached with a family is coherent with it. -/
theorem coherent_of_reached (reached : Manifest.Reached family.Holds manifest) : family.Coherent manifest :=
  reached.holds family.coherence

/-- Registrations that succeed in one order succeed in every other and come to the same manifest. -/
theorem Coherent.registerAll_perm (coherent : family.Coherent manifest)
    (held : ∀ dependency ∈ arrivals, family.Holds dependency) (same : arrivals.Perm others)
    (run : Manifest.registerAll arrivals manifest = .ok () after) :
    Manifest.registerAll others manifest = .ok () after := by
  have heldOthers : ∀ dependency ∈ others, family.Holds dependency := fun dependency mem =>
    held dependency (same.mem_iff.mpr mem)
  have needs : after.needs = manifest.needs ∪ Dependency.needsOfAll others :=
    Dependency.needsOfAll_perm same ▸ coherent.needs_of_registerAll held run
  have coherentAfter := family.coherence.keeps_registerAll held manifest coherent
  have coherentOther := family.coherence.keeps_registerAll heldOthers manifest coherent
  rw [run] at coherentAfter
  cases runOthers : Manifest.registerAll others manifest with
  | error failure left => exact absurd (needs ▸ after.agree_needs) (not_agree_of_registerAll runOthers)
  | ok _ afterOthers =>
    rw [runOthers] at coherentOther
    have equal : after = afterOthers :=
      eq_of_needs_eq coherentAfter coherentOther (needs.trans (coherent.needs_of_registerAll heldOthers runOthers).symm)
    rw [equal]

/-- Whatever the order in which dependencies of a family arrive, either all are registered or not all, and if all are
then the manifest is the same, also where each is registered for itself. -/
theorem registerAll_eq_ok_iff_of_perm (reached : Manifest.Reached family.Holds manifest)
    (held : ∀ dependency ∈ arrivals, family.Holds dependency) (same : arrivals.Perm others) :
    (∀ after, Manifest.registerAll arrivals manifest = .ok () after ↔
      Manifest.registerAll others manifest = .ok () after) ∧
    ((∃ after, Manifest.registerAll arrivals manifest = .ok () after) →
      manifest.after (arrivals.map .register) = manifest.after (others.map .register)) := by
  have coherent := coherent_of_reached reached
  have heldOthers : ∀ dependency ∈ others, family.Holds dependency := fun dependency mem =>
    held dependency (same.mem_iff.mpr mem)
  constructor
  · exact fun after => ⟨coherent.registerAll_perm held same, coherent.registerAll_perm heldOthers same.symm⟩
  · rintro ⟨after, run⟩
    rw [Manifest.after_of_registerAll run, Manifest.after_of_registerAll (coherent.registerAll_perm held same run)]

/-- The crate that the modules below declare, with other features and scopes. -/
def logCrate : CrateDependency := .registry "log" "0.4"

/-- A module that declares a crate. -/
def spanModule : InlineDependency := ⟨"span", "trace", [.crate (logCrate.withFeature "std")], .defined "span"⟩

/-- A module that declares the module before and its crate once more. -/
def traceModule : InlineDependency :=
  ⟨"trace", "trace", [.inline spanModule, .crate { logCrate.withFeature "kv" with scope := .dev }], .defined "trace"⟩

/-- The two modules as a family. -/
def traceFamily : Family :=
  .listed [spanModule, traceModule] (by decide) (by simp [spanModule, traceModule])

/-- A manifest that has the crate of the modules and another one. -/
def loggingManifest : Manifest :=
  Manifest.after ∅ [.register (.crate (.registry "bytes" "1")), .register (.crate (logCrate.withFeature "serde"))]

/-- Registering crates of the family reaches a manifest. -/
theorem reached_loggingManifest : Manifest.Reached traceFamily.Holds loggingManifest :=
  Manifest.Reached.empty.history (by simp [Manifest.Step.Admitted, Holds])

/-- The second module, its crate and the first module. -/
def traceArrivals : List Dependency :=
  [.inline traceModule, .crate { logCrate with scope := .dev }, .inline spanModule]

/-- Two modules of a family and their crate, registered in either order on a manifest with that crate. -/
theorem registerAll_traceArrivals_reverse :
    ∃ after, Manifest.registerAll traceArrivals loggingManifest = .ok () after ∧
      Manifest.registerAll traceArrivals.reverse loggingManifest = .ok () after ∧
      loggingManifest.after (traceArrivals.map .register) =
        loggingManifest.after (traceArrivals.reverse.map .register) := by
  have held : ∀ dependency ∈ traceArrivals, traceFamily.Holds dependency := by
    have trace : traceFamily.Holds (.inline traceModule) := List.mem_cons_of_mem _ List.mem_cons_self
    have span : traceFamily.Holds (.inline spanModule) := List.mem_cons_self
    exact List.forall_mem_cons.mpr ⟨trace, List.forall_mem_cons.mpr ⟨trivial, List.forall_mem_singleton.mpr span⟩⟩
  have alike := registerAll_eq_ok_iff_of_perm reached_loggingManifest held (List.reverse_perm traceArrivals).symm
  have succeeds : (Manifest.registerAll traceArrivals).succeeds loggingManifest = true := by decide +kernel
  obtain ⟨_, after, run⟩ := Action.succeeds_eq_true_iff.mp succeeds
  exact ⟨after, run, (alike.1 after).mp run, alike.2 ⟨after, run⟩⟩

end Family

end Cratewright
