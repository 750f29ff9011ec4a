import Cratewright.CompilationUnit
import Cratewright.Proofs.Materialize.Order
import Mathlib.Data.List.Induction

/-!
# Generating the units of a crate

Units are generated one by one and meet only in the manifest of the crate. `Gathers` relates that manifest to the
manifests of the units that were generated; generating one more unit either adds its manifest or, if a crate would lie
at two places, leaves everything as it was. Main statement: a unit succeeds in a crate exactly when it succeeds alone
and agrees with the units before it that succeeded, and nothing but the manifests of these units makes up the manifest
of the crate.
-/

namespace Cratewright

namespace Manifest

/-- Merges manifests one after another. -/
def mergeAll : List Manifest → Registration Unit
  | [] => return
  | first :: rest => do
    merge first
    mergeAll rest

/-- Merging manifests in two parts merges the second part after the first. -/
theorem mergeAll_append (first second : List Manifest) :
    mergeAll (first ++ second) = (mergeAll first >>= fun _ => mergeAll second) := by
  induction first with
  | nil => simp [mergeAll]
  | cons manifest rest ih => simp [mergeAll, ih]

end Manifest

/-- A manifest as the merge of others, which says what they say together. -/
structure Family.Gathers (family : Family) (parts : List Manifest) (manifest : Manifest) : Prop where
  merged : Manifest.mergeAll parts ∅ = .ok () manifest
  coherent : family.Coherent manifest
  needs : ∀ need, need ∈ manifest.needs ↔ ∃ part ∈ parts, need ∈ part.needs

namespace Family

variable {family : Family} {parts : List Manifest} {manifest new after : Manifest}

/-- The empty manifest gathers no manifests. -/
theorem gathers_empty (family : Family) : family.Gathers [] ∅ where
  merged := rfl
  coherent := family.coherent_empty
  needs := by simp

/-- One more manifest that merges is one more part. -/
theorem Gathers.concat (gathers : family.Gathers parts manifest) (coherent : family.Coherent new)
    (run : Manifest.merge new manifest = .ok () after) : family.Gathers (parts ++ [new]) after where
  merged := by
    rw [Manifest.mergeAll_append, Action.bind_apply, gathers.merged]
    simp only [Manifest.mergeAll, Action.bind_apply, run]
    rfl
  coherent := gathers.coherent.merge coherent run
  needs := by
    intro need
    rw [gathers.coherent.needs_of_merge coherent run, Set.mem_union, gathers.needs]
    simp [or_and_right, exists_or]

/-- What is compatible with a merge is compatible with each of its parts. -/
theorem Gathers.compatible_iff (gathers : family.Gathers parts manifest) :
    new.Compatible manifest ↔ ∀ part ∈ parts, new.Compatible part := by
  constructor
  · intro compatible part mem
    refine Manifest.compatible_iff.mpr fun name one other here there => ?_
    exact Manifest.compatible_iff.mp compatible name one other here ((gathers.needs _).mpr ⟨part, mem, there⟩)
  · intro compatible
    refine Manifest.compatible_iff.mpr fun name one other here there => ?_
    obtain ⟨part, mem, there⟩ := (gathers.needs _).mp there
    exact Manifest.compatible_iff.mp (compatible part mem) name one other here there

/-- A manifest merges with others exactly when it is compatible with each of them. -/
theorem Gathers.merge_iff (gathers : family.Gathers parts manifest) (coherent : family.Coherent new) :
    (∃ after, Manifest.merge new manifest = .ok () after) ↔ ∀ part ∈ parts, new.Compatible part := by
  rw [gathers.coherent.merge_iff_agree coherent, Manifest.agree_union_iff, gathers.compatible_iff]

end Family

/-- The manifest of a unit, if it was generated. -/
def manifest? : Except UnitFailure GeneratedUnit → Option Manifest
  | .ok generated => some generated.manifest
  | .error _ => none

/-- The manifests of the units that were generated, in order. -/
def GeneratedCrate.manifests (crate : GeneratedCrate) : List Manifest := crate.units.filterMap manifest?

/-- The manifests of a crate are those of the units that have succeeded. -/
theorem GeneratedCrate.mem_manifests {crate : GeneratedCrate} {manifest : Manifest} :
    manifest ∈ crate.manifests ↔
      ∃ generated : GeneratedUnit, .ok generated ∈ crate.units ∧ generated.manifest = manifest := by
  rw [manifests, List.mem_filterMap]
  constructor
  · rintro ⟨outcome, mem, found⟩
    cases outcome <;> cases found
    exact ⟨_, mem, rfl⟩
  · rintro ⟨generated, mem, rfl⟩
    exact ⟨.ok generated, mem, rfl⟩

/-- The manifest that the program of a unit leaves on a fresh writer for its module. -/
def CompilationUnit.recorded (config : RuntimeConfig) (unit : CompilationUnit) : Manifest :=
  (stateAfter (runAll unit.program (Writer.new config unit.modulePath))).manifest

/-- A generated unit is the materialization of what its program recorded. -/
theorem Catalogue.materialize_of_generate {catalogue : Catalogue} {config : RuntimeConfig} {unit : CompilationUnit}
    {generated : GeneratedUnit} (run : catalogue.generate config unit = .ok generated) :
    ∃ out, catalogue.materialize config (unit.recorded config).items = .ok out ∧
      generated.inlineModules = out.modules ∧ generated.manifest = out.manifest := by
  rw [generate] at run
  rw [CompilationUnit.recorded]
  cases ran : runAll unit.program (Writer.new config unit.modulePath) with
  | error failure left =>
    rw [ran] at run
    cases run
  | ok _ written =>
    rw [ran] at run
    cases materialized : written.manifest.materialize catalogue config with
    | error failure => simp [materialized, Bind.bind, Except.bind] at run
    | ok out =>
      simp only [materialized] at run
      cases run
      exact ⟨out, materialized, rfl, rfl⟩

namespace Universe

variable {catalogue : Catalogue} {config : RuntimeConfig} {world : Universe catalogue config} {unit : CompilationUnit}
  {generated : GeneratedUnit} {parts : List Manifest} {manifest : Manifest}

/-- Whether a universe holds all that the program of a unit mentions. -/
def Covers (world : Universe catalogue config) (unit : CompilationUnit) : Prop :=
  ∀ dependency ∈ programDependencies unit.program, world.Holds dependency

/-- What the program of a unit records is coherent. -/
theorem Covers.coherent_recorded (covers : world.Covers unit) : world.Coherent (unit.recorded config) := by
  have kept : Keeps (Writer.Satisfies world.coherence) (runAll unit.program) := keeps_runAll covers
  exact kept (Writer.new config unit.modulePath) world.coherent_empty

/-- The manifest of a generated unit is coherent. -/
theorem Covers.coherent (covers : world.Covers unit) (run : catalogue.generate config unit = .ok generated) :
    world.Coherent generated.manifest := by
  obtain ⟨out, materialized, -, manifest⟩ := Catalogue.materialize_of_generate run
  rw [manifest]
  exact (advances_materialize covers.coherent_recorded.held materialized).sound.coherent

/-- A unit after others succeeds exactly when it does alone and its manifest is compatible with theirs. -/
theorem Covers.generateNext_eq_ok_iff (covers : world.Covers unit) (gathers : world.Gathers parts manifest) :
    (catalogue.generateNext config unit manifest).1 = .ok generated ↔
      catalogue.generate config unit = .ok generated ∧ ∀ part ∈ parts, generated.manifest.Compatible part := by
  rw [Catalogue.generateNext]
  cases run : catalogue.generate config unit with
  | error failure => simp
  | ok alone =>
    have mergeable := gathers.merge_iff (covers.coherent run)
    cases merged : Manifest.merge alone.manifest manifest with
    | error failure left =>
      have conflict : ¬ ∀ part ∈ parts, alone.manifest.Compatible part := by
        rw [← mergeable, merged]
        rintro ⟨after, impossible⟩
        cases impossible
      simp only [merged, reduceCtorEq, Except.ok.injEq, false_iff]
      rintro ⟨rfl, compatible⟩
      exact conflict compatible
    | ok _ after =>
      have compatible := mergeable.mp ⟨after, merged⟩
      simp only [merged, Except.ok.injEq]
      exact ⟨fun same => ⟨same, same ▸ compatible⟩, fun both => both.1⟩

/-- A unit after others adds its manifest to theirs or adds nothing. -/
theorem Covers.gathers_generateNext (covers : world.Covers unit) (gathers : world.Gathers parts manifest) :
    world.Gathers (parts ++ [(catalogue.generateNext config unit manifest).1].filterMap manifest?)
      (catalogue.generateNext config unit manifest).2 := by
  rw [Catalogue.generateNext]
  cases run : catalogue.generate config unit with
  | error failure => simpa [List.filterMap_cons, manifest?] using gathers
  | ok alone =>
    cases merged : Manifest.merge alone.manifest manifest with
    | error failure left => simpa [List.filterMap_cons, manifest?, merged] using gathers
    | ok _ after => simpa [List.filterMap_cons, manifest?, merged] using gathers.concat (covers.coherent run) merged

end Universe

namespace Catalogue

variable {catalogue : Catalogue} {config : RuntimeConfig}

/-- A unit that fails is reported under its own module. -/
theorem modulePath_of_generateNext {unit : CompilationUnit} {manifest : Manifest} {failure : UnitFailure}
    (failed : (catalogue.generateNext config unit manifest).1 = .error failure) :
    failure.modulePath = unit.modulePath := by
  rw [generateNext] at failed
  split at failed
  · cases failed
    rfl
  · split at failed <;> cases failed
    rfl

/-- Generating units after others goes on from what the others left. -/
theorem generateAfter_append (before later : List CompilationUnit) (manifest : Manifest) :
    catalogue.generateAfter config (before ++ later) manifest =
      let left := catalogue.generateAfter config before manifest
      let onward := catalogue.generateAfter config later left.manifest
      ⟨left.units ++ onward.units, onward.manifest⟩ := by
  induction before generalizing manifest with
  | nil => rfl
  | cons unit rest ih => simp [generateAfter, ih]

/-- Every unit has one outcome. -/
theorem length_generateAfter (units : List CompilationUnit) (manifest : Manifest) :
    (catalogue.generateAfter config units manifest).units.length = units.length := by
  induction units generalizing manifest with
  | nil => rfl
  | cons unit rest ih => simp [generateAfter, ih]

/-- The last unit is generated after the others, on the manifest that they leave. -/
theorem generateAll_concat (before : List CompilationUnit) (unit : CompilationUnit) :
    catalogue.generateAll config (before ++ [unit]) =
      let left := catalogue.generateAll config before
      let next := catalogue.generateNext config unit left.manifest
      ⟨left.units ++ [next.1], next.2⟩ := by
  rw [generateAll, generateAfter_append]
  rfl

/-- The results of some units are the first results of every longer list that begins with them. -/
theorem units_generateAll_append (before later : List CompilationUnit) :
    (catalogue.generateAll config before).units <+: (catalogue.generateAll config (before ++ later)).units := by
  rw [generateAll, generateAll, generateAfter_append]
  exact List.prefix_append _ _

/-- What the generation of some units reports. -/
structure Reports (catalogue : Catalogue) (config : RuntimeConfig) (units : List CompilationUnit)
    (crate : GeneratedCrate) : Prop where
  length : crate.units.length = units.length
  succeeds : ∀ {index : Nat} {unit : CompilationUnit}, units[index]? = some unit → ∀ generated,
    crate.units[index]? = some (.ok generated) ↔ catalogue.generate config unit = .ok generated ∧
      ∀ position < index, ∀ other, crate.units[position]? = some (.ok other) →
        generated.manifest.Compatible other.manifest
  fails : ∀ {index : Nat} {unit : CompilationUnit}, units[index]? = some unit → ∀ failure,
    crate.units[index]? = some (.error failure) → failure.modulePath = unit.modulePath
  merged : Manifest.mergeAll crate.manifests ∅ = .ok () crate.manifest
  stable : ∀ later, crate.units <+: (catalogue.generateAll config (units ++ later)).units

/-- The results of units up to some place, the result of the unit that stands there, and the results after it. -/
theorem units_generateAll_eq (catalogue : Catalogue) (config : RuntimeConfig) {units : List CompilationUnit}
    {index : Nat} {unit : CompilationUnit} (found : units[index]? = some unit) :
    ∃ onward, (catalogue.generateAll config units).units =
      (catalogue.generateAll config (units.take index)).units ++
        (catalogue.generateNext config unit (catalogue.generateAll config (units.take index)).manifest).1 ::
          onward := by
  obtain ⟨bound, rfl⟩ := List.getElem?_eq_some_iff.mp found
  have start : units.take index ++ units[index] :: units.drop (index + 1) = units := by
    rw [← List.drop_eq_getElem_cons bound, List.take_append_drop]
  refine ⟨(catalogue.generateAfter config (units.drop (index + 1))
    (catalogue.generateNext config units[index]
      (catalogue.generateAll config (units.take index)).manifest).2).units, ?_⟩
  conv_lhs => rw [← start, generateAll, generateAfter_append]
  rfl

/-- As many units come before a unit as its index says. -/
theorem length_units_generateAll_take (catalogue : Catalogue) (config : RuntimeConfig) {units : List CompilationUnit}
    {index : Nat} {unit : CompilationUnit} (found : units[index]? = some unit) :
    (catalogue.generateAll config (units.take index)).units.length = index := by
  obtain ⟨bound, -⟩ := List.getElem?_eq_some_iff.mp found
  rw [generateAll, length_generateAfter, List.length_take_of_le bound.le]

/-- The result of a unit is that of the unit after the units before it. -/
theorem units_generateAll_getElem? (catalogue : Catalogue) (config : RuntimeConfig) {units : List CompilationUnit}
    {index : Nat} {unit : CompilationUnit} (found : units[index]? = some unit) :
    (catalogue.generateAll config units).units[index]? =
      some (catalogue.generateNext config unit (catalogue.generateAll config (units.take index)).manifest).1 := by
  obtain ⟨onward, split⟩ := catalogue.units_generateAll_eq config found
  have length := catalogue.length_units_generateAll_take config found
  rw [split, List.getElem?_append_right length.le, length, Nat.sub_self, List.getElem?_cons_zero]

/-- The results before a unit are those of the units before it. -/
theorem mem_manifests_generateAll_take (catalogue : Catalogue) (config : RuntimeConfig) {units : List CompilationUnit}
    {index : Nat} {unit : CompilationUnit} (found : units[index]? = some unit) {manifest : Manifest} :
    manifest ∈ (catalogue.generateAll config (units.take index)).manifests ↔
      ∃ position < index, ∃ other : GeneratedUnit,
        (catalogue.generateAll config units).units[position]? = some (.ok other) ∧ other.manifest = manifest := by
  obtain ⟨onward, split⟩ := catalogue.units_generateAll_eq config found
  have length := catalogue.length_units_generateAll_take config found
  rw [GeneratedCrate.mem_manifests]
  constructor
  · rintro ⟨other, mem, same⟩
    obtain ⟨position, bound, there⟩ := List.mem_iff_getElem.mp mem
    refine ⟨position, length ▸ bound, other, ?_, same⟩
    rw [split, List.getElem?_append_left bound, List.getElem?_eq_getElem bound, there]
  · rintro ⟨position, bound, other, there, same⟩
    rw [split, List.getElem?_append_left (length.symm ▸ bound)] at there
    exact ⟨other, List.mem_of_getElem? there, same⟩

end Catalogue

namespace Universe

variable {catalogue : Catalogue} {config : RuntimeConfig} {world : Universe catalogue config}
  {units : List CompilationUnit}

/-- The manifest of a crate is the merge of the manifests of the units that were generated. -/
theorem gathers_generateAll (covers : ∀ unit ∈ units, world.Covers unit) :
    world.Gathers (catalogue.generateAll config units).manifests (catalogue.generateAll config units).manifest := by
  induction units using List.reverseRecOn with
  | nil => exact world.gathers_empty
  | append_singleton before unit ih =>
    rw [List.forall_mem_append, List.forall_mem_singleton] at covers
    have gathers := covers.2.gathers_generateNext (ih covers.1)
    rw [Catalogue.generateAll_concat, GeneratedCrate.manifests, List.filterMap_append]
    exact gathers

/-- Whatever the units of a crate, each is generated as it is alone unless it disagrees with an earlier one. -/
theorem reports_generateAll (world : Universe catalogue config) (covers : ∀ unit ∈ units, world.Covers unit) :
    catalogue.Reports config units (catalogue.generateAll config units) where
  length := Catalogue.length_generateAfter units ∅
  succeeds := by
    intro index unit found generated
    have coversUnit := covers unit (List.mem_of_getElem? found)
    have gathers : world.Gathers (catalogue.generateAll config (units.take index)).manifests _ :=
      gathers_generateAll fun unit mem => covers unit (List.mem_of_mem_take mem)
    rw [catalogue.units_generateAll_getElem? config found, Option.some.injEq,
      coversUnit.generateNext_eq_ok_iff gathers]
    refine and_congr_right fun _ => ⟨?_, ?_⟩
    · intro compatible position before other earlier
      have part := (catalogue.mem_manifests_generateAll_take config found).mpr ⟨position, before, other, earlier, rfl⟩
      exact compatible _ part
    · intro compatible part mem
      obtain ⟨position, before, other, earlier, rfl⟩ := (catalogue.mem_manifests_generateAll_take config found).mp mem
      exact compatible position before other earlier
  fails := by
    intro index unit found failure failed
    rw [catalogue.units_generateAll_getElem? config found, Option.some.injEq] at failed
    exact Catalogue.modulePath_of_generateNext failed
  merged := (gathers_generateAll covers).merged
  stable := fun later => Catalogue.units_generateAll_append units later

/-- An inline module that brings a crate. -/
def clockModule : InlineDependency := ⟨"clock", "clock", [.crate (.registry "time" "0.3")], .defined "clock"⟩

/-- Units of which the second wants the crate of the first from another place. -/
def clockUnits : List CompilationUnit :=
  [⟨"crate::client", [.write "let now = #T();" [.target (.fixed (clockModule.item "now"))]]⟩,
   ⟨"crate::server", [.register (.crate (.directory "time" "../time"))]⟩,
   ⟨"crate::audit", [.register (.inline clockModule)]⟩]

/-- The module of these units as a universe. -/
def clockUniverse : Universe {} {} :=
  .ofFamily (.listed [clockModule] (by decide) (by simp [clockModule])) <| by
    intro definition member dependency mem
    rw [List.mem_singleton.mp member] at mem
    cases mem

/-- Three units of which the second fails because its crate lies elsewhere, while the first and the third succeed. -/
theorem reports_clockUnits :
    Catalogue.Reports {} {} clockUnits (Catalogue.generateAll {} {} clockUnits) ∧
      (Catalogue.generateAll {} {} clockUnits).units.map (fun outcome => (manifest? outcome).isSome) =
        [true, false, true] := by
  have covers : ∀ unit ∈ clockUnits, clockUniverse.Covers unit := by
    have clock : clockUniverse.Holds (.inline clockModule) := List.mem_cons_self
    refine List.forall_mem_cons.mpr ⟨?_, List.forall_mem_cons.mpr ⟨?_, List.forall_mem_singleton.mpr ?_⟩⟩
    · exact List.forall_mem_singleton.mpr clock
    · exact List.forall_mem_singleton.mpr trivial
    · exact List.forall_mem_singleton.mpr clock
  exact ⟨clockUniverse.reports_generateAll covers, by decide +kernel⟩

end Universe

end Cratewright
