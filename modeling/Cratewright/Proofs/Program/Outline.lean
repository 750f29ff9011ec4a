import Cratewright.Proofs.Manifest.Union
import Cratewright.Proofs.References
import Cratewright.Proofs.SupportPaths
import Cratewright.Proofs.Text.Sketch
import Cratewright.Proofs.Writer.Emission

/-!
# Outlines of what a program writes

The prefix of the support crates stands in front of an underscore wherever it is written, and never at the start of a
local path. So what a program writes is an outline, in which the lines have gaps for the prefix with that underscore,
and the crates are named by their role. `Retargets` says of an action that it leads from one outline to another one
under every prefix, and composes. Main statement: whatever a program writes and records under a prefix of one line and
without a colon, it is drawn by an outline that does not depend on the configuration.
-/

namespace Cratewright

open Text (Line Sketch Firm)
open Text.Sketch (literal)
open Template (Arguments AssignedLine Piece)

namespace RuntimeConfig

/-- What stands for the prefix in a path. -/
def stem (config : RuntimeConfig) : Line := (underscored config.cratePrefix).toList ++ ['_']

/-- Whether the prefix is one line without a colon. -/
structure Plain (config : RuntimeConfig) : Prop where
  whole : '\n' ∉ config.cratePrefix.toList
  foreign : ':' ∉ config.cratePrefix.toList

variable {config : RuntimeConfig}

/-- What stands for a plain prefix is one line that is not empty. -/
theorem Plain.firm (plain : config.Plain) : Firm config.stem where
  whole := by
    rw [stem, List.mem_append, not_or]
    exact ⟨not_mem_underscored plain.whole (by decide), by decide⟩
  trimmed := by
    rw [stem, Text.trimEnd, Text.dropEndWhile_concat]
    exact if_neg (by decide)
  nonempty := by simp [stem]

end RuntimeConfig

namespace KnownCrate

/-- The module path of a known crate, with a gap for the prefix. -/
def sketch (known : KnownCrate) : Sketch :=
  match known.supportName? with
  | some name => none :: literal (underscored name).toList
  | none => literal (known.declaration {}).modulePath.toList

/-- The sketch of a known crate, filled in for a prefix, is the module path of the crate. -/
theorem fill_sketch (config : RuntimeConfig) (known : KnownCrate) :
    known.sketch.fill config.stem = (known.declaration config).modulePath.toList := by
  rw [sketch]
  cases named : known.supportName? with
  | some name =>
    rw [declaration_of_supportName? config named, RuntimeConfig.modulePath_supportCrate, RuntimeConfig.supportPath,
      underscored_append, underscored_append]
    have underscore : (underscored "_").toList = ['_'] := by simp [underscored, String.toList_map]
    simp [Sketch.fillAt, RuntimeConfig.stem, underscore]
  | none =>
    rw [Sketch.fill_literal, CrateDependency.modulePath, CrateDependency.modulePath, name_of_supportName? config named]

/-- The name of a known crate holds no colon besides those of the prefix. -/
theorem foreign_modulePath {config : RuntimeConfig} (plain : config.Plain) (known : KnownCrate) :
    ':' ∉ (known.declaration config).modulePath.toList := by
  refine not_mem_underscored ?_ (by decide)
  have foreign := plain.foreign
  cases known <;>
    simp_all [declaration, RuntimeConfig.supportCrate, CrateDependency.directory, CrateDependency.registry]

/-- No known crate is taken for the generated one. -/
theorem modulePath_ne_localRoot (config : RuntimeConfig) (known : KnownCrate) :
    (known.declaration config).modulePath.toList ≠ localRoot.toList := by
  rw [← fill_sketch, sketch]
  cases named : known.supportName? with
  | some name =>
    have gap : '_' ∈ Sketch.fill config.stem (none :: literal (underscored name).toList) := by
      simp [Sketch.fillAt, RuntimeConfig.stem]
    intro same
    rw [same] at gap
    exact absurd gap (by decide)
  | none =>
    rw [Sketch.fill_literal, CrateDependency.modulePath, String.toList_map]
    cases known <;> cases named <;> decide

end KnownCrate

namespace SupportItem

/-- The full path of an item, with a gap for the prefix. -/
def sketch (item : SupportItem) : Sketch :=
  literal "::".toList ++ item.owner.sketch ++
    literal (below ((if item.path.isEmpty then [] else [item.path]) ++ item.name.toList)).toList

/-- The full path of an item depends on the prefix where it names the crate and nowhere else. -/
theorem fill_sketch {config : RuntimeConfig} (plain : config.Plain) (item : SupportItem) :
    item.sketch.fill config.stem = (item.reference config).fullPath.toList := by
  let crateReference : Reference :=
    ⟨none, some (.crate (item.owner.declaration config)), (item.owner.declaration config).modulePath⟩
  have inside : item.reference config = ⟨item.name, crateReference.dependency,
      crateReference.modulePath ++ below (if item.path.isEmpty then [] else [item.path])⟩ := by
    rw [reference]
    by_cases empty : item.path.isEmpty <;> simp [empty, crateReference, below, String.append_assoc]
  have colon : ':' ∉ crateReference.modulePath.toList := item.owner.foreign_modulePath plain
  have ends : crateReference.modulePath.toList.getLast? ≠ some ':' := fun last =>
    colon (List.mem_of_getLast? last)
  have elsewhere : crateReference.isLocal = false := by
    rw [Bool.eq_false_iff, ne_eq, Reference.isLocal_iff]
    rintro (same | ⟨rest, same⟩)
    · exact item.owner.modulePath_ne_localRoot config same
    · exact colon (same ▸ by simp)
  rw [inside, Reference.fullPath_eq, Reference.isLocal_below ends, elsewhere, Reference.path, String.append_assoc,
    ← below_append, sketch, Sketch.fill_append, Sketch.fill_append, Sketch.fill_literal, Sketch.fill_literal,
    KnownCrate.fill_sketch]
  simp [crateReference]

end SupportItem

/-- What has been written and recorded, whatever the prefix is: lines with gaps for it, known crates and inline modules
of a family. -/
structure Outline (family : Family) where
  lines : List Sketch := []
  level : Nat := 0
  crates : List KnownCrate := []
  modules : List {definition : InlineDependency // family.Member definition} := []

namespace Outline

variable {family : Family} {outline after : Outline family} {config : RuntimeConfig} {modulePath : String}
  {writer next : Writer}

/-- The dependencies of an outline under a configuration. -/
def brought (outline : Outline family) (config : RuntimeConfig) : List Dependency :=
  outline.crates.map (fun known => .crate (known.declaration config)) ++
    outline.modules.map fun definition => .inline definition.val

/-- Whether a writer of a module has written and recorded what an outline says under a configuration. -/
structure Draws (outline : Outline family) (config : RuntimeConfig) (modulePath : String) (writer : Writer) :
    Prop where
  configured : writer.config = config
  named : writer.modulePath = modulePath
  lines : writer.lines = outline.lines.map (Sketch.fill config.stem)
  level : writer.level = outline.level
  coherent : family.Coherent writer.manifest
  needs : writer.manifest.needs = Dependency.needsOfAll (outline.brought config)

/-- A new writer has written and recorded nothing. -/
theorem draws_new (family : Family) (config : RuntimeConfig) (modulePath : String) :
    Draws ({} : Outline family) config modulePath (Writer.new config modulePath) :=
  ⟨rfl, rfl, rfl, rfl, family.coherent_empty, Manifest.needs_empty⟩

/-- The outline with the known crates and inline modules of another one. -/
def also (outline other : Outline family) : Outline family :=
  { outline with crates := outline.crates ++ other.crates, modules := outline.modules ++ other.modules }

/-- Two outlines together need what either needs. -/
theorem needsOfAll_also (outline other : Outline family) (config : RuntimeConfig) :
    Dependency.needsOfAll ((outline.also other).brought config) =
      Dependency.needsOfAll (outline.brought config) ∪ Dependency.needsOfAll (other.brought config) := by
  simp only [brought, also, List.map_append, Dependency.needsOfAll_append]
  exact Set.union_union_union_comm ..

/-- A writer that only records what another outline brings is drawn by both outlines together. -/
theorem Draws.also {other : Outline family} {manifest : Manifest} (draws : outline.Draws config modulePath writer)
    (coherent : family.Coherent manifest)
    (needs : manifest.needs = writer.manifest.needs ∪ Dependency.needsOfAll (other.brought config)) :
    (outline.also other).Draws config modulePath { writer with manifest } where
  configured := draws.configured
  named := draws.named
  lines := draws.lines
  level := draws.level
  coherent := coherent
  needs := by rw [needsOfAll_also, ← draws.needs, needs]

end Outline

end Cratewright
