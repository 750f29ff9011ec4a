import Cratewright.Support

/-!
# Paths of support crates

The configuration names a support crate twice: it declares the crate under a name with a hyphen behind the prefix, and
it announces a module path with an underscore there. Code finds the crate under the name with every hyphen rewritten,
those of the prefix and of the name too, and so do all references to items of the crate. Main statement: the announced
path is this one if and only if neither the prefix nor the name has a hyphen.
-/

namespace Cratewright

/-- A text with every hyphen written as an underscore. -/
def underscored (text : String) : String := text.map fun c => if c = '-' then '_' else c

/-- A text in two parts is rewritten part by part. -/
theorem underscored_append (first second : String) :
    underscored (first ++ second) = underscored first ++ underscored second := by
  rw [← String.toList_inj]
  simp [underscored, String.toList_map]

/-- A text stays as it is exactly if it has no hyphen. -/
theorem underscored_eq_self_iff {text : String} : underscored text = text ↔ '-' ∉ text.toList := by
  have pointwise : (∀ c ∈ text.toList, (if c = '-' then '_' else c) = id c) ↔ '-' ∉ text.toList := by
    constructor
    · intro unchanged mem
      exact absurd (unchanged '-' mem) (by decide)
    · intro plain c mem
      refine if_neg ?_
      rintro rfl
      exact plain mem
  rw [← pointwise, ← List.map_inj_left, List.map_id, ← String.toList_inj, underscored, String.toList_map]

/-- Rewriting hyphens brings no character but the underscore. -/
theorem not_mem_underscored {c : Char} {text : String} (absent : c ∉ text.toList) (other : c ≠ '_') :
    c ∉ (underscored text).toList := by
  rw [underscored, String.toList_map, List.mem_map]
  rintro ⟨source, mem, rfl⟩
  split at other
  · exact other rfl
  · rename_i kept
    rw [if_neg kept] at absent
    exact absent mem

/-- Whether a path is another one or lies below it. -/
def Within (root path : String) : Prop := path = root ∨ ∃ inner, path = root ++ "::" ++ inner

/-- A path below a root lies within the root, as does the root itself. -/
theorem within_inside (root path : String) : Within root (if path.isEmpty then root else root ++ "::" ++ path) := by
  split
  · exact .inl rfl
  · exact .inr ⟨path, rfl⟩

/-- The name of a known crate behind the prefix, if it has one there. -/
def KnownCrate.supportName? : KnownCrate → Option String
  | .types => some "types"
  | .http => some "http"
  | .json => some "json"
  | .xml => some "xml"
  | .query => some "query"
  | .client => some "client"
  | .sharedTypes | .httpMessages | .bytes | .fastrand | .serdeJson | .tower => none

/-- A known crate with a name among the support crates is declared as that support crate. -/
theorem KnownCrate.declaration_of_supportName? (config : RuntimeConfig) {known : KnownCrate} {name : String}
    (named : known.supportName? = some name) : known.declaration config = config.supportCrate name := by
  cases known <;> cases named <;> rfl

/-- The prefix has no influence on the name of a crate that has it not. -/
theorem KnownCrate.name_of_supportName? (config : RuntimeConfig) {known : KnownCrate}
    (other : known.supportName? = none) : (known.declaration config).name = (known.declaration {}).name := by
  cases known with
  | types | http | json | xml | query | client => cases other
  | sharedTypes => simp only [declaration, CrateDependency.directory]
  | httpMessages | bytes | fastrand | serdeJson | tower => rfl

namespace RuntimeConfig

/-- The hyphen between the prefix and the name is rewritten along with all others. -/
theorem modulePath_supportCrate (config : RuntimeConfig) (name : String) :
    (config.supportCrate name).modulePath = underscored (config.supportPath name) := by
  change underscored (config.cratePrefix ++ "-" ++ name) = _
  have hyphen : underscored "-" = underscored "_" := by
    rw [← String.toList_inj]
    simp [underscored, String.toList_map]
  rw [supportPath, underscored_append, underscored_append, underscored_append, underscored_append, hyphen]

/-- The path announced for a support crate is the module path of the crate exactly if no hyphen is rewritten. -/
theorem supportPath_eq_modulePath_iff (config : RuntimeConfig) (name : String) :
    config.supportPath name = (config.supportCrate name).modulePath ↔
      '-' ∉ config.cratePrefix.toList ∧ '-' ∉ name.toList := by
  rw [modulePath_supportCrate, eq_comm, underscored_eq_self_iff]
  simp [supportPath]

/-- Items of a support crate lie at or below the path under which code names the crate. -/
theorem within_modulePath_support (config : RuntimeConfig) {item : SupportItem} {name : String}
    (named : item.owner.supportName? = some name) :
    Within (config.supportCrate name).modulePath (item.reference config).modulePath := by
  rw [← KnownCrate.declaration_of_supportName? config named]
  exact within_inside _ _

/-- The path that is announced for a support crate is the one under which code names the crate, and at or below which
all references to its items lie, if and only if there is no hyphen in the prefix or in the name of the crate. -/
theorem supportPath_announced (config : RuntimeConfig) (name : String) :
    (config.supportPath name = (config.supportCrate name).modulePath ↔
      '-' ∉ config.cratePrefix.toList ∧ '-' ∉ name.toList) ∧
    (∀ path item, Within (config.supportCrate name).modulePath
      (Reference.inCrate (config.supportCrate name) path item).modulePath) ∧
    ∀ item : SupportItem, item.owner.supportName? = some name →
      Within (config.supportCrate name).modulePath (item.reference config).modulePath :=
  ⟨config.supportPath_eq_modulePath_iff name, fun path _ => within_inside _ path,
    fun _ named => config.within_modulePath_support named⟩

/-- A retry kind lies in the crate that its path announces. -/
theorem supportPath_announced_types :
    RuntimeConfig.supportPath {} "types" = (RuntimeConfig.supportCrate {} "types").modulePath ∧
      SupportItem.retryKind.owner.supportName? = some "types" ∧
      Within (RuntimeConfig.supportCrate {} "types").modulePath (SupportItem.retryKind.reference {}).modulePath := by
  obtain ⟨announced, -, items⟩ := supportPath_announced {} "types"
  exact ⟨announced.mpr (by decide), rfl, items .retryKind rfl⟩

/-- A prefix with a hyphen: the announced path names no crate, and items lie elsewhere. -/
theorem supportPath_hyphenated :
    RuntimeConfig.supportPath ⟨"my-co", "../"⟩ "types" ≠
        (RuntimeConfig.supportCrate ⟨"my-co", "../"⟩ "types").modulePath ∧
      (SupportItem.blob.reference ⟨"my-co", "../"⟩).modulePath = "my_co_types" := by
  constructor
  · intro announced
    exact absurd ((supportPath_eq_modulePath_iff _ _).mp announced).1 (by decide)
  · have root (config : RuntimeConfig) :
        (SupportItem.blob.reference config).modulePath = (config.supportCrate "types").modulePath := by
      simp [SupportItem.reference, SupportItem.path, SupportItem.owner, KnownCrate.declaration]
    rw [root, modulePath_supportCrate, ← String.toList_inj, underscored, String.toList_map]
    decide

end RuntimeConfig

end Cratewright
