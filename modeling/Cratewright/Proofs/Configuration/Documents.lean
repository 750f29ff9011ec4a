import Cratewright.Configuration.Error
import Cratewright.Proofs.Keyed
import Mathlib.Data.List.Induction

/-!
# Values that are configuration documents

A document is meant to be a record with texts under the keys of the fields; the fields that are not there keep their
defaults. A list of at most two texts is taken for a document too, with its items in the places of the fields. Main
statement: a JSON value gives a configuration if and only if it is one of these, and otherwise a JSON error.
-/

namespace Cratewright

namespace Keyed

variable {α κ : Type} [Ord κ] [Std.TransOrd κ] [Std.LawfulEqOrd κ] [BEq κ] [LawfulBEq κ] {key : α → κ}

/-- Of the items of a list with one key the last is kept. -/
theorem mem_ofList_iff {items : List α} {found : α} :
    found ∈ (ofList items : Keyed key).items ↔ items.reverse.find? (key · == key found) = some found := by
  induction items using List.reverseRecOn with
  | nil => exact iff_of_false nofun nofun
  | append_singleton before last ih =>
    have stored : (ofList (before ++ [last]) : Keyed key) = (ofList before).put last := List.foldl_concat ..
    rw [stored, mem_put, ih, List.reverse_concat, List.find?_cons]
    by_cases same : key last = key found
    · simp [same, eq_comm]
    · have other : found ≠ last := fun equal => same (congrArg key equal.symm)
      have differs : (key last == key found) = false := beq_eq_false_iff_ne.mpr same
      simp [differs, Ne.symm same, other]

end Keyed

namespace Configuration

namespace Field

/-- No two settings have one key. -/
theorem key_injective {field other : Field} (same : field.key = other.key) : field = other := by
  cases field <;> cases other <;> first | rfl | exact absurd same (by decide)

/-- A key belongs to the setting that has it. -/
theorem ofKey?_eq_some_iff {key : String} {field : Field} : ofKey? key = some field ↔ field.key = key := by
  have named : ∀ field : Field, ofKey? field.key = some field := by
    intro field
    cases field <;> rfl
  constructor
  · intro found
    rw [ofKey?] at found
    have same := List.find?_some found
    exact beq_iff_eq.mp same
  · rintro rfl
    exact named field

end Field

namespace Settings

variable {settings next result : Settings}

/-- A setting has the value that was set last, and setting one leaves the other alone. -/
theorem get?_set (settings : Settings) (value : String) (field other : Field) :
    (settings.set value field).get? other = if other = field then some value else settings.get? other := by
  cases field <;> cases other <;> rfl

/-- Settings are determined by the values of the fields. -/
theorem ext_get?_iff : settings = result ↔ ∀ field, settings.get? field = result.get? field := by
  refine ⟨fun same field => same ▸ rfl, fun same => ?_⟩
  obtain ⟨cratePrefix, relativePath⟩ := settings
  obtain ⟨otherPrefix, otherPath⟩ := result
  have samePrefix : cratePrefix = otherPrefix := same .cratePrefix
  have samePath : relativePath = otherPath := same .relativePath
  rw [samePrefix, samePath]

/-- Only a text of a document is read as a text, and as it stands. -/
theorem textOfJson_eq_ok_iff {value : Json.Value} {text : String} :
    textOfJson value = .ok text ↔ value = .text text := by
  cases value <;> simp [textOfJson]

/-- A field may be set if the key is its own and it has not been set. -/
theorem fieldToSet_eq_ok_iff {key : String} {field : Field} :
    settings.fieldToSet key = .ok field ↔ field.key = key ∧ settings.get? field = none := by
  rw [fieldToSet, ← Field.ofKey?_eq_some_iff]
  cases Field.ofKey? key with
  | none => simp
  | some given =>
    cases isSet : settings.get? given with
    | none =>
      simp only [isSet, Option.isSome_none, Bool.false_eq_true, if_false, Except.ok.injEq, Option.some.injEq]
      exact ⟨fun same => ⟨same, same ▸ isSet⟩, And.left⟩
    | some value =>
      simp only [isSet, Option.isSome_some, if_true, reduceCtorEq, Option.some.injEq, false_iff]
      rintro ⟨rfl, unset⟩
      rw [isSet] at unset
      cases unset

/-- A member sets a field that is not set yet to a text. -/
theorem setMember_eq_ok_iff {member : String × Json.Value} :
    settings.setMember member = .ok next ↔
      ∃ (field : Field) (text : String), member = (field.key, .text text) ∧ settings.get? field = none ∧
        settings.set text field = next := by
  obtain ⟨key, value⟩ := member
  have bound : settings.setMember (key, value) = .ok next ↔
      ∃ field, settings.fieldToSet key = .ok field ∧ ∃ text, textOfJson value = .ok text ∧
        settings.set text field = next := by
    rw [setMember]
    cases settings.fieldToSet key with
    | error fault => simp [Bind.bind, Except.bind]
    | ok field => cases textOfJson value <;> simp [Bind.bind, Except.bind, Pure.pure, Except.pure]
  rw [bound]
  constructor
  · rintro ⟨field, free, text, isText, rfl⟩
    obtain ⟨rfl, unset⟩ := fieldToSet_eq_ok_iff.mp free
    exact ⟨field, text, by rw [textOfJson_eq_ok_iff.mp isText], unset, rfl⟩
  · rintro ⟨field, text, ⟨⟩, unset, rfl⟩
    exact ⟨field, fieldToSet_eq_ok_iff.mpr ⟨rfl, unset⟩, text, rfl, rfl⟩

/-- Setting a field leaves the fields of other keys as they are. -/
theorem unset_of_set {field : Field} {text : String} {keys : List String} (new : field.key ∉ keys)
    (unset : ∀ other : Field, other.key ∈ keys → settings.get? other = none) :
    ∀ other : Field, other.key ∈ keys → (settings.set text field).get? other = none := by
  intro other mem
  rw [get?_set, if_neg, unset other mem]
  rintro rfl
  exact new mem

/-- A field that was not set is set by its own member. -/
theorem mem_or_get?_set_iff {field : Field} {text : String} {rest : List (String × Json.Value)}
    (free : settings.get? field = none) (other : Field) (value : String) :
    (other.key, Json.Value.text value) ∈ rest ∨ (settings.set text field).get? other = some value ↔
      (other.key, Json.Value.text value) ∈ (field.key, Json.Value.text text) :: rest ∨
        settings.get? other = some value := by
  rw [get?_set, List.mem_cons]
  by_cases same : other = field
  · subst same
    simp [free, or_comm, eq_comm]
  · have apart : other.key ≠ field.key := fun equal => same (Field.key_injective equal)
    simp [same, apart]

/-- Members with different keys, none of which is set yet, are set if each is a text under the key of a field. -/
theorem foldlM_setMember_eq_ok_iff {members : List (String × Json.Value)} (distinct : (members.map Prod.fst).Nodup)
    (unset : ∀ field, Field.key field ∈ members.map Prod.fst → settings.get? field = none) :
    members.foldlM setMember settings = .ok result ↔
      (∀ member ∈ members, ∃ (field : Field) (text : String), member = (field.key, .text text)) ∧
        ∀ (field : Field) (text : String), result.get? field = some text ↔
          (field.key, .text text) ∈ members ∨ settings.get? field = some text := by
  induction members generalizing settings with
  | nil =>
    have same : settings = result ↔ ∀ field text, result.get? field = some text ↔ settings.get? field = some text := by
      rw [ext_get?_iff]
      constructor
      · intro equal field text
        rw [equal]
      · exact fun equal field => Option.ext fun text => (equal field text).symm
    simpa [Pure.pure, Except.pure] using same
  | cons member rest ih =>
    obtain ⟨new, distinctRest⟩ := List.nodup_cons.mp distinct
    have unfolded : (member :: rest).foldlM setMember settings = .ok result ↔
        ∃ next, settings.setMember member = .ok next ∧ rest.foldlM setMember next = .ok result := by
      rw [List.foldlM_cons]
      cases settings.setMember member <;> simp [Bind.bind, Except.bind]
    rw [unfolded]
    -- The keys are distinct, so what a member sets is free before it and stays as it is behind it.
    have later : ∀ {field : Field} {text : String}, member = (field.key, .text text) → settings.get? field = none →
        (rest.foldlM setMember (settings.set text field) = .ok result ↔
          (∀ member ∈ rest, ∃ (field : Field) (text : String), member = (field.key, .text text)) ∧
            ∀ (field : Field) (text : String), result.get? field = some text ↔
              (field.key, .text text) ∈ member :: rest ∨ settings.get? field = some text) := by
      rintro field text rfl free
      rw [ih distinctRest (unset_of_set new fun other mem => unset other (List.mem_cons_of_mem _ mem))]
      simp only [mem_or_get?_set_iff free]
    constructor
    · rintro ⟨next, step, onward⟩
      obtain ⟨field, text, same, free, rfl⟩ := setMember_eq_ok_iff.mp step
      obtain ⟨inner, given⟩ := (later same free).mp onward
      exact ⟨List.forall_mem_cons.mpr ⟨⟨field, text, same⟩, inner⟩, given⟩
    · rintro ⟨shaped, given⟩
      obtain ⟨⟨field, text, same⟩, inner⟩ := List.forall_mem_cons.mp shaped
      have free : settings.get? field = none := unset field (by simp [same])
      exact ⟨_, setMember_eq_ok_iff.mpr ⟨field, text, same, free, rfl⟩, (later same free).mpr ⟨inner, given⟩⟩

end Settings

/-- The members of a record in the order of their keys, the last of each key. -/
def ordered (members : List (String × Json.Value)) : Keyed (Prod.fst : String × Json.Value → String) := .ofList members

/-- The ordered members are those that a record is asked for under their keys. -/
theorem mem_ordered_iff {members : List (String × Json.Value)} {key : String} {value : Json.Value} :
    (key, value) ∈ (ordered members).items ↔ (Json.Value.record members).member? key = some value := by
  rw [ordered, Keyed.mem_ofList_iff, Json.Value.member?, Option.map_eq_some_iff]
  constructor
  · exact fun found => ⟨_, found, rfl⟩
  · rintro ⟨⟨other, _⟩, found, rfl⟩
    have same := List.find?_some found
    obtain rfl : other = key := beq_iff_eq.mp same
    exact found

/-- Every key of a record has a member that is kept. -/
theorem exists_mem_ordered {members : List (String × Json.Value)} {member : String × Json.Value}
    (mem : member ∈ members) : ∃ value, (member.1, value) ∈ (ordered members).items := by
  have found : (members.reverse.find? (·.1 == member.1)).isSome :=
    List.find?_isSome.mpr ⟨member, List.mem_reverse.mpr mem, beq_self_eq_true _⟩
  obtain ⟨kept, isKept⟩ := Option.isSome_iff_exists.mp found
  exact ⟨kept.2, mem_ordered_iff.mpr (Option.map_eq_some_iff.mpr ⟨kept, isKept, rfl⟩)⟩

/-- Ordering members brings no new ones. -/
theorem mem_of_mem_ordered {members : List (String × Json.Value)} {member : String × Json.Value}
    (mem : member ∈ (ordered members).items) : member ∈ members :=
  List.mem_reverse.mp (List.mem_of_find?_eq_some (Keyed.mem_ofList_iff.mp mem))

/-- Whether a JSON value describes a configuration: a record all of whose members are texts under the keys of fields,
where the last member of a key counts, or a list of at most two texts in the order of the fields. -/
inductive Describes : Json.Value → RuntimeConfig → Prop
  | record {members : List (String × Json.Value)} {settings : Settings}
      (known : ∀ member ∈ members, ∃ field : Field, field.key = member.1)
      (given : ∀ field : Field,
        (Json.Value.record members).member? field.key = (settings.get? field).map Json.Value.text) :
      Describes (.record members) settings.configuration
  | list {texts : List String} (short : texts.length ≤ 2) :
      Describes (.list (texts.map Json.Value.text)) (Settings.ofItems texts).configuration

/-- The members of a record set what the record describes. -/
theorem foldlM_ordered_eq_ok_iff {members : List (String × Json.Value)} {settings : Settings} :
    (ordered members).items.foldlM Settings.setMember {} = .ok settings ↔
      (∀ member ∈ members, ∃ field : Field, field.key = member.1) ∧
        ∀ field : Field, (Json.Value.record members).member? field.key =
          (settings.get? field).map Json.Value.text := by
  have distinct : ((ordered members).items.map Prod.fst).Nodup := by
    rw [List.Nodup, List.pairwise_map]
    exact (ordered members).ascending.imp Keyed.ne_of_compare_lt
  have nothing : ∀ field : Field, Settings.get? {} field = none := fun field => by cases field <;> rfl
  rw [Settings.foldlM_setMember_eq_ok_iff distinct fun field _ => nothing field]
  simp only [nothing, reduceCtorEq, or_false]
  constructor
  · rintro ⟨shaped, given⟩
    refine ⟨fun member mem => ?_, fun field => Option.ext fun value => ?_⟩
    · obtain ⟨value, kept⟩ := exists_mem_ordered mem
      obtain ⟨field, text, same⟩ := shaped _ kept
      exact ⟨field, (congrArg Prod.fst same).symm⟩
    · rw [← mem_ordered_iff, Option.map_eq_some_iff]
      constructor
      · intro kept
        obtain ⟨other, text, same⟩ := shaped _ kept
        obtain ⟨sameKey, rfl⟩ := Prod.mk.injEq .. ▸ same
        exact ⟨text, (given field text).mpr kept, rfl⟩
      · rintro ⟨text, isSet, rfl⟩
        exact (given field text).mp isSet
  · rintro ⟨known, given⟩
    constructor
    · rintro ⟨key, value⟩ kept
      obtain ⟨field, rfl⟩ := known _ (mem_of_mem_ordered kept)
      rw [mem_ordered_iff, given, Option.map_eq_some_iff] at kept
      obtain ⟨text, -, rfl⟩ := kept
      exact ⟨field, text, rfl⟩
    · intro field text
      rw [mem_ordered_iff, given, Option.map_eq_some_iff]
      simp

/-- A list is read as texts exactly if it is a list of texts. -/
theorem mapM_textOfJson_eq_ok_iff {items : List Json.Value} {texts : List String} :
    items.mapM textOfJson = .ok texts ↔ items = texts.map Json.Value.text := by
  induction items generalizing texts with
  | nil => cases texts <;> simp [Pure.pure, Except.pure]
  | cons item rest ih =>
    have unfolded : (item :: rest).mapM textOfJson = .ok texts ↔
        ∃ text, textOfJson item = .ok text ∧ ∃ others, rest.mapM textOfJson = .ok others ∧ text :: others = texts := by
      rw [List.mapM_cons]
      cases textOfJson item with
      | error fault => simp [Bind.bind, Except.bind]
      | ok text => cases rest.mapM textOfJson <;> simp [Bind.bind, Except.bind, Pure.pure, Except.pure]
    rw [unfolded]
    simp only [Settings.textOfJson_eq_ok_iff, ih]
    cases texts with
    | nil => simp
    | cons first others => simp

/-- A record is a configuration exactly if its ordered members can be set one after another. -/
theorem ofJson_record_eq_ok_iff {members : List (String × Json.Value)} {config : RuntimeConfig} :
    ofJson (.record members) = .ok config ↔
      ∃ settings, (ordered members).items.foldlM Settings.setMember {} = .ok settings ∧
        settings.configuration = config := by
  rw [ofJson]
  change ((ordered members).items.foldlM Settings.setMember {} >>= fun settings =>
    Except.ok settings.configuration) = .ok config ↔ _
  cases (ordered members).items.foldlM Settings.setMember {} <;> simp [Bind.bind, Except.bind]

/-- A list is a configuration exactly if it holds at most two texts, which stand for the settings in order. -/
theorem ofJson_list_eq_ok_iff {items : List Json.Value} {config : RuntimeConfig} :
    ofJson (.list items) = .ok config ↔
      ∃ texts : List String, items = texts.map Json.Value.text ∧ texts.length ≤ 2 ∧
        (Settings.ofItems texts).configuration = config := by
  have unfolded : ofJson (.list items) = .ok config ↔
      ∃ texts, (items.take 2).mapM textOfJson = .ok texts ∧ items.length ≤ 2 ∧
        (Settings.ofItems texts).configuration = config := by
    rw [ofJson]
    cases (items.take 2).mapM textOfJson with
    | error fault => simp [Bind.bind, Except.bind]
    | ok texts =>
      by_cases long : 2 < items.length
      · simp [Bind.bind, Except.bind, long]
      · simp [Bind.bind, Except.bind, Pure.pure, Except.pure, long, Nat.not_lt.mp long]
  rw [unfolded]
  simp only [mapM_textOfJson_eq_ok_iff]
  constructor
  · rintro ⟨texts, taken, short, same⟩
    rw [List.take_of_length_le short] at taken
    exact ⟨texts, taken, by simpa [taken] using short, same⟩
  · rintro ⟨texts, rfl, short, same⟩
    have counted : (texts.map Json.Value.text).length ≤ 2 := by simpa using short
    exact ⟨texts, List.take_of_length_le counted, counted, same⟩

/-- A document is read as a configuration exactly if it describes that configuration. -/
theorem ofJson_eq_ok_iff {document : Json.Value} {config : RuntimeConfig} :
    ofJson document = .ok config ↔ Describes document config := by
  cases document with
  | record members =>
    rw [ofJson_record_eq_ok_iff]
    simp only [foldlM_ordered_eq_ok_iff]
    constructor
    · rintro ⟨settings, ⟨known, given⟩, rfl⟩
      exact .record known given
    · rintro ⟨known, given⟩
      exact ⟨_, ⟨known, given⟩, rfl⟩
  | list items =>
    rw [ofJson_list_eq_ok_iff]
    constructor
    · rintro ⟨texts, rfl, short, rfl⟩
      exact .list short
    · rintro (_ | ⟨short⟩)
      exact ⟨_, rfl, short, rfl⟩
  | null | boolean | number | text => exact iff_of_false nofun nofun

/-- A JSON value gives the configuration that it describes, and a JSON error if it describes none. A list of at most
two texts describes one as a record does. -/
theorem load_document (document : Json.Value) :
    (∀ config, load (some document) = .ok config ↔ Describes document config) ∧
      ((∃ config, Describes document config) ∨
        ∃ fault, load (some document) = .error (.json (.field fault) none)) := by
  have loaded : load (some document) = (ofJson document).mapError fun fault => .json (.field fault) none := rfl
  rw [loaded]
  cases outcome : ofJson document with
  | ok config =>
    refine ⟨fun other => ?_, .inl ⟨config, ofJson_eq_ok_iff.mp outcome⟩⟩
    rw [← ofJson_eq_ok_iff, outcome]
    simp [Except.mapError]
  | error fault =>
    refine ⟨fun other => ?_, .inr ⟨fault, rfl⟩⟩
    rw [← ofJson_eq_ok_iff, outcome]
    simp [Except.mapError]

/-- A list is taken for a document although it is no record. -/
theorem load_list_acme :
    load (some (.list [.text "acme"])) = .ok ⟨"acme", "../"⟩ ∧
      ¬ ∃ members, Json.Value.list [.text "acme"] = .record members :=
  ⟨rfl, nofun⟩

end Configuration

end Cratewright
